import AimailGateway.Smtp.Outcomes

/-! # Transactions on one connection

When the session a transaction opens with holds nothing of the transactions
before it, the transaction is what a new connection would make of it.
-/

namespace AimailGateway.Smtp

open Library Action

/-! ## Isolation -/

/-- From every MAIL that opens a transaction on, the connection does what a new
one would do, and an email is created in the system of the recipients of its
transaction. -/
structure Isolated (receiver : Receiver) (events : List Event) : Prop where
  fresh : ∀ earlier opening rest, events = earlier ++ opening :: rest →
    opening.Opens →
    ∃ last, Run (Serves receiver) Peer.connected (opening :: rest) last
  owned : ∀ earlier opening middle closing later,
    events = earlier ++ opening :: (middle ++ closing :: later) →
    opening.Opens → (∀ event ∈ middle, ¬ event.Opens) →
    ∀ row, Storage.Created closing.before.db closing.after.db row →
    ∀ event ∈ middle, event.accepted →
    ∀ recipient, event.command = .rcpt recipient →
    ∃ resolved, event.Adds receiver resolved ∧ resolved.systemId = row.systemId

/-- What RCPT leaves the session with depends on the target alone: the systems
collected so far are dropped or are the target's, and so is a persona. -/
structure Fits (recipient : String) (resolved : Target) (session : Session) :
    Prop where
  system : systemsAfter recipient session.systemId resolved = resolved.systemId
  persona : session.persona = none ∨ resolved.persona ≠ ""

instance (recipient : String) (resolved : Target) (session : Session) :
    Decidable (Fits recipient resolved session) :=
  decidable_of_iff
    (systemsAfter recipient session.systemId resolved = resolved.systemId ∧
      (session.persona = none ∨ resolved.persona ≠ ""))
    ⟨fun fits => ⟨fits.1, fits.2⟩, fun fits => ⟨fits.system, fits.persona⟩⟩

/-- The target is of one system, and no other one was met in the transaction. -/
def SingleSystem (peer : Peer) (recipient : String) (resolved : Target) : Prop :=
  Text.containsChar '|' resolved.systemId = false ∧
    (peer.phase = .mail → Fits recipient resolved peer.session) ∧
    (peer.phase = .rcpt → peer.session.systemId = some resolved.systemId)

instance (peer : Peer) (recipient : String) (resolved : Target) :
    Decidable (SingleSystem peer recipient resolved) :=
  inferInstanceAs (Decidable (_ ∧ _ ∧ _))

/-- MAIL meets no recipients and no text of an earlier message; the first RCPT
accepted meets no system but its own and no persona; those after it are of the
same system. -/
def KeepsApart (receiver : Receiver) (db : Database) (peer : Peer) :
    Command → Prop
  | .mail _ => peer.phase = .idle →
      peer.session.recipients = [] ∧ peer.session.messageData = ""
  | .rcpt recipient => ∀ resolved ∈ target receiver db recipient,
      SingleSystem peer recipient resolved
  | .data _ => True
  | .reset => True

instance (receiver : Receiver) (db : Database) (peer : Peer) :
    (command : Command) → Decidable (KeepsApart receiver db peer command)
  | .mail _ => inferInstanceAs (Decidable (_ → _))
  | .rcpt _ => inferInstanceAs (Decidable (∀ resolved ∈ _, _))
  | .data _ => inferInstanceAs (Decidable True)
  | .reset => inferInstanceAs (Decidable True)

def KeptApart (receiver : Receiver) (peer : Peer) (event : Event) : Prop :=
  KeepsApart receiver event.before.db peer event.command

instance (receiver : Receiver) (peer : Peer) (event : Event) :
    Decidable (KeptApart receiver peer event) :=
  inferInstanceAs (Decidable (KeepsApart _ _ _ _))

/-! ## What a transaction reads of the session before it -/

section Coupling

variable {receiver : Receiver}
  {failed : Response → Connection → Connection → Prop}

/-- The second session lacks systems and a persona of the first. -/
structure SameLeftovers (first second : Session) : Prop where
  recipients : first.recipients = second.recipients
  messageData : first.messageData = second.messageData
  systemId : second.systemId = none ∨ second.systemId = first.systemId
  persona : second.persona = none ∨ second.persona = first.persona

/-- Sessions of an open transaction that differ in what the next accepted
RCPT overwrites at most. -/
structure SameEnvelope (first second : Session) : Prop
    extends SameLeftovers first second where
  sender : first.sender = second.sender
  opened : first.sender ≠ none

/-- Sessions that differ in the persona and the verdict at most. -/
structure SameSystem (first second : Session) : Prop
    extends SameEnvelope first second where
  domain : first.domain = second.domain
  sameSystem : first.systemId = second.systemId

/-- Sessions that differ in the verdict at most. -/
structure SameOwner (first second : Session) : Prop
    extends SameSystem first second where
  samePersona : first.persona = second.persona

theorem SameLeftovers.refl (session : Session) :
    SameLeftovers session session :=
  ⟨rfl, rfl, .inr rfl, .inr rfl⟩

theorem mail_coupled (sender : String) :
    (mail receiver sender).Coupled (Beside SameLeftovers)
      (fun _ => Beside SameEnvelope) (fun _ => Beside SameEnvelope) := by
  rw [mail]
  apply (coupled_update SameEnvelope ?_).bind
  · intro _
    apply coupled_attempted.bind
    intro found
    split
    · exact coupled_fail fun _ _ same => same
    · exact coupled_pure fun _ _ same => same
    · exact coupled_fail fun _ _ same => same
  · exact fun first second same =>
      ⟨⟨same.recipients, same.messageData, same.systemId, same.persona⟩, rfl,
        Option.some_ne_none _⟩

theorem checkSender_coupled (addr : String) :
    (checkSender receiver addr).Coupled (Beside SameOwner)
      (fun _ => Beside Eq) (fun _ => Beside SameEnvelope) := by
  rw [checkSender]
  apply (coupled_storedSender fun _ _ same => same.sender).bind
  intro sender
  cases sender with
  | none =>
      exact coupled_pure fun _ _ same => absurd same.2.2 same.2.1.opened
  | some sender =>
      apply coupled_attempted.bind
      intro verdict
      cases verdict with
      | ok verdict =>
          apply coupled_update Eq
          rintro ⟨_, _, _, _, _, _, _⟩ ⟨_, _, _, _, _, _, _⟩ ⟨same, _⟩
          have recipients := same.recipients
          have messageData := same.messageData
          have sender := same.sender
          have domain := same.domain
          have owner := same.sameSystem
          have persona := same.samePersona
          simp only at recipients messageData sender domain owner persona
          subst recipients messageData sender domain owner persona
          rfl
      | error error =>
          exact coupled_fail fun _ _ same => ⟨same.1, same.2.1.toSameEnvelope⟩

theorem addRecipient_coupled (addr : String) :
    (addRecipient addr).Coupled (Beside Eq) (fun _ => Beside Eq) failed := by
  apply coupled_update Eq
  intro first second same
  rw [same]

theorem joinSystem_eq_of_fits {first second : Session} {systemId : String}
    (same : second.systemId = none ∨ second.systemId = first.systemId)
    (fits : joinSystem first.systemId systemId = systemId) :
    joinSystem second.systemId systemId = systemId := by
  rcases same with missing | same
  · rw [missing]
    rfl
  · rw [same]
    exact fits

def SameFitting (recipient : String) (chosen : Option Target)
    (first second : Session) : Prop :=
  SameEnvelope first second ∧
    ∀ resolved, chosen = some resolved → Fits recipient resolved first

/-- Sessions of one system; the persona is absent or about to be
overwritten. -/
def SameButPersona (persona : String) (first second : Session) : Prop :=
  SameSystem first second ∧ (first.persona = none ∨ persona ≠ "")

theorem resolved_coupled {recipient : String} {resolved : Target} :
    (update fun session => session.resolved recipient resolved).Coupled
      (Beside (SameFitting recipient (some resolved)))
      (fun _ => Beside (SameButPersona resolved.persona)) failed := by
  apply coupled_update
  rintro first second ⟨same, fitting⟩
  have fits := fitting resolved rfl
  have owner : systemsAfter recipient second.systemId resolved =
      resolved.systemId := by
    have mine := fits.system
    rw [systemsAfter] at mine ⊢
    split
    · rfl
    · next plain =>
        rw [if_neg plain] at mine
        exact joinSystem_eq_of_fits same.systemId mine
  refine ⟨⟨⟨⟨same.recipients, same.messageData, .inr ?_, same.persona⟩,
    same.sender, same.opened⟩, rfl, ?_⟩, fits.persona⟩
  · rw [Session.resolved, Session.resolved, owner, fits.system]
  · rw [Session.resolved, Session.resolved, owner, fits.system]

theorem SameButPersona.unnamed {first second : Session}
    (same : SameButPersona "" first second) : SameOwner first second := by
  have missing : first.persona = none := same.2.resolve_right (absurd rfl)
  refine ⟨same.1, ?_⟩
  rcases same.1.persona with absent | equal
  · rw [missing, absent]
  · exact equal.symm

theorem notePersona_coupled {persona : String} :
    (notePersona persona).Coupled (Beside (SameButPersona persona))
      (fun _ => Beside SameOwner) failed := by
  rw [notePersona, when]
  split
  · apply coupled_update SameOwner
    rintro first second ⟨same, _⟩
    exact ⟨⟨⟨⟨same.recipients, same.messageData, same.systemId, .inr rfl⟩,
      same.sender, same.opened⟩, same.domain, same.sameSystem⟩, rfl⟩
  · next plain =>
      have unnamed : persona = "" := by simpa using plain
      subst unnamed
      exact coupled_pure fun _ _ same => ⟨same.1, same.2.unnamed⟩

theorem checkAndAdd_coupled (addr added : String) :
    (do
      checkSender receiver addr
      addRecipient added).Coupled (Beside SameOwner) (fun _ => Beside Eq)
      (fun _ => Beside SameEnvelope) :=
  (checkSender_coupled addr).bind fun _ => addRecipient_coupled added

def Begins (receiver : Receiver) (recipient : String) (db : Database)
    (first second : Connection) : Prop :=
  first.world.db = db ∧
    Beside (SameFitting recipient (target receiver db recipient)) first second

theorem resolves_coupled {recipient : String} {db : Database} {α : Type}
    {action : Handling α} {chosen : α → Target}
    (coupled : action.Coupled
      (Beside (SameFitting recipient (target receiver db recipient)))
      (fun _ => Beside (SameFitting recipient (target receiver db recipient)))
      fun _ => Beside (SameFitting recipient (target receiver db recipient)))
    (ends : ∀ connection : Connection, connection.world.db = db →
      action.Ends (fun value _ =>
        target receiver db recipient = some (chosen value))
        (fun _ _ => True) connection) :
    action.Coupled (Begins receiver recipient db)
      (fun value => Beside (SameFitting recipient (some (chosen value))))
      (fun _ => Beside SameEnvelope) := by
  have along : action.Coupled (Begins receiver recipient db)
      (fun _ => Beside (SameFitting recipient (target receiver db recipient)))
      fun _ => Beside (SameFitting recipient (target receiver db recipient)) :=
    coupled.along fun _ _ start => start.2
  apply (along.withEnds fun first _ start => ends first start.1).mono
  · rintro value first second ⟨same, found⟩
    rw [← found]
    exact same
  · exact fun _ _ _ same => ⟨same.1.1, same.1.2.1⟩

theorem rcpt_coupled (recipient : String) (db : Database) :
    (rcpt receiver recipient).Coupled (Begins receiver recipient db)
      (fun _ => Beside Eq) (fun _ => Beside SameEnvelope) := by
  rw [rcpt]
  cases board : Board.isBoardAddress recipient with
  | true =>
      rw [if_pos rfl, rcptBoardAddr]
      have resolves : ((onWorld (resolveBoardRecipient receiver
          recipient)).mapError BoardAddrError.response).Coupled
          (Begins receiver recipient db)
          (fun owner => Beside (SameFitting recipient (some ⟨recipient,
            receiver.env.tables.toLowercase recipient, owner.1, owner.2, ""⟩)))
          (fun _ => Beside SameEnvelope) := by
        apply resolves_coupled coupled_translated
        intro connection start
        rw [ends_mapError, ends_onWorld]
        apply resolveBoardRecipient_ends
        · exact fun _ _ _ => trivial
        · intro systemId domain later same found
          rw [target, board, ← start]
          exact found
      apply resolves.bind
      rintro ⟨systemId, domain⟩
      have replaces : (fun session : Session => { session with
          systemId := some systemId
          domain := some domain }) =
          fun session => session.resolved recipient ⟨recipient,
            receiver.env.tables.toLowercase recipient, systemId, domain, ""⟩ := by
        funext session
        rw [Session.resolved, systemsAfter, board, if_pos rfl]
      simp only
      rw [replaces]
      apply resolved_coupled.bind
      intro _
      exact (checkAndAdd_coupled _ _).along
        fun _ _ same => ⟨same.1, same.2.unnamed⟩
  | false =>
      rw [if_neg (by simp)]
      apply (resolves_coupled coupled_onWorld ?_).bind
      · intro resolved
        have joins : (fun session : Session => { session with
            systemId := some (joinSystem session.systemId resolved.systemId)
            domain := some resolved.domain }) =
            fun session => session.resolved recipient resolved := by
          funext session
          rw [Session.resolved, systemsAfter, board, if_neg (by simp)]
        rw [joins]
        apply resolved_coupled.bind
        intro _
        apply notePersona_coupled.bind
        exact fun _ => checkAndAdd_coupled _ _
      · intro connection start
        rw [ends_onWorld]
        apply resolveRecipient_ends
        · exact fun _ _ _ => trivial
        · intro resolved later same found
          rw [target_checked board, ← start]
          exact found

end Coupling

/-! ## Two connections side by side -/

section Simulation

variable {receiver : Receiver}
  {outcome : Except Response Unit}

def Close : Phase → Session → Session → Prop
  | .idle => SameLeftovers
  | .mail => SameEnvelope
  | .rcpt | .data | .closed => Eq

/-- The second connection lacks at most what the first has left over. -/
structure Alike (first second : Peer) : Prop where
  phase : first.phase = second.phase
  session : Close first.phase first.session second.session

theorem Alike.eq {first second : Peer} (alike : Alike first second)
    (settled : first.phase ≠ .idle ∧ first.phase ≠ .mail) :
    first = second := by
  have close : first.session = second.session := by
    have close := alike.session
    cases phase : first.phase with
    | idle => exact absurd phase settled.1
    | mail => exact absurd phase settled.2
    | _ =>
        rw [phase] at close
        exact close
  rcases first with ⟨_, session⟩
  rcases second with ⟨_, other⟩
  have same := alike.phase
  simp only at same close
  rw [same, close]

theorem Alike.leftovers {first second : Peer} (alike : Alike first second) :
    SameLeftovers first.session second.session := by
  by_cases settled : first.phase ≠ .idle ∧ first.phase ≠ .mail
  · rw [alike.eq settled]
    exact .refl _
  · have close := alike.session
    cases phase : first.phase with
    | idle => rwa [phase] at close
    | mail =>
        rw [phase] at close
        exact close.toSameLeftovers
    | _ => exact absurd (by simp [phase]) settled

theorem handled_coupled {handler : Handling Unit} {accepted : Phase}
    {refused : Response → Phase}
    {before : Connection → Connection → Prop} {first second : Session}
    {world later : World} {next : Peer}
    (coupled : handler.Coupled before (fun _ => Beside (Close accepted))
      (fun response => Beside (Close (refused response))))
    (start : before ⟨first, world⟩ ⟨second, world⟩)
    (ran : handled handler accepted refused first world =
      (outcome, next, later)) :
    ∃ other, handled handler accepted refused second world =
      (outcome, other, later) ∧ Alike next other := by
  have ends := coupled _ _ start
  rw [ends_iff_run] at ends
  rw [handled] at ran
  rcases result : handler.run ⟨first, world⟩ with ⟨response | value, last⟩
  · rw [result] at ran
    cases ran
    rcases ends.2 response last result with ⟨other, reran, same, close⟩
    refine ⟨⟨refused response, other.session⟩, ?_, rfl, close⟩
    rw [handled, reran, same]
  · rw [result] at ran
    cases ran
    rcases ends.1 value last result with ⟨other, reran, same, close⟩
    refine ⟨⟨accepted, other.session⟩, ?_, rfl, close⟩
    rw [handled, reran, same]

theorem Close.refl {phase : Phase} (settled : phase ≠ .mail)
    (session : Session) : Close phase session session := by
  cases phase with
  | idle => exact SameLeftovers.refl session
  | mail => exact absurd rfl settled
  | _ => rfl

theorem handled_refl {handler : Handling Unit} {accepted : Phase}
    {refused : Response → Phase}
    {session : Session} {world later : World} {next : Peer}
    (accepting : accepted ≠ .mail) (refusing : ∀ response, refused response ≠ .mail)
    (ran : handled handler accepted refused session world =
      (outcome, next, later)) : Alike next next := by
  have coupled : handler.Coupled Eq (fun _ => Beside (Close accepted))
      (fun response => Beside (Close (refused response))) := by
    apply (coupled_refl handler).mono
    · intro _ first second same
      subst same
      exact ⟨rfl, Close.refl accepting _⟩
    · intro response first second same
      subst same
      exact ⟨rfl, Close.refl (refusing response) _⟩
  rcases handled_coupled coupled rfl ran with ⟨other, reran, alike⟩
  rw [ran] at reran
  cases reran
  exact alike

theorem afterRefusal_ne_mail (response : Response) :
    afterRefusal response ≠ .mail := by
  rw [afterRefusal]
  split <;> simp

theorem settled_step {peer next : Peer} {event : Event}
    (serves : Serves receiver peer event next)
    (settled : peer.phase ≠ .idle ∧ peer.phase ≠ .mail) : Alike next next := by
  have stays : Alike peer peer := ⟨rfl, Close.refl settled.2 _⟩
  by_cases admits : peer.Admits event.command
  · rcases admits with ⟨idle, _⟩ | ⟨addressing, recipient, command⟩ |
      ⟨text, command⟩ | ⟨free, command⟩
    · exact absurd idle settled.1
    · have ready := addressing.resolve_left settled.2
      simp only [Serves, command, serve, ready] at serves
      exact handled_refl (by simp) (by simp) serves
    · exact handled_refl (by simp) afterRefusal_ne_mail (serves.receives command)
    · rw [(serves.reset command free).1]
      exact ⟨rfl, SameLeftovers.refl _⟩
  · have unserved := serves.unserved admits
    refine ⟨rfl, Close.refl ?_ _⟩
    rw [unserved.phase]
    exact settled.2

theorem Alike.step {first second next : Peer} {event : Event}
    (alike : Alike first second) (apart : KeptApart receiver first event)
    (serves : Serves receiver first event next) :
    ∃ other, Serves receiver second event other ∧ Alike next other := by
  by_cases settled : first.phase ≠ .idle ∧ first.phase ≠ .mail
  · rw [← alike.eq settled]
    exact ⟨next, serves, settled_step serves settled⟩
  rcases first with ⟨phase, session⟩
  rcases second with ⟨_, other⟩
  have samePhase := alike.phase
  simp only at samePhase
  subst samePhase
  rcases event with ⟨command, before, outcome, after⟩
  simp only [Serves] at serves ⊢
  have stays (refused : (.error badSequence, ⟨phase, session⟩, before) =
      (outcome, next, after)) :
      ∃ last, (.error badSequence, ⟨phase, other⟩, before) =
        (outcome, last, after) ∧ Alike next last := by
    cases refused
    exact ⟨_, rfl, alike⟩
  cases phase with
  | idle =>
      cases command with
      | mail sender =>
          have coupled : (mail receiver sender).Coupled (Beside SameLeftovers)
              (fun _ => Beside (Close .mail))
              (fun _ => Beside (Close .idle)) :=
            (mail_coupled sender).mono (fun _ _ _ same => same)
              fun _ _ _ same => ⟨same.1, same.2.toSameLeftovers⟩
          have start : Beside SameLeftovers ⟨session, before⟩
              ⟨other, before⟩ := ⟨rfl, alike.session⟩
          exact handled_coupled coupled start serves
      | reset =>
          cases serves
          exact ⟨_, rfl, rfl, alike.leftovers⟩
      | _ => exact stays serves
  | mail =>
      cases command with
      | rcpt recipient =>
          have coupled : (rcpt receiver recipient).Coupled
              (Begins receiver recipient before.db)
              (fun _ => Beside (Close .rcpt))
              (fun _ => Beside (Close .mail)) := rcpt_coupled recipient before.db
          have start : Begins receiver recipient before.db ⟨session, before⟩
              ⟨other, before⟩ :=
            ⟨rfl, rfl, alike.session, fun resolved found =>
              (apart resolved found).2.1 rfl⟩
          exact handled_coupled coupled start serves
      | reset =>
          cases serves
          exact ⟨_, rfl, rfl, alike.leftovers⟩
      | _ => exact stays serves
  | _ => exact absurd (by simp) settled

theorem Alike.run {first second last : Peer} {events : List Event}
    (alike : Alike first second)
    (run : Run (Guarded (KeptApart receiver) (Serves receiver)) first events
      last) :
    ∃ other, Run (Serves receiver) second events other ∧ Alike last other := by
  induction run generalizing second with
  | nil peer => exact ⟨second, .nil second, alike⟩
  | cons moved rest induction =>
      rcases alike.step moved.1 moved.2 with ⟨middle, serves, near⟩
      rcases induction near with ⟨other, ran, close⟩
      exact ⟨other, .cons serves ran, close⟩

end Simulation

/-! ## The system of a transaction -/

section Ownership

variable {receiver : Receiver} {first last : Peer} {event : Event}
  {events : List Event}

/-- The event adds a recipient of the session's one system. -/
def Event.AddsTo (receiver : Receiver) (event : Event) (session : Session) :
    Prop :=
  event.accepted → ∀ recipient, event.command = .rcpt recipient →
    ∃ resolved, event.Adds receiver resolved ∧
      session.systemId = some resolved.systemId ∧
      Text.containsChar '|' resolved.systemId = false

/-- A recipient was accepted, and no message. -/
def Peer.Loaded (peer : Peer) : Prop :=
  peer.phase = .rcpt ∨ peer.phase = .data

/-- What a command within a transaction does to the system of the session. -/
structure OwnerKept (receiver : Receiver) (first : Peer) (event : Event)
    (last : Peer) : Prop where
  kept : first.Loaded → last.Loaded ∧
    last.session.systemId = first.session.systemId
  added : event.accepted → ∀ recipient, event.command = .rcpt recipient →
    last.Loaded
  owner : event.AddsTo receiver last.session

theorem systemsAfter_own {recipient : String} {resolved : Target} :
    systemsAfter recipient (some resolved.systemId) resolved =
      resolved.systemId := by
  rw [systemsAfter]
  split
  · rfl
  · rw [joinSystem, if_pos rfl]

theorem closed_run (run : Run (Serves receiver) first events last)
    (closed : first.phase = .closed) : last.phase = .closed := by
  induction run with
  | nil peer => exact closed
  | @cons first _ _ label _ moved rest induction =>
      have refused : ¬ first.Admits label.command := by
        rintro (⟨idle, _⟩ | ⟨addressing, _⟩ | ⟨text, command⟩ | ⟨free, _⟩)
        · rw [closed] at idle
          cases idle
        · exact addressing.free.2 (.inr closed)
        · cases sent : label.command <;> rw [sent] at command <;>
            simp [Peer.message, closed] at command
        · exact free (.inr closed)
      exact induction ((moved.unserved refused).phase.trans closed)

theorem owner_step (apart : KeptApart receiver first event)
    (serves : Serves receiver first event last) (opened : first.Opened)
    (within : ¬ event.Opens)
    (busy : last.phase ≠ .idle ∧ last.phase ≠ .closed) :
    OwnerKept receiver first event last := by
  by_cases admits : first.Admits event.command
  · rcases admits with ⟨idle, _⟩ | ⟨addressing, recipient, command⟩ |
      ⟨text, command⟩ | ⟨free, command⟩
    · exact absurd (idle_step serves within idle) busy.1
    · rw [KeptApart, command] at apart
      rcases opened addressing with ⟨sender, stored⟩
      have ready : first.Loaded → first.phase = .rcpt := by
        rintro (ready | receiving)
        · exact ready
        · exact absurd (.inl receiving) addressing.free.2
      rcases (serves.rcpt command addressing stored).outcome with
        ⟨accepted, phase, resolved, verdict, found, _, session⟩ |
        ⟨rejected, phase, refused⟩
      · have fits := apart resolved found
        have owner : last.session.systemId = some resolved.systemId := by
          rw [session, Session.accepted, Session.resolved]
          rcases addressing with phase | phase
          · rw [(fits.2.1 phase).system]
          · rw [fits.2.2 phase, systemsAfter_own]
        refine ⟨fun loaded => ⟨.inl phase, ?_⟩, fun _ _ _ => .inl phase, ?_⟩
        · rw [owner, fits.2.2 (ready loaded)]
        · intro _ other same
          rw [command] at same
          cases same
          exact ⟨resolved, ⟨accepted, recipient, command, found⟩, owner, fits.1⟩
      · refine ⟨fun loaded => ⟨.inl (phase.trans (ready loaded)), ?_⟩,
          fun accepted => absurd accepted rejected,
          fun accepted => absurd accepted rejected⟩
        rcases refused.systemId with same | ⟨resolved, found, systemId⟩
        · exact same
        · have fits := apart resolved found
          rw [systemId, fits.2.2 (ready loaded), systemsAfter_own]
    · have served := serves.message command
      have receiving : last.Loaded := by
        rcases served.phase with idle | receiving | closed
        · exact absurd idle busy.1
        · exact .inr receiving
        · exact absurd closed busy.2
      have sent : ∀ recipient, event.command ≠ .rcpt recipient := by
        intro recipient same
        rw [same] at command
        cases command
      exact ⟨fun _ => ⟨receiving, served.systemId⟩,
        fun _ recipient same => absurd same (sent recipient),
        fun _ recipient same => absurd same (sent recipient)⟩
    · rw [(serves.reset command free).1] at busy
      exact absurd rfl busy.1
  · have unserved := serves.unserved admits
    have system : last.session.systemId = first.session.systemId := by
      rcases unserved.session with same | ⟨_, same⟩
      · rw [same]
      · exact same
    refine ⟨fun loaded => ⟨?_, system⟩,
      fun accepted => absurd accepted unserved.refused,
      fun accepted => absurd accepted unserved.refused⟩
    rw [Peer.Loaded, unserved.phase]
    exact loaded

theorem owner_run
    (run : Run (Guarded (KeptApart receiver) (Serves receiver)) first events
      last)
    (opened : first.Opened) (within : ∀ event ∈ events, ¬ event.Opens)
    (ready : last.Loaded) :
    (first.Loaded → last.session.systemId = first.session.systemId) ∧
    ∀ event ∈ events, event.AddsTo receiver last.session := by
  induction run with
  | nil peer => exact ⟨fun _ => rfl, fun _ member => absurd member (by simp)⟩
  | @cons first second last label labels moved rest induction =>
      have inside : ∀ event ∈ labels, ¬ event.Opens :=
        fun event member => within event (List.mem_cons_of_mem _ member)
      have notOpening := within label List.mem_cons_self
      have busy : second.phase ≠ .idle ∧ second.phase ≠ .closed := by
        constructor
        · intro idle
          have ended := idle_run rest.of_guarded inside idle
          rcases ready with ready | ready <;>
            · rw [ready] at ended
              cases ended
        · intro closed
          have ended := closed_run rest.of_guarded closed
          rcases ready with ready | ready <;>
            · rw [ready] at ended
              cases ended
      have step := owner_step moved.1 moved.2 opened notOpening busy
      have tail := induction (opened.step moved.2) inside ready
      refine ⟨fun start => ?_, fun event member => ?_⟩
      · rcases step.kept start with ⟨phase, same⟩
        rw [tail.1 phase, same]
      · rcases List.mem_cons.mp member with rfl | member
        · intro accepted recipient command
          rw [tail.1 (step.added accepted recipient command)]
          exact step.owner accepted recipient command
        · exact tail.2 event member

theorem created_data {row : EmailRecord}
    (serves : Serves receiver first event last) (opened : first.Opened)
    (created : Storage.Created event.before.db event.after.db row) :
    ∃ text, first.message event.command = some text := by
  have nothing (same : event.after.db = event.before.db) : False := by
    rw [same] at created
    exact created.false_of_sameMails (.refl _)
  by_cases admits : first.Admits event.command
  · rcases admits with ⟨idle, sender, command⟩ |
      ⟨addressing, recipient, command⟩ | message | ⟨free, command⟩
    · exact (nothing (serves.mail command idle).unchanged).elim
    · rcases opened addressing with ⟨sender, stored⟩
      exact (nothing (serves.rcpt command addressing stored).unchanged).elim
    · exact message
    · exact (nothing (by rw [(serves.reset command free).2])).elim
  · exact (nothing (by rw [(serves.unserved admits).unchanged])).elim

theorem Peer.loaded_of_message {peer : Peer} {command : Command}
    {text : List String} (message : peer.message command = some text) :
    peer.Loaded := by
  cases command with
  | data chunks =>
      rw [Peer.message] at message
      cases phase : peer.phase <;> rw [phase] at message <;> cases message
      · exact .inl phase
      · exact .inr phase
  | _ => cases message

theorem created_owner {row : EmailRecord} {systemId : String}
    (serves : Serves receiver first event last) (opened : first.Opened)
    (created : Storage.Created event.before.db event.after.db row)
    (owner : first.session.systemId = some systemId)
    (single : Text.containsChar '|' systemId = false) :
    row.systemId = systemId := by
  rcases created_data serves opened created with ⟨text, message⟩
  rcases ((serves.message message).creates row created).filed with
    ⟨pending, extracted, filed⟩
  have stored : pending.systemId = systemId := by
    have taken := (pending_taken extracted).systemId
    rw [Session.loaded, owner] at taken
    cases taken
    rfl
  cases filed with
  | notice blank owned labelled => rw [owned, stored]
  | message named headers body attachments recipients checked owned =>
      rw [owned, primarySystem, stored, Text.firstPiece_of_not_contains single]

theorem Peer.Opened.run {first last : Peer} {events : List Event}
    (opened : first.Opened) (run : Run (Serves receiver) first events last) :
    last.Opened :=
  run.invariant (fun _ _ _ holds serves => holds.step serves) opened

theorem Event.Opens.idle (serves : Serves receiver first event last)
    (opens : event.Opens) : first.phase = .idle := by
  rcases opens with ⟨accepted, sender, command⟩
  by_contra busy
  refine (serves.unserved ?_).refused accepted
  rw [command]
  rintro (⟨idle, _⟩ | ⟨_, _, other⟩ | ⟨_, other⟩ | ⟨_, other⟩)
  · exact busy idle
  · cases other
  · cases other
  · cases other

/-- A run whose commands keep apart isolates its transactions. -/
theorem transactions_isolated (receiver : Receiver) (events : List Event)
    (last : Peer)
    (run : Run (Guarded (KeptApart receiver) (Serves receiver)) Peer.connected
      events last) : Isolated receiver events := by
  have connected : Peer.connected.Opened :=
    fun addressing => absurd rfl addressing.free.1
  constructor
  · intro earlier opening rest parts opens
    subst parts
    rcases run.split with ⟨start, before, after⟩
    have idle : start.phase = .idle := by
      cases after with
      | cons moved tail => exact opens.idle moved.2
    have clean : start.session.recipients = [] ∧
        start.session.messageData = "" := by
      cases after with
      | cons moved tail =>
          rcases opens with ⟨accepted, sender, command⟩
          have apart := moved.1
          rw [KeptApart, command] at apart
          exact apart idle
    have alike : Alike start Peer.connected := by
      refine ⟨idle, ?_⟩
      rw [idle]
      exact ⟨clean.1, clean.2, .inl rfl, .inl rfl⟩
    rcases alike.run after with ⟨other, ran, _⟩
    exact ⟨other, ran⟩
  · intro earlier opening middle closing later parts opens inside row created
      event member accepted recipient added
    subst parts
    rcases run.split with ⟨start, before, after⟩
    cases after with
    | @cons _ opened _ _ _ moved tail =>
        have startOpened := connected.run before.of_guarded
        have openedOpened := startOpened.step moved.2
        rcases tail.split with ⟨ready, inner, rest⟩
        cases rest with
        | cons ends _ =>
            have readyOpened := openedOpened.run inner.of_guarded
            rcases created_data ends.2 readyOpened created with
              ⟨text, message⟩
            have owners := (owner_run inner openedOpened inside
              (Peer.loaded_of_message message)).2
            rcases owners event member accepted recipient added with
              ⟨resolved, adds, owner, single⟩
            exact ⟨resolved, adds,
              (created_owner ends.2 readyOpened created owner single).symm⟩

end Ownership

/-- Two transactions of two systems on one connection, the second opened after
the first was reset. -/
def mixedTransactions : List Command :=
  [.mail "pal@c.test", .rcpt "alice@a.test", .reset, .mail "pal@c.test",
    .rcpt "bob@b.test",
    .data ["To: bob@b.test\n", "Subject: hi\n", "\n", "hello"]]

/-- What the counterexample needs of an event: the command and its outcome,
the systems of the emails before and after it, and of `bob@b.test`. -/
def Event.outline (event : Event) :
    Command × Option Unit × List String × List String × Option String :=
  (event.command, event.outcome.toOption,
    event.before.db.emails.rows.map (·.systemId),
    event.after.db.emails.rows.map (·.systemId),
    (target plainReceiver event.before.db "bob@b.test").map (·.systemId))

/-- The message to `bob@b.test` of `sys-b` is stored in `sys-a`. -/
theorem transactions_mix :
    ¬ ∀ receiver events last,
      Run (Serves receiver) Peer.connected events last →
        Isolated receiver events := by
  intro claim
  have isolated := claim plainReceiver _ _ (converse_run plainReceiver
    .connected (World.start aliceAndBob) mixedTransactions)
  have outlines : (talk mixedTransactions).map Event.outline =
      [(.mail "pal@c.test", some (), [], [], some "sys-b"),
        (.rcpt "alice@a.test", some (), [], [], some "sys-b"),
        (.reset, some (), [], [], some "sys-b"),
        (.mail "pal@c.test", some (), [], [], some "sys-b"),
        (.rcpt "bob@b.test", some (), [], [], some "sys-b"),
        (.data ["To: bob@b.test\n", "Subject: hi\n", "\n", "hello"], some (),
          [], ["sys-a"], some "sys-b")] := by decide +kernel
  rw [talk] at outlines
  generalize (converse plainReceiver .connected (World.start aliceAndBob)
    mixedTransactions).1 = events at isolated outlines
  obtain ⟨first, events, rfl, -, outlines⟩ := List.map_eq_cons_iff.mp outlines
  obtain ⟨second, events, rfl, -, outlines⟩ := List.map_eq_cons_iff.mp outlines
  obtain ⟨third, events, rfl, -, outlines⟩ := List.map_eq_cons_iff.mp outlines
  obtain ⟨opening, events, rfl, opens, outlines⟩ :=
    List.map_eq_cons_iff.mp outlines
  obtain ⟨adding, events, rfl, adds, outlines⟩ :=
    List.map_eq_cons_iff.mp outlines
  obtain ⟨closing, events, rfl, closes, outlines⟩ :=
    List.map_eq_cons_iff.mp outlines
  simp only [Event.outline, Prod.mk.injEq] at opens adds closes
  obtain ⟨row, rows, stored, system, _⟩ :=
    List.map_eq_cons_iff.mp closes.2.2.2.1
  have created : Storage.Created closing.before.db closing.after.db row := by
    refine ⟨?_, fun old member => ?_⟩
    · rw [← Table.mem_rows, stored]
      exact List.mem_cons_self
    · rw [← Table.mem_rows, List.map_eq_nil_iff.mp closes.2.2.1] at member
      exact absurd member List.not_mem_nil
  rcases isolated.owned [first, second, third] opening [adding] closing events
      rfl ⟨accepted_of_toOption opens.2.1, _, opens.1⟩
      (by
        intro event member opened
        rcases List.mem_singleton.mp member with rfl
        rcases opened with ⟨_, sender, command⟩
        rw [adds.1] at command
        cases command)
      row created adding (List.mem_singleton_self _)
      (accepted_of_toOption adds.2.1) _ adds.1 with
    ⟨resolved, ⟨_, recipient, command, found⟩, owner⟩
  rw [adds.1] at command
  cases command
  have expected := adds.2.2.2.2
  rw [found, Option.map_some, owner, system] at expected
  exact absurd expected (by decide)

/-- A message that is filed, a transaction that is reset after its recipient
was refused, and a message that is refused: the lines after it are more of it. -/
def severalTransactions : List Command :=
  [.mail "pal@c.test", .rcpt "bob@b.test",
    .data ["To: bob@b.test\n", "\n", "hello"], .mail "pal@c.test",
    .rcpt "nobody@b.test", .reset, .mail "pal@c.test", .rcpt "bob@b.test",
    .data ["To: zoe@z.test\n", "\n", "hello"], .reset, .mail "pal@c.test",
    .data ["To: bob@b.test\n", "\n", "hello"]]

example : (talk severalTransactions).map (·.outcome.toOption) =
    [some (), some (), some (), some (), none, some (), some (), some (), none,
      none, none, none] := by
  decide +kernel

theorem transactions_isolated_sample :
    Isolated plainReceiver (talk severalTransactions) :=
  transactions_isolated plainReceiver _ _
    (converse_guarded plainReceiver .connected (World.start aliceAndBob) _
      (by decide +kernel))

end AimailGateway.Smtp
