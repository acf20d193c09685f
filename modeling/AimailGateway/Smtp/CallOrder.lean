import AimailGateway.Smtp.Engine

/-! # The order of the engine's calls

Whatever lines a client sends and however the handler answers, what the engine
asks of the handler is a sequence of mail transactions.
-/

namespace AimailGateway.Smtp

open Library

/-! ## What is asked -/

inductive Call where
  | helo (domain : String)
  | mail (domain reversePath : String)
  | rcpt (forwardPath : String)
  | dataStart (domain reversePath : String) (forwardPath : List String)
  | data (chunk : String)
  | dataEnd
  deriving DecidableEq

/-- A call, and whether its answer lets the engine go on. -/
structure Asked where
  call : Call
  accepted : Bool
  deriving DecidableEq

/-- `transform_state` takes the next state. -/
def Reply.goesOn (res : Reply) : Bool :=
  res.action != .close && res.action != .unwinds && !res.isError

def consents (answer : Option Nat) : Bool := (Reply.of answer).goesOn

def noted (call : Call) (accepted : α → Bool) (answer : σ → α × σ)
    (state : List Asked × σ) : α × (List Asked × σ) :=
  match answer state.2 with
  | (result, next) => (result, (state.1 ++ [⟨call, accepted result⟩], next))

/-- The handler, with a log of its calls. The engine takes any answer to DATA
that is no error for consent. -/
def recording (handler : Handler σ) : Handler (List Asked × σ) where
  helo := fun domain =>
    noted (.helo domain) consents (handler.helo domain)
  mail := fun domain reversePath =>
    noted (.mail domain reversePath) consents
      (handler.mail domain reversePath)
  rcpt := fun forwardPath =>
    noted (.rcpt forwardPath) consents (handler.rcpt forwardPath)
  dataStart := fun domain reversePath is8bit forwardPath =>
    noted (.dataStart domain reversePath forwardPath)
      (fun answer => !(Reply.of answer).isError)
      (handler.dataStart domain reversePath is8bit forwardPath)
  data := fun chunk => noted (.data chunk) id (handler.data chunk)
  dataEnd := noted .dataEnd consents handler.dataEnd

/-- The engine after the lines of a session. -/
def processAll (handler : Handler σ) (fsm : Fsm σ) (lines : List String) :
    Fsm σ :=
  lines.foldl (fun fsm line => (process handler fsm line).2) fsm

/-- The engine without the log. -/
def Fsm.forget (fsm : Fsm (List Asked × σ)) : Fsm σ :=
  ⟨fsm.smtp, fsm.handler.2⟩

/-! ## Transactions -/

/-- What the accepted calls have come to. -/
structure Envelope where
  domain : Option String
  reversePath : Option String
  recipients : List String
  receiving : Bool
  deriving DecidableEq

namespace Envelope

def start : Envelope := ⟨none, none, [], false⟩

def after (envelope : Envelope) : Asked → Envelope
  | ⟨_, false⟩ => envelope
  | ⟨.helo domain, true⟩ => ⟨some domain, none, [], false⟩
  | ⟨.mail _ reversePath, true⟩ =>
      { envelope with reversePath := some reversePath, recipients := [] }
  | ⟨.rcpt forwardPath, true⟩ =>
      { envelope with recipients := envelope.recipients ++ [forwardPath] }
  | ⟨.dataStart _ _ _, true⟩ => { envelope with receiving := true }
  | ⟨.data _, true⟩ => envelope
  | ⟨.dataEnd, true⟩ =>
      { envelope with
        reversePath := none
        recipients := []
        receiving := false }

/-- What the calls of a log have come to. -/
def of (log : List Asked) : Envelope := log.foldl after start

theorem of_append (log : List Asked) (asked : Asked) :
    of (log ++ [asked]) = (of log).after asked :=
  List.foldl_append

/-- A message is asked for with exactly what was accepted of its envelope, and
while it is read nothing else is asked. -/
def Permits (envelope : Envelope) : Call → Prop
  | .helo _ => envelope.receiving = false
  | .mail domain _ =>
      envelope.receiving = false ∧ envelope.domain = some domain
  | .rcpt _ =>
      envelope.receiving = false ∧ envelope.reversePath.isSome = true
  | .dataStart domain reversePath forwardPath =>
      envelope = ⟨some domain, some reversePath, forwardPath, false⟩ ∧
        forwardPath ≠ []
  | .data _ => envelope.receiving = true
  | .dataEnd => envelope.receiving = true

/-- Each call is permitted by what the calls before it have come to. -/
def Accepts : Envelope → List Asked → Prop
  | _, [] => True
  | envelope, asked :: rest =>
      envelope.Permits asked.call ∧ Accepts (envelope.after asked) rest

def Tracks (envelope : Envelope) : State → Prop
  | .idle => envelope.receiving = false
  | .hello domain =>
      envelope.receiving = false ∧ envelope.domain = some domain
  | .mail domain reversePath _ =>
      envelope = ⟨some domain, some reversePath, [], false⟩
  | .rcpt domain reversePath _ forwardPath =>
      envelope = ⟨some domain, some reversePath, forwardPath, false⟩ ∧
        forwardPath ≠ []
  | .data domain =>
      envelope.receiving = true ∧ envelope.domain = some domain

theorem accepts_append {log : List Asked} {asked : Asked} {envelope : Envelope}
    (accepts : envelope.Accepts log)
    (permits : (log.foldl after envelope).Permits asked.call) :
    envelope.Accepts (log ++ [asked]) := by
  induction log generalizing envelope with
  | nil => exact ⟨permits, trivial⟩
  | cons head tail induction =>
      exact ⟨accepts.1, induction accepts.2 permits⟩

end Envelope

structure Sound (fsm : Fsm (List Asked × σ)) : Prop where
  accepts : Envelope.start.Accepts fsm.handler.1
  tracks : ∀ state, fsm.smtp = some state →
    (Envelope.of fsm.handler.1).Tracks state

section Order

variable {log : List Asked} {call : Call} {accepted : Bool} {res : Reply}
  {current next : State} {state : σ} {handler : Handler σ}
  {envelope : Envelope}

theorem asked_sound (accepts : Envelope.start.Accepts log)
    (reached : .of log = envelope)
    (permits : envelope.Permits call) (answer : accepted = res.goesOn)
    (stays : envelope.Tracks current)
    (moves : (envelope.after ⟨call, true⟩).Tracks next) :
    Sound ⟨(transformState current res next).2,
      (log ++ [⟨call, accepted⟩], state)⟩ := by
  subst reached answer
  constructor
  · exact Envelope.accepts_append accepts permits
  · intro final smtp
    rw [Envelope.of_append]
    rw [transformState] at smtp
    split at smtp
    · cases smtp
    · next opened =>
        split at smtp
        · next error =>
            cases smtp
            have refused : res.goesOn = false := by simp [Reply.goesOn, error]
            rw [refused]
            exact stays
        · next fine =>
            cases smtp
            rw [not_or] at opened
            have goes : res.goesOn = true := by
              simp [Reply.goesOn, opened, fine]
            rw [goes]
            exact moves

theorem same_sound (accepts : Envelope.start.Accepts log)
    (tracks : (Envelope.of log).Tracks current) :
    Sound (⟨some current, (log, state)⟩ : Fsm (List Asked × σ)) :=
  ⟨accepts, fun _ smtp => Option.some.inj smtp ▸ tracks⟩

theorem default_sound (accepts : Envelope.start.Accepts log)
    (tracks : (Envelope.of log).Tracks current)
    (between : (Envelope.of log).receiving = false)
    (cmd : Cmd) :
    Sound (defaultHandler (recording handler) current (log, state) cmd).2 := by
  have greeted : ∀ domain,
      Sound (handleHelo (recording handler) current domain (log, state)).2 :=
    fun domain => asked_sound accepts rfl between rfl tracks ⟨rfl, rfl⟩
  cases cmd with
  | helo domain => exact greeted domain
  | ehlo domain => exact greeted domain
  | quit =>
      refine ⟨accepts, ?_⟩
      intro _ smtp
      cases smtp
  | _ => exact same_sound accepts tracks

theorem startData_goesOn (answer : Option Nat) :
    (!(Reply.of answer).isError) =
      (if (Reply.of answer).isError then Reply.of answer
        else Reply.startData).goesOn := by
  split
  · next error => simp [Reply.goesOn, error]
  · next fine =>
      rw [Bool.not_eq_true] at fine
      rw [fine]
      rfl

theorem handle_sound (accepts : Envelope.start.Accepts log)
    (tracks : (Envelope.of log).Tracks current) (cmd : Cmd) :
    Sound (handle (recording handler) current (log, state) cmd).2 := by
  cases current with
  | idle =>
      cases cmd with
      | rset => exact same_sound accepts tracks
      | _ => exact default_sound accepts tracks tracks _
  | hello domain =>
      cases cmd with
      | mail reversePath is8bit =>
          have permits : Envelope.Permits _ (.mail domain reversePath) := tracks
          apply asked_sound accepts rfl permits rfl tracks
          rcases reached : Envelope.of log with
            ⟨greeted, path, recipients, receiving⟩
          rw [reached] at tracks
          rcases tracks with ⟨idle, same⟩
          cases idle
          cases same
          rfl
      | vrfy => exact same_sound accepts tracks
      | rset => exact same_sound accepts tracks
      | _ => exact default_sound accepts tracks tracks.1 _
  | mail domain reversePath is8bit =>
      have between := congrArg Envelope.receiving tracks
      cases cmd with
      | rcpt forwardPath =>
          exact asked_sound accepts tracks ⟨rfl, rfl⟩ rfl rfl
            ⟨rfl, List.cons_ne_nil _ _⟩
      | rset =>
          exact same_sound accepts ⟨between, congrArg Envelope.domain tracks⟩
      | _ => exact default_sound accepts tracks between _
  | rcpt domain reversePath is8bit before =>
      have between := congrArg Envelope.receiving tracks.1
      cases cmd with
      | data =>
          exact asked_sound accepts tracks.1 ⟨rfl, tracks.2⟩
            (startData_goesOn _) ⟨rfl, tracks.2⟩ ⟨rfl, rfl⟩
      | rcpt forwardPath =>
          exact asked_sound accepts tracks.1 ⟨rfl, rfl⟩ rfl ⟨rfl, tracks.2⟩
            ⟨rfl, List.append_ne_nil_of_right_ne_nil _ (List.cons_ne_nil _ _)⟩
      | rset =>
          exact same_sound accepts ⟨between, congrArg Envelope.domain tracks.1⟩
      | _ => exact default_sound accepts tracks between _
  | data domain =>
      cases cmd with
      | dataEnd =>
          exact asked_sound accepts rfl tracks.1 rfl tracks ⟨rfl, tracks.2⟩
      | _ => exact same_sound accepts tracks

theorem recording_data {text : String} {kept : Bool} {after : σ}
    (answer : handler.data text state = (kept, after)) :
    (recording handler).data text (log, state) =
      (kept, (log ++ [⟨.data text, kept⟩], after)) := by
  change noted (.data text) id (handler.data text) (log, state) = _
  rw [noted, answer]
  rfl

theorem processData_sound {domain line : String}
    (accepts : Envelope.start.Accepts log)
    (tracks : (Envelope.of log).Tracks (.data domain)) :
    Sound (processData (recording handler) domain line (log, state)).2 := by
  have chunk : ∀ text accepted (next : σ),
      Sound (⟨some (.data domain), (log ++ [⟨.data text, accepted⟩], next)⟩ :
        Fsm (List Asked × σ)) := by
    intro text accepted next
    have permits : (Envelope.of log).Permits (Asked.call ⟨.data text, accepted⟩) :=
      tracks.1
    apply same_sound (Envelope.accepts_append accepts permits)
    rw [Envelope.of_append]
    cases accepted with
    | _ => exact tracks
  rw [processData]
  split
  · exact handle_sound accepts tracks .dataEnd
  · generalize (Text.afterStart "." line).getD line = text
    rcases answer : handler.data text state with ⟨kept, next⟩
    rw [recording_data answer]
    cases kept with
    | true => exact chunk text true next
    | false => exact chunk text false next

theorem process_sound {fsm : Fsm (List Asked × σ)} (sound : Sound fsm)
    (line : String) : Sound (process (recording handler) fsm line).2 := by
  rcases fsm with ⟨smtp, log, state⟩
  cases smtp with
  | none => exact sound
  | some current =>
      have tracks := sound.tracks current rfl
      cases current with
      | data domain => exact processData_sound sound.accepts tracks
      | _ =>
          rw [process]
          cases parse line with
          | none => exact sound
          | some cmd => exact handle_sound sound.accepts tracks cmd

theorem process_forget (fsm : Fsm (List Asked × σ)) (line : String) :
    (process (recording handler) fsm line).2.forget =
      (process handler fsm.forget line).2 := by
  rcases fsm with ⟨smtp, log, state⟩
  cases smtp with
  | none => rfl
  | some current =>
      have handled : ∀ cmd, (handle (recording handler) current (log, state)
          cmd).2.forget = (handle handler current state cmd).2 := by
        intro cmd
        cases current with
        | _ =>
            cases cmd with
            | _ => rfl
      cases current with
      | data domain =>
          change (processData (recording handler) domain line (log, state)).2.forget =
            (processData handler domain line state).2
          rw [processData, processData]
          split
          · exact handled .dataEnd
          · generalize (Text.afterStart "." line).getD line = text
            rcases answer : handler.data text state with ⟨kept, next⟩
            rw [recording_data answer]
            cases kept with
            | _ => rfl
      | _ =>
          rw [process, process]
          cases parse line with
          | none => rfl
          | some cmd => exact handled cmd

end Order

/-- In every session, the engine's calls are a sequence of mail transactions,
and the log changes nothing. -/
theorem calls_ordered (handler : Handler σ) (state : σ) (lines : List String) :
    Envelope.start.Accepts
        (processAll (recording handler) (.start ([], state)) lines).handler.1 ∧
      (processAll (recording handler) (.start ([], state)) lines).forget =
        processAll handler (.start state) lines := by
  have run : ∀ fsm : Fsm (List Asked × σ), Sound fsm →
      Sound (processAll (recording handler) fsm lines) ∧
        (processAll (recording handler) fsm lines).forget =
          processAll handler fsm.forget lines := by
    induction lines with
    | nil => exact fun fsm sound => ⟨sound, rfl⟩
    | cons line rest induction =>
        intro fsm sound
        rcases induction _ (process_sound sound line) with ⟨keeps, same⟩
        rw [process_forget] at same
        exact ⟨keeps, same⟩
  have start : Sound (Fsm.start (([] : List Asked), state)) := by
    refine ⟨trivial, ?_⟩
    intro reached smtp
    exact Option.some.inj smtp ▸ rfl
  exact ⟨(run _ start).1.accepts, (run _ start).2⟩

end AimailGateway.Smtp
