import AimailGateway.Smtp.Filing

/-! # Transactions up to the message

What the RCPTs of a transaction leave the session with.
-/

namespace AimailGateway.Smtp

open Library Action

/-- A transaction up to its DATA command: MAIL of the sender, then RCPTs, the
last of which left the session ready. -/
structure Transaction (receiver : Receiver) (start : Session) (sender : String)
    (events : List Event) (session : Session) : Prop where
  run : ∃ opening opened, opening.command = .mail sender ∧
    Serves receiver ⟨.idle, start⟩ opening opened ∧
    Run (Serves receiver) opened events ⟨.rcpt, session⟩
  addresses : ∀ event ∈ events, ∃ recipient, event.command = .rcpt recipient

def lastAccepted (events : List Event) : Option Event :=
  (events.filter fun event => decide event.accepted).getLast?

def Passed (receiver : Receiver) (sender : String) (event : Event)
    (resolved : Target) : Prop :=
  event.Adds receiver resolved ∧
    Answered receiver event.before.db resolved.checked sender true

def LastPassed (receiver : Receiver) (sender : String) (events : List Event) :
    Prop :=
  ∃ event resolved, lastAccepted events = some event ∧
    Passed receiver sender event resolved

/-- What the RCPTs so far have made of the session. -/
structure Collected (receiver : Receiver) (sender : String)
    (past : List Event) (peer : Peer) : Prop where
  busy : peer.Addressing
  opened : peer.session.sender = some sender
  added : ∀ event ∈ past, ∀ resolved, event.Adds receiver resolved →
    resolved.added ∈ peer.session.recipients
  ready : peer.phase = .rcpt → peer.session.systemId ≠ none ∧
    peer.session.domain ≠ none ∧ peer.session.recipients ≠ []
  verdict : peer.phase = .rcpt →
    (peer.session.senderWhitelisted = true ↔ LastPassed receiver sender past)

/-- The envelope addresses, as the headers are compared with them. -/
def Session.envelope (receiver : Receiver) (session : Session) : List String :=
  session.recipients.map receiver.env.tables.toLowercase

section Transactions

variable {receiver : Receiver} {sender : String} {past events : List Event}
  {peer next : Peer} {event : Event}
  {chunks : List String} {session : Session}

theorem lastAccepted_accepted (accepted : event.accepted) :
    lastAccepted (past ++ [event]) = some event := by
  simp [lastAccepted, accepted]

theorem lastAccepted_refused (refused : ¬ event.accepted) :
    lastAccepted (past ++ [event]) = lastAccepted past := by
  simp [lastAccepted, refused]

theorem Event.Adds.target {resolved : Target} {recipient : String}
    (adds : event.Adds receiver resolved)
    (command : event.command = .rcpt recipient) :
    target receiver event.before.db recipient = some resolved := by
  rcases adds with ⟨_, other, same, found⟩
  rw [command] at same
  cases same
  exact found

theorem Collected.step {recipient : String}
    (collected : Collected receiver sender past peer)
    (command : event.command = .rcpt recipient)
    (serves : Serves receiver peer event next) :
    Collected receiver sender (past ++ [event]) next := by
  rcases (serves.rcpt command collected.busy collected.opened).outcome with
    ⟨accepted, phase, resolved, verdict, found, answered, session⟩ |
    ⟨rejected, phase, refused⟩
  · have grown : next.session.recipients =
        peer.session.recipients ++ [resolved.added] := by
      rw [session]
      rfl
    constructor
    · exact .inr phase
    · rw [session]
      exact collected.opened
    · intro other member target adds
      rw [grown, List.mem_append]
      rcases List.mem_append.mp member with earlier | last
      · exact .inl (collected.added other earlier target adds)
      · rw [List.mem_singleton.mp last] at adds
        rw [adds.target command] at found
        cases found
        exact .inr (List.mem_singleton_self _)
    · intro _
      rw [session]
      simp [Session.accepted, Session.resolved]
    · intro _
      have noted : next.session.senderWhitelisted = verdict := by
        rw [session]
        rfl
      rw [noted, LastPassed, lastAccepted_accepted accepted]
      constructor
      · intro passes
        rw [passes] at answered
        exact ⟨event, resolved, rfl,
          ⟨accepted, recipient, command, found⟩, answered⟩
      · rintro ⟨other, target, same, adds, passes⟩
        cases same
        rw [adds.target command] at found
        cases found
        rw [answered.verdict, ← passes.verdict]
  · constructor
    · rw [Peer.Addressing, phase]
      exact collected.busy
    · rw [refused.sender]
      exact collected.opened
    · intro other member target adds
      rw [refused.recipients]
      rcases List.mem_append.mp member with earlier | last
      · exact collected.added other earlier target adds
      · rw [List.mem_singleton.mp last] at adds
        exact absurd adds.1 rejected
    · intro ready
      rw [phase] at ready
      rcases collected.ready ready with ⟨systemId, domain, recipients⟩
      refine ⟨?_, refused.domain domain, ?_⟩
      · rcases refused.systemId with same | ⟨_, _, same⟩
        · rw [same]
          exact systemId
        · rw [same]
          exact Option.some_ne_none _
      · rw [refused.recipients]
        exact recipients
    · intro ready
      rw [phase] at ready
      rw [refused.senderWhitelisted, collected.verdict ready, LastPassed,
        LastPassed, lastAccepted_refused rejected]

theorem Transaction.collected {start session : Session}
    (transaction : Transaction receiver start sender events session) :
    Collected receiver sender events ⟨.rcpt, session⟩ := by
  rcases transaction.run with ⟨opening, opened, command, serves, run⟩
  have mail := serves.mail command rfl
  have accepted : opened.phase = .mail := by
    rcases mail.outcome with ⟨_, phase⟩ | ⟨_, phase⟩
    · exact phase
    · have stays := idle_run run (fun event member opens => by
        rcases transaction.addresses event member with ⟨recipient, address⟩
        rcases opens with ⟨_, other, mailed⟩
        rw [address] at mailed
        cases mailed) phase
      cases stays
  have begun : Collected receiver sender [] opened := by
    constructor
    · exact .inl accepted
    · rw [mail.session]
    · exact fun _ member => absurd member List.not_mem_nil
    · intro ready
      rw [accepted] at ready
      cases ready
    · intro ready
      rw [accepted] at ready
      cases ready
  have grows := run.accumulates (fun past peer =>
    (∀ event ∈ past, ∃ recipient, event.command = .rcpt recipient) →
      Collected receiver sender past peer)
    (fun past peer event next collected serves addresses => by
      rcases addresses event (by simp) with ⟨recipient, command⟩
      exact (collected fun other member => addresses other (by simp [member])).step
        command serves)
    (fun _ => begun)
  exact grows transaction.addresses

theorem Transaction.pending {start session : Session}
    (transaction : Transaction receiver start sender events session)
    (chunks : List String) :
    ∃ pending, (session.loaded receiver chunks).pending = some pending ∧
      pending.sender = sender ∧
      pending.envelope receiver = session.envelope receiver ∧
      pending.messageData = (session.loaded receiver chunks).messageData := by
  have collected := transaction.collected
  rcases collected.ready rfl with ⟨owned, named, addressed⟩
  have opened := collected.opened
  simp only at opened
  cases system : session.systemId with
  | none => exact absurd system owned
  | some systemId =>
      have recipients : session.recipients.isEmpty = false := by
        simpa using addressed
      have domain : session.domain.isNone = false := by
        simpa using Option.ne_none_iff_isSome.mp named
      exact ⟨⟨sender, session.recipients, systemId,
        (session.loaded receiver chunks).messageData, session.persona,
        session.senderWhitelisted⟩, by
          simp [Session.pending, Session.loaded, opened, system, recipients,
            domain], rfl, rfl, rfl⟩

/-- The DATA command of the transaction can create the email, in some
surroundings and over some database. -/
def Delivers (receiver : Receiver) (session : Session) (chunks : List String)
    (row : EmailRecord) : Prop :=
  ∃ env event next, Serves (receiver.placed env) ⟨.rcpt, session⟩ event next ∧
    event.command = .data chunks ∧
    Storage.Created event.before.db event.after.db row

theorem data_run (serves : Serves receiver ⟨.rcpt, session⟩ event next)
    (command : event.command = .data chunks) :
    ∃ last, (dataEnd receiver).run
        ⟨session.loaded receiver chunks, event.before⟩ =
      (event.outcome, last) ∧ last.world = event.after := by
  simp only [Serves, command, serve, handled, receiveData_run] at serves
  rcases result : (dataEnd receiver).run
    ⟨session.loaded receiver chunks, event.before⟩ with
    ⟨response | value, last⟩
  · rw [result] at serves
    simp only [Prod.mk.injEq] at serves
    exact ⟨last, by rw [← serves.1], serves.2.2⟩
  · rw [result] at serves
    simp only [Prod.mk.injEq] at serves
    exact ⟨last, by rw [← serves.1], serves.2.2⟩

theorem data_serves {world : World}
    {outcome : Except Response Unit} {last : Connection}
    (ran : (dataEnd receiver).run ⟨session.loaded receiver chunks, world⟩ =
      (outcome, last)) :
    ∃ next, Serves receiver ⟨.rcpt, session⟩
      ⟨.data chunks, world, outcome, last.world⟩ next := by
  rcases outcome with response | value
  · refine ⟨⟨afterRefusal response, last.session⟩, ?_⟩
    simp only [Serves, serve, handled, receiveData_run, ran]
  · refine ⟨⟨.idle, last.session⟩, ?_⟩
    simp only [Serves, serve, handled, receiveData_run, ran]

theorem delivers_iff_files {row : EmailRecord} :
    Delivers receiver session chunks row ↔
      (session.loaded receiver chunks).Files receiver row := by
  constructor
  · rintro ⟨env, event, next, serves, command, created⟩
    rcases data_run serves command with ⟨last, ran, same⟩
    rw [← same] at created
    have loaded : session.loaded (receiver.placed env) chunks =
        session.loaded receiver chunks := rfl
    rw [loaded] at ran
    refine ⟨env, event.before, ?_⟩
    rw [ran]
    exact created
  · rintro ⟨env, world, created⟩
    rcases ran : (dataEnd (receiver.placed env)).run
      ⟨session.loaded receiver chunks, world⟩ with ⟨outcome, last⟩
    rw [ran] at created
    have served : ∃ next, Serves (receiver.placed env) ⟨.rcpt, session⟩
        ⟨.data chunks, world, outcome, last.world⟩ next := data_serves ran
    rcases served with ⟨next, serves⟩
    exact ⟨env, _, next, serves, rfl, created⟩

theorem accepted_files {pending : Pending}
    (serves : Serves receiver ⟨.rcpt, session⟩ event next)
    (command : event.command = .data chunks) (accepted : event.accepted)
    (ready : (session.loaded receiver chunks).pending = some pending)
    (named : pending.sender ≠ "") :
    checkDeferredWhitelist receiver (session.loaded receiver chunks) = .ok () ∧
      ∃ headers body attachments recipients row,
        Readable receiver pending.messageData headers body attachments ∧
        messageRecipients receiver pending headers = .ok recipients ∧
        FiledAs receiver pending headers recipients row ∧
        Storage.Created event.before.db event.after.db row := by
  rcases data_run serves command with ⟨last, ran, same⟩
  rw [accepted] at ran
  have accepts := (ends_iff_run.mp dataEnd_accepts).1 () last ran
  rcases accepts with ⟨gate, taken, extracted, reads⟩
  rw [ready] at extracted
  cases extracted
  rcases reads named with
    ⟨headers, body, attachments, recipients, readable, listed⟩
  have files := (ends_iff_run.mp
    (dataEnd_files gate ready named readable listed)).1 () last ran
  rcases files with ⟨row, created, filed⟩
  rw [same] at created
  exact ⟨gate, headers, body, attachments, recipients, row, readable, listed,
    filed, created⟩

theorem files_accepted {pending : Pending}
    {headers : List MailHeader} {body : String}
    {attachments : Nat} {recipients : Recipients}
    (gate : checkDeferredWhitelist receiver (session.loaded receiver chunks) =
      .ok ())
    (ready : (session.loaded receiver chunks).pending = some pending)
    (named : pending.sender ≠ "")
    (readable : Readable receiver pending.messageData headers body attachments)
    (listed : messageRecipients receiver pending headers = .ok recipients) :
    ∃ env event next,
      Serves (receiver.placed env) ⟨.rcpt, session⟩ event next ∧
      event.command = .data chunks ∧ event.accepted := by
  have calm : ¬ ¬ ((receiver.placed (.steady 0 "")).env.Calm ∧
      (World.start Database.empty).db.emails = .empty) :=
    not_not_intro ⟨fun _ => rfl, rfl⟩
  have files : (dataEnd (receiver.placed (.steady 0 ""))).Ends
      (fun _ last => ∃ row,
        Storage.Created (World.start Database.empty).db last.world.db row ∧
        FiledAs (receiver.placed (.steady 0 "")) pending headers recipients row)
      (fun _ _ => ¬ ((receiver.placed (.steady 0 "")).env.Calm ∧
        (World.start Database.empty).db.emails = .empty))
      ⟨session.loaded receiver chunks, World.start Database.empty⟩ :=
    dataEnd_files gate ready named (readable.elsewhere rfl rfl) listed
  rw [ends_iff_run] at files
  rcases ran : (dataEnd (receiver.placed (.steady 0 ""))).run
    ⟨session.loaded receiver chunks, World.start Database.empty⟩ with
    ⟨response | value, last⟩
  · exact (calm (files.2 response last ran)).elim
  · have served : ∃ next, Serves (receiver.placed (.steady 0 ""))
        ⟨.rcpt, session⟩ ⟨.data chunks, World.start Database.empty, .ok value,
          last.world⟩ next := data_serves ran
    rcases served with ⟨next, serves⟩
    exact ⟨.steady 0 "", _, next, serves, rfl, rfl⟩

end Transactions

/-- A client's transaction up to its DATA command, with nobody else at work. -/
def addressed (receiver : Receiver) (start : Session) (sender : String)
    (world : World) (recipients : List String) : List Event × Peer :=
  let opening := serve receiver ⟨.idle, start⟩ world (.mail sender)
  converse receiver opening.2.1 opening.2.2 (recipients.map .rcpt)

theorem converse_commands (receiver : Receiver) (peer : Peer) (world : World)
    (commands : List Command) :
    (converse receiver peer world commands).1.map (·.command) = commands := by
  induction commands generalizing peer world with
  | nil => rfl
  | cons command rest induction =>
      rw [converse]
      rcases serve receiver peer world command with ⟨outcome, next, later⟩
      simp only [List.map_cons]
      rw [induction]

theorem addressed_transaction {receiver : Receiver} {start : Session}
    {sender : String} {world : World} {recipients : List String}
    (ready : (addressed receiver start sender world recipients).2.phase =
      .rcpt) :
    Transaction receiver start sender
      (addressed receiver start sender world recipients).1
      (addressed receiver start sender world recipients).2.session := by
  constructor
  · have run := converse_run receiver
      (serve receiver ⟨.idle, start⟩ world (.mail sender)).2.1
      (serve receiver ⟨.idle, start⟩ world (.mail sender)).2.2
      (recipients.map .rcpt)
    have reached : (⟨.rcpt,
        (addressed receiver start sender world recipients).2.session⟩ : Peer) =
        (addressed receiver start sender world recipients).2 := by
      rw [← ready]
    rw [reached]
    exact ⟨⟨.mail sender, world,
      (serve receiver ⟨.idle, start⟩ world (.mail sender)).1,
      (serve receiver ⟨.idle, start⟩ world (.mail sender)).2.2⟩, _, rfl, rfl,
      run⟩
  · intro event member
    have listed : event.command ∈
        (addressed receiver start sender world recipients).1.map (·.command) :=
      List.mem_map_of_mem member
    rw [addressed, converse_commands] at listed
    rcases List.mem_map.mp listed with ⟨recipient, _, same⟩
    exact ⟨recipient, same.symm⟩

theorem plain_readable {messageData : String} {headers : List MailHeader}
    (parses : plainHeaders messageData = headers)
    (wellFormed : (addressEntries headers "to" ++
      addressEntries headers "cc").all (fun entry => (bracketed entry).isSome) =
        true) :
    Readable plainReceiver messageData headers messageData 0 := by
  constructor
  · exact ⟨_, rfl, parses, rfl, rfl, rfl⟩
  · intro entry member missing
    have opened := List.all_eq_true.mp wellFormed entry
      (List.mem_append.mpr member)
    rw [missing] at opened
    cases opened

end AimailGateway.Smtp
