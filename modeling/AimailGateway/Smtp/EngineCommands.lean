import AimailGateway.Smtp.Transport

/-! # Commands in the engine

`serve` takes a command at a time and leaves the greeting out. An engine that
has been greeted keeps step with it.
-/

namespace AimailGateway.Smtp

open Library Action

/-- The phase of an engine after the greeting. -/
def phaseOf : Option State → Phase
  | none => .closed
  | some (.mail _ _ _) => .mail
  | some (.rcpt _ _ _ _) => .rcpt
  | some (.data _) => .data
  | some _ => .idle

/-- What `serve` takes a command of the engine for. -/
inductive Asks : Cmd → Command → Prop where
  | mail (sender : String) (is8bit : Bool) :
      Asks (.mail sender is8bit) (.mail sender)
  | rcpt (recipient : String) : Asks (.rcpt recipient) (.rcpt recipient)
  | rset : Asks .rset .reset
  | helo (domain : String) : Asks (.helo domain) .reset
  | ehlo (domain : String) : Asks (.ehlo domain) .reset

/-- The engine stands where `serve` leaves the peer. -/
def InStep (fsm : Fsm Connection)
    (served : Except Response Unit × Peer × World) : Prop :=
  phaseOf fsm.smtp = served.2.1.phase ∧
    fsm.handler = ⟨served.2.1.session, served.2.2⟩

/-- The engine after some lines. -/
def feed (receiver : Receiver) (fsm : Fsm Connection) (lines : List String) :
    Fsm Connection :=
  lines.foldl (fun fsm line =>
    (process (connectionHandler receiver) fsm line).2) fsm

/-- A line of a message without the dot that the client puts before a dot. -/
def unstuffed (line : String) : String :=
  (Text.afterStart "." line).getD line

variable {receiver : Receiver} {session : Session} {world : World}
  {domain : String} {lines : List String}

theorem Response.Refuses.stays {response : Response}
    (refuses : response.Refuses) (current next : State) :
    (transformState current (.of (some response.code)) next).2 =
      some current := by
  rcases refuses with code | code <;>
    simp [transformState, Reply.of, Reply.custom, code]

theorem answered_inStep {action : Handling Unit} {current next : State}
    (answers : Answers action) :
    InStep
      ⟨(transformState current
        (.of (answerCode action ⟨session, world⟩).1) next).2,
        (answerCode action ⟨session, world⟩).2⟩
      (handled action (phaseOf (some next)) (fun _ => phaseOf (some current))
        session world) := by
  have ends := ends_iff_run.mp (answers ⟨session, world⟩)
  rw [answerCode, handled]
  rcases ran : action.run ⟨session, world⟩ with ⟨response | value, later⟩
  · have refuses := ends.2 response later ran
    simp only [if_neg refuses.answers]
    exact ⟨congrArg phaseOf (refuses.stays current next), rfl⟩
  · exact ⟨rfl, rfl⟩

/-- Between messages a command leaves the engine in step. -/
theorem handle_inStep {current : State} {cmd : Cmd} {command : Command}
    (greeted : current ≠ .idle) (between : ∀ domain, current ≠ .data domain)
    (asks : Asks cmd command) :
    InStep (handle (connectionHandler receiver) current ⟨session, world⟩ cmd).2
      (serve receiver ⟨phaseOf (some current), session⟩ world command) := by
  cases current with
  | idle => exact absurd rfl greeted
  | data domain => exact absurd rfl (between domain)
  | hello domain =>
      cases asks with
      | mail sender is8bit => exact answered_inStep (mail_answers sender)
      | _ => exact ⟨rfl, rfl⟩
  | _ =>
      cases asks with
      | rcpt recipient => exact answered_inStep (rcpt_answers recipient)
      | _ => exact ⟨rfl, rfl⟩

theorem feed_text (inside : ".\r\n" ∉ lines) :
    feed receiver ⟨some (.data domain), ⟨session, world⟩⟩ lines =
      ⟨some (.data domain),
        ⟨session.loaded receiver (lines.map unstuffed), world⟩⟩ := by
  induction lines generalizing session with
  | nil => rfl
  | cons line rest induction =>
      rw [List.mem_cons, not_or] at inside
      have fed : (process (connectionHandler receiver)
          ⟨some (.data domain), ⟨session, world⟩⟩ line).2 =
          ⟨some (.data domain),
            ⟨session.loaded receiver [unstuffed line], world⟩⟩ := by
        simp only [process, processData, if_neg (Ne.symm inside.1),
          connectionHandler]
        rw [← data_loads, ← unstuffed]
        rcases (data receiver (unstuffed line)).run ⟨session, world⟩ with
          ⟨_ | _, next⟩ <;> rfl
      change feed receiver (process _ _ line).2 rest = _
      rw [fed, induction inside.2]
      rfl

/-- The lines of a message and its end leave the engine in step. -/
theorem message_inStep (inside : ".\r\n" ∉ lines) :
    InStep
      (process (connectionHandler receiver)
        (feed receiver ⟨some (.data domain), ⟨session, world⟩⟩ lines) ".\r\n").2
      (handled (receiveData receiver (lines.map unstuffed)) .idle afterRefusal
        session world) := by
  have settles := ends_iff_run.mp (@dataEnd_answers receiver
    (session.loaded receiver (lines.map unstuffed)) world)
  rw [feed_text inside, handled, receiveData_run]
  simp only [process, processData, if_true, handle, connectionHandler,
    answerCode]
  rcases ran : (dataEnd receiver).run
    ⟨session.loaded receiver (lines.map unstuffed), world⟩ with
    ⟨response | value, later⟩
  · have settled := settles.2 response later ran
    by_cases broken : response = panicked
    · simp only [afterRefusal, if_pos broken]
      exact ⟨rfl, rfl⟩
    · cases unwinds : Session.unwinds receiver
          (session.loaded receiver (lines.map unstuffed)) <;>
        rw [unwinds] at settled
      · simp only [afterRefusal, if_neg broken]
        exact ⟨congrArg phaseOf (settled.stays (.data domain) _), rfl⟩
      · exact absurd settled broken
  · exact ⟨rfl, rfl⟩

/-- DATA and the message it begins. -/
theorem data_inStep {sender : String} {is8bit : Bool} {before : List String}
    (inside : ".\r\n" ∉ lines) :
    InStep
      (process (connectionHandler receiver)
        (feed receiver (handle (connectionHandler receiver)
          (.rcpt domain sender is8bit before) ⟨session, world⟩ .data).2 lines)
        ".\r\n").2
      (serve receiver ⟨.rcpt, session⟩ world (.data (lines.map unstuffed))) :=
  message_inStep inside

/-- After a refused message, DATA and what follows it are more of its text. -/
theorem more_inStep (inside : ".\r\n" ∉ lines) :
    InStep
      (process (connectionHandler receiver)
        (feed receiver ⟨some (.data domain), ⟨session, world⟩⟩
          ("DATA\r\n" :: lines)) ".\r\n").2
      (serve receiver ⟨.data, session⟩ world (.data (lines.map unstuffed))) :=
  message_inStep (by simpa using inside)

end AimailGateway.Smtp
