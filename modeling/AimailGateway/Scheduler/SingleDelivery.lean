import AimailGateway.Scheduler.Bounds

/-! # Single delivery

An attempt is under way from the moment a thread has decided on it until it is
answered. The trigger claims an email before it spawns the delivery; a tick
attempts the emails it has selected, without a claim.
-/

namespace AimailGateway.Scheduler

open Library Program Storage

variable {env : Surroundings} {config : Config}

namespace Server

def attempting (server : Server) (thread : Thread) : Option EmailRecord :=
  match server.threads thread with
  | .request (.deliver record _) _ => some record
  | _ => none

def AttemptsCurrent (thread : Thread) (record : EmailRecord) (server : Server) :
    Prop :=
  server.attempting thread = some record ∧
    ∀ row ∈ server.world.db.emails, row.id = record.id →
      row.status = record.status

/-- The email that a thread attempts was claimed for it: the claim took a row
that was waiting, and since then the thread attempts the email it returned, and
its status has not changed. -/
def ClaimedFor (env : Surroundings) (config : Config) (start : Server)
    (events : List Event) (server : Server) (thread : Thread)
    (record : EmailRecord) : Prop :=
  ∃ permit earlier since before after, thread = .delivery permit ∧
    events = earlier ++ .claim permit :: since ∧
    Run (Steps env config) start earlier before ∧
    (∃ row ∈ before.world.db.emails, isClaimable row = true ∧
      ∃ time, record = markSending time row) ∧
    Steps env config before (.claim permit) after ∧
    Run (Guarded (fun state _ => state.AttemptsCurrent thread record)
      (Steps env config)) after since server ∧
    server.AttemptsCurrent thread record

/-- No two attempts of an email are under way, and each was claimed. -/
structure DeliversSingly (env : Surroundings) (config : Config) (start : Server)
    (events : List Event) (server : Server) : Prop where
  apart : ∀ first second record other, server.attempting first = some record →
    server.attempting second = some other → record.id = other.id →
    first = second
  claimed : ∀ thread record, server.attempting thread = some record →
    ClaimedFor env config start events server thread record

end Server

/-- The email a tick turns to when its retries were selected. -/
def Request.finds : (question : Request) → question.Answer → Option EmailRecord
  | .getPendingRetry _, .ok (row :: _) => some row
  | _, _ => none

/-- No tick finds an email to retry, and no email is completed while an attempt
of it is under way. -/
def SparesAttempts (env : Surroundings) (server : Server) : Event → Prop
  | .advance thread outside =>
      ∀ question next, server.threads thread = .request question next →
        question.finds (perform env outside question server.world).1 = none ∧
        ∀ id, question = .complete id → ¬ question.Fails env server.world →
          ∀ row ∈ server.world.db.emails, row.id = id →
            ∀ other record, server.attempting other = some record →
              record.id ≠ id
  | _ => True

/-! ## What a thread has taken on -/

inductive Grip where
  | free
  /-- An email was claimed for the thread, which attempts it next. -/
  | claimed (record : EmailRecord)
  /-- The thread has attempted an email that was claimed for it. -/
  | tried (id : String)
  /-- A tick has selected an email, which it attempts next. -/
  | due (record : EmailRecord)

namespace Grip

def waits : Grip → Bool
  | .claimed _ | .due _ => true
  | .free | .tried _ => false

/-- The email that is kept from other claims. -/
def holds : Grip → Option String
  | .claimed record => some record.id
  | .tried id => some id
  | .free | .due _ => none

end Grip

/-- What a thread may do with what it has taken on. Only the batch selects
retries, and an email that waits for its attempt is attempted next. -/
def gripping (thread : Thread) : Rule Request Request.Answer Grip
  | .deliver record _, grip, aim =>
      grip = .due record ∨
        grip = .claimed record ∧ ∀ error, aim error (.tried record.id)
  | .getPendingRetry _, grip, aim =>
      thread = .batch ∧ grip = .free ∧ (∀ error, aim (.error error) .free) ∧
        aim (.ok []) .free ∧ ∀ row rest, aim (.ok (row :: rest)) (.due row)
  | .readyRetry id _ _, grip, aim =>
      grip = .tried id ∧ ∀ answer, aim answer .free
  | .markDelivered id, grip, aim =>
      grip = .tried id ∧ ∀ answer, aim answer grip
  | _, grip, aim => grip.waits = false ∧ ∀ answer, aim answer grip

theorem gripping_monotone {thread : Thread} : (gripping thread).Monotone := by
  intro question grip strong weak weaker holds
  cases question with
  | deliver record deliveryType =>
      rcases holds with due | ⟨claimed, aims⟩
      · exact .inl due
      · exact .inr ⟨claimed, fun error => weaker _ _ (aims error)⟩
  | getPendingRetry limit =>
      rcases holds with ⟨batch, free, failed, none, found⟩
      exact ⟨batch, free, fun error => weaker _ _ (failed error),
        weaker _ _ none, fun row rest => weaker _ _ (found row rest)⟩
  | _ => exact ⟨holds.1, fun answer => weaker _ _ (holds.2 answer)⟩

/-- A thread ends with no attempt to make. -/
def Rested {α : Type} : α → Grip → Prop :=
  fun _ grip => grip.waits = false

/-- A flow that attempts nothing. -/
def Idles (thread : Thread) (flow : Flow Unit) : Prop :=
  ∀ grip : Grip, grip.waits = false →
    Ensures (gripping thread) flow (fun _ later => later = grip) grip

section Flows

variable {thread : Thread} {record : EmailRecord}

theorem Idles.bind {first rest : Flow Unit} (start : Idles thread first)
    (finish : Idles thread rest) : Idles thread (first >>= fun _ => rest) := by
  intro grip still
  rw [ensures_bind]
  refine (start grip still).mono gripping_monotone ?_
  rintro _ later rfl
  exact finish later still

theorem Idles.finishes {flow : Flow Unit} {grip : Grip}
    (idles : Idles thread flow) (still : grip.waits = false) :
    Ensures (gripping thread) flow Rested grip := by
  refine (idles grip still).mono gripping_monotone ?_
  rintro _ later rfl
  exact still

theorem forEach_idles {α : Type} {body : α → Flow Unit}
    (idles : ∀ element, Idles thread (body element)) (elements : List α) :
    Idles thread (forEach elements body) := by
  intro grip still
  refine ensures_forEach gripping_monotone (fun _ later => later = grip) ?_ rfl
  rintro head _ later rfl
  exact idles head later still

theorem idles_of_asks {flow : Flow Unit}
    (asks : Asks Request.StandsAside flow) : Idles thread flow := by
  intro grip still
  refine asks.keeps fun question aim aside aims => ?_
  cases question with
  | deliver record deliveryType => exact aside.elim
  | getPendingRetry limit => exact aside.elim
  | readyRetry id sendCount nextRetryAt => exact aside.elim
  | markDelivered id => exact aside.elim
  | _ => exact ⟨still, aims⟩

theorem cleanupCompletedEmail_idles :
    Idles thread (cleanupCompletedEmail record) :=
  fun _ still => ⟨still, fun _ => rfl⟩

theorem exhaustEmail_idles (finalSendCount : Option Int) :
    Idles thread (exhaustEmail config record finalSendCount) := by
  have mails {mail : Flow Unit}
      {rest : (Request.complete record.id).Answer → Flow Unit}
      (idles : Idles thread mail)
      (cleans : ∀ completed, Idles thread (rest completed)) :
      Idles thread (mail >>= fun _ => ask (.complete record.id) >>= rest) :=
    idles.bind fun grip still => ⟨still, fun completed => cleans completed grip still⟩
  have tells : Idles thread (exhaustEmail config record none) := by
    unfold exhaustEmail
    cases record.direction with
    | inbound =>
        apply mails (idles_of_asks insertExhaustionAutoReply_asks)
        rintro (error | _ | row)
        · exact fun _ _ => rfl
        · exact fun _ _ => rfl
        · exact cleanupCompletedEmail_idles
    | outbound =>
        apply mails (idles_of_asks insertExhaustionNotification_asks)
        rintro (error | _ | row)
        · exact fun _ _ => rfl
        · exact fun _ _ => rfl
        · exact cleanupCompletedEmail_idles
  cases finalSendCount with
  | none => exact tells
  | some count => exact fun grip still => ⟨still, fun _ => tells grip still⟩

theorem finalizeAfterDelivery_finishes {deliveryType : DeliveryType} :
    Ensures (gripping thread) (finalizeAfterDelivery config record deliveryType)
      Rested (.tried record.id) := by
  unfold finalizeAfterDelivery
  split
  · exact ⟨rfl, fun _ => rfl⟩
  · refine ⟨rfl, ?_⟩
    rintro (error | row)
    · rfl
    · exact ⟨rfl, fun _ => rfl⟩

theorem immediateForward_grips :
    Ensures (gripping thread) (immediateForward config record) Rested
      (.claimed record) := by
  refine .inr ⟨rfl, ?_⟩
  rintro (_ | error)
  · exact finalizeAfterDelivery_finishes
  · by_cases last : (1 : Int) ≥ record.maxAttempts
    · simp only [last, if_true]
      have exhausts : Ensures (gripping thread)
          (exhaustEmail config record (some 1)) Rested (.tried record.id) :=
        (exhaustEmail_idles (some 1)).finishes rfl
      exact exhausts
    · simp only [last, if_false]
      exact ⟨rfl, fun _ => ⟨rfl, fun _ => ⟨rfl, fun _ => rfl⟩⟩⟩

theorem finalizeExpiredDelivered_idles (record : EmailRecord) :
    Idles thread (finalizeExpiredDelivered record) := by
  intro grip still
  refine ⟨still, ?_⟩
  rintro (error | row)
  · rfl
  · exact ⟨still, fun _ => rfl⟩

theorem settleBounced_idles (id : String) : Idles thread (settleBounced id) :=
  fun _ still => ⟨still, fun _ => ⟨still, fun _ => rfl⟩⟩

theorem processBatch_grips :
    Ensures (gripping .batch) (processBatch config) Rested .free := by
  have overlimit : Idles .batch (forSelected (ask (.getOverlimit config.batchSize))
      (handleOverlimit config)) := by
    intro grip still
    refine ⟨still, ?_⟩
    rintro (error | records)
    · rfl
    · exact forEach_idles (fun _ => exhaustEmail_idles none) records grip still
  have ends : Idles .batch (processExpiredAttachments config >>= fun _ =>
      ask .utcNow >>= fun time => forSelected (ask (.getExpiredDelivered
        (time - 1000 * config.deliveryWindowSecs) config.batchSize))
        finalizeExpiredDelivered) := by
    refine (idles_of_asks processExpiredAttachments_asks).bind fun grip still =>
      ⟨still, fun time => ⟨still, ?_⟩⟩
    rintro (error | records)
    · rfl
    · exact forEach_idles finalizeExpiredDelivered_idles records grip still
  have before : Idles .batch (sweepStuckReadying config >>= fun _ =>
      forSelected (ask (.getOverlimit config.batchSize))
        (handleOverlimit config)) :=
    (idles_of_asks sweepStuckReadying_asks).bind overlimit
  have start := before .free rfl
  rw [ensures_bind] at start
  rw [processBatch, ensures_bind]
  refine start.mono gripping_monotone ?_
  intro _ middle swept
  rw [ensures_bind]
  refine swept.mono gripping_monotone ?_
  rintro _ later rfl
  exact ⟨rfl, rfl, fun error => ends.finishes rfl, ends.finishes rfl,
    fun row rest => .inl rfl⟩

end Flows

/-! ## Answers -/

section Answers

variable {thread : Thread} {question : Request} {grip : Grip}
  {aim : question.Answer → Grip → Prop}

/-- What a thread has taken on after an answer. -/
def Follows (before : Grip) : Request → Grip → Prop
  | .deliver record _, after =>
      before = .claimed record ∧ after = .tried record.id
  | .readyRetry id _ _, after => before = .tried id ∧ after = .free
  | .markDelivered id, after => before = .tried id ∧ after = .tried id
  | _, after => before.waits = false ∧ after = before

theorem gripping_follows
    (holds : gripping thread question grip aim) (undue : ∀ row, grip ≠ .due row)
    {answer : question.Answer} (none : question.finds answer = none) :
    ∃ later, Follows grip question later ∧ aim answer later := by
  cases question with
  | deliver record deliveryType =>
      rcases holds with due | ⟨claimed, aims⟩
      · exact absurd due (undue record)
      · exact ⟨_, ⟨claimed, rfl⟩, aims answer⟩
  | getPendingRetry limit =>
      rcases holds with ⟨_, free, failed, empty, _⟩
      refine ⟨.free, ⟨by rw [free]; rfl, free.symm⟩, ?_⟩
      rcases answer with error | _ | ⟨row, rest⟩
      · exact failed error
      · exact empty
      · cases none
  | readyRetry id sendCount nextRetryAt =>
      exact ⟨_, ⟨holds.1, rfl⟩, holds.2 answer⟩
  | markDelivered id => exact ⟨_, ⟨holds.1, holds.1⟩, holds.2 answer⟩
  | _ => exact ⟨_, ⟨holds.1, rfl⟩, holds.2 answer⟩

theorem gripping_finds
    (holds : gripping thread question grip aim) {answer : question.Answer}
    {row : EmailRecord} (found : question.finds answer = some row) :
    thread = .batch ∧ aim answer (.due row) := by
  cases question with
  | getPendingRetry limit =>
      rcases answer with error | _ | ⟨first, rest⟩
      · cases found
      · cases found
      · cases found
        exact ⟨holds.1, holds.2.2.2.2 row rest⟩
  | _ => cases found

theorem attempting_of_waits {server : Server} {record : EmailRecord}
    (ensures : Ensures (gripping thread) (server.threads thread) Rested grip)
    (waits : grip = .claimed record ∨ grip = .due record) :
    server.attempting thread = some record := by
  have waiting : grip.waits = true := by
    rcases waits with rfl | rfl <;> rfl
  rw [Server.attempting]
  cases program : server.threads thread with
  | done value =>
      rw [program] at ensures
      exact absurd waiting (Bool.eq_false_iff.mp ensures)
  | request question next =>
      rw [program] at ensures
      cases question with
      | deliver other deliveryType =>
          rcases ensures with due | ⟨claimed, _⟩
          · rcases waits with same | same <;> rw [due] at same <;> cases same
            rfl
          · rcases waits with same | same <;> rw [claimed] at same <;> cases same
            rfl
      | readyRetry id sendCount nextRetryAt =>
          rw [ensures.1] at waiting
          cases waiting
      | markDelivered id =>
          rw [ensures.1] at waiting
          cases waiting
      | getPendingRetry limit =>
          rw [ensures.2.1] at waiting
          cases waiting
      | _ => exact absurd waiting (Bool.eq_false_iff.mp ensures.1)

theorem waits_of_attempting {server : Server} {record : EmailRecord}
    (ensures : Ensures (gripping thread) (server.threads thread) Rested grip)
    (attempts : server.attempting thread = some record) :
    grip = .due record ∨ grip = .claimed record := by
  rw [Server.attempting] at attempts
  split at attempts
  · next other deliveryType next program =>
      cases attempts
      rw [program] at ensures
      exact ensures.imp id And.left
  · cases attempts

end Answers

/-! ## The invariant -/

/-- The threads keep to what they have taken on. An email that a thread has
taken on can be claimed by no other, and is `sending` until it is attempted. -/
structure Gripped (server : Server) (grips : Thread → Grip) : Prop where
  ensures : ∀ thread, Ensures (gripping thread) (server.threads thread) Rested
    (grips thread)
  undue : ∀ thread row, grips thread ≠ .due row
  alone : ∀ first second id, (grips first).holds = some id →
    (grips second).holds = some id → first = second
  issued : ∀ thread id, (grips thread).holds = some id → id ∈ server.issued
  rows : ∀ row ∈ server.world.db.emails, row.id ∈ server.issued
  taken : ∀ thread, ∀ row ∈ server.world.db.emails,
    (grips thread).holds = some row.id → isClaimable row = false
  sending : ∀ thread record, grips thread = .claimed record →
    record.status = .sending ∧ ∀ row ∈ server.world.db.emails,
      row.id = record.id → row.status = .sending

/-- A thread has taken on what it had, has attempted it, or is done with it. -/
def Continues (before after : Grip) : Prop :=
  after = .free ∨ after = before ∨
    ∃ record, before = .claimed record ∧ after = .tried record.id

theorem Continues.holds {before after : Grip} {id : String}
    (continues : Continues before after) (holds : after.holds = some id) :
    before.holds = some id := by
  rcases continues with rfl | rfl | ⟨record, rfl, rfl⟩
  · cases holds
  · exact holds
  · exact holds

theorem Continues.claimed {before after : Grip} {record : EmailRecord}
    (continues : Continues before after) (claimed : after = .claimed record) :
    before = .claimed record := by
  rcases continues with rfl | rfl | ⟨other, rfl, rfl⟩
  · cases claimed
  · exact claimed
  · cases claimed

theorem Follows.continues {question : Request} {before after : Grip}
    (follows : Follows before question after) : Continues before after := by
  cases question with
  | deliver record deliveryType => exact .inr (.inr ⟨record, follows⟩)
  | readyRetry id sendCount nextRetryAt => exact .inl follows.2
  | markDelivered id => exact .inr (.inl (follows.2.trans follows.1.symm))
  | _ => exact .inr (.inl follows.2)

theorem Request.update_id {question : Request} {time : Timestamp}
    {change : EmailRecord → EmailRecord}
    (updates : question.update time = some change) (row : EmailRecord) :
    (change row).id = row.id := by
  cases question with
  | flipReadyingToReady id | readyRetry id sendCount nextRetryAt
  | updateSendCount id sendCount | complete id | markDelivered id =>
      cases updates
      dsimp only
      split <;> rfl
  | _ => cases updates

theorem Effect.origin {world : World} {question : Request} {ok : Bool}
    {db : Database} (effect : Effect env world question ok db) :
    ∀ row ∈ db.emails,
      (∃ mail, question = .create mail ∧ row.id = mail.id) ∨
      ∃ old ∈ world.db.emails, row = old ∨
        (¬ question.Fails env world ∧ ∃ time change,
          question.update time = some change ∧ row = change old) := by
  intro row member
  cases effect with
  | read ok reads => exact .inr ⟨row, member, .inl rfl⟩
  | failed writes fails => exact .inr ⟨row, member, .inl rfl⟩
  | updated succeeds time change updates emails rows =>
      have mapped : row ∈ emails := member
      rw [← Table.mem_rows, rows, List.mem_map] at mapped
      rcases mapped with ⟨old, stored, rfl⟩
      exact .inr ⟨old, stored, .inr ⟨succeeds, time, change, updates, rfl⟩⟩
  | deleted succeeds id deletes =>
      exact .inr ⟨row, (Table.mem_delete.mp member).1, .inl rfl⟩
  | created mail creates createdAt emails inserted =>
      rcases (Table.mem_of_insert? inserted).mp member with old | new
      · exact .inr ⟨row, old, .inl rfl⟩
      · rw [new]
        exact .inl ⟨mail, creates, rfl⟩
  | refused mail creates => exact .inr ⟨row, member, .inl rfl⟩

namespace Gripped

variable {server next : Server} {grips later : Thread → Grip}

theorem continues (gripped : Gripped server grips)
    (ensures : ∀ thread, Ensures (gripping thread) (next.threads thread) Rested
      (later thread))
    (goesOn : ∀ thread, Continues (grips thread) (later thread))
    (issued : ∀ id ∈ server.issued, id ∈ next.issued)
    (rows : ∀ row ∈ next.world.db.emails, row.id ∈ next.issued ∧
      ∀ thread, (later thread).holds = some row.id →
        ∃ old ∈ server.world.db.emails, old.id = row.id ∧
          (isClaimable old = false → isClaimable row = false) ∧
          ∀ record, later thread = .claimed record → old.status = .sending →
            row.status = .sending) :
    Gripped next later where
  ensures := ensures
  undue thread row due := by
    rcases goesOn thread with free | same | ⟨record, _, tried⟩
    · rw [free] at due
      cases due
    · rw [same] at due
      exact gripped.undue thread row due
    · rw [tried] at due
      cases due
  alone first second id one two :=
    gripped.alone first second id ((goesOn first).holds one)
      ((goesOn second).holds two)
  issued thread id holds :=
    issued id (gripped.issued thread id ((goesOn thread).holds holds))
  rows row member := (rows row member).1
  taken thread row member holds := by
    rcases (rows row member).2 thread holds with ⟨old, stored, same, keeps, _⟩
    refine keeps (gripped.taken thread old stored ?_)
    rw [same]
    exact (goesOn thread).holds holds
  sending thread record claimed := by
    have before := gripped.sending thread record ((goesOn thread).claimed claimed)
    refine ⟨before.1, fun row member sameId => ?_⟩
    have holds : (later thread).holds = some row.id := by
      rw [claimed, sameId]
      rfl
    rcases (rows row member).2 thread holds with ⟨old, stored, same, _, keeps⟩
    exact keeps record claimed (before.2 old stored (same.trans sameId))

theorem same (gripped : Gripped server grips)
    (ensures : ∀ thread, Ensures (gripping thread) (next.threads thread) Rested
      (later thread))
    (goesOn : ∀ thread, Continues (grips thread) (later thread))
    (issued : ∀ id ∈ server.issued, id ∈ next.issued)
    (rows : ∀ row ∈ next.world.db.emails, ∃ old ∈ server.world.db.emails,
      old.id = row.id ∧ old.status = row.status) :
    Gripped next later := by
  refine gripped.continues ensures goesOn issued fun row member => ?_
  rcases rows row member with ⟨old, stored, sameId, sameStatus⟩
  constructor
  · rw [← sameId]
    exact issued _ (gripped.rows old stored)
  · intro thread _
    refine ⟨old, stored, sameId, ?_, fun _ _ => ?_⟩
    · rw [isClaimable, isClaimable, sameStatus]
      exact id
    · rw [sameStatus]
      exact id

theorem start {thread : Thread} {program : Flow Unit}
    (gripped : Gripped server grips)
    (ensures : Ensures (gripping thread) program Rested .free) :
    Gripped (server.setThread thread program)
      (Function.update grips thread .free) := by
  refine gripped.same (fun other => ?_) (fun other => ?_) (fun _ => id)
    fun row member => ⟨row, member, rfl, rfl⟩
  · by_cases same : other = thread
    · rw [same, Server.setThread_self, Function.update_self]
      exact ensures
    · rw [Server.setThread_other same, Function.update_of_ne same]
      exact gripped.ensures other
  · by_cases same : other = thread
    · rw [same, Function.update_self]
      exact .inl rfl
    · rw [Function.update_of_ne same]
      exact .inr (.inl rfl)

theorem insert {mail : NewMail} (gripped : Gripped server grips)
    (unissued : mail.id ∉ server.issued) :
    Gripped { server with
      world := ((createEmail env mail).run server.world).2
      issued := mail.id :: server.issued } grips := by
  have effect := perform_effect env server.world .quiet (.create mail)
  refine gripped.continues gripped.ensures (fun _ => .inr (.inl rfl))
    (fun _ => List.mem_cons_of_mem _) fun row member => ?_
  have known (stored : row ∈ server.world.db.emails) :
      row.id ∈ mail.id :: server.issued ∧
      ∀ thread, (grips thread).holds = some row.id →
        ∃ old ∈ server.world.db.emails, old.id = row.id ∧
          (isClaimable old = false → isClaimable row = false) ∧
          ∀ record, grips thread = .claimed record → old.status = .sending →
            row.status = .sending :=
    ⟨List.mem_cons_of_mem _ (gripped.rows row stored),
      fun _ _ => ⟨row, stored, rfl, id, fun _ _ => id⟩⟩
  rcases effect.creates with same | ⟨createdAt, emails, inserted, same⟩
  · have unchanged : ((createEmail env mail).run server.world).2.db =
        server.world.db := same
    rw [unchanged] at member
    exact known member
  · have changed : ((createEmail env mail).run server.world).2.db =
        { server.world.db with emails } := same
    rw [changed] at member
    rcases (Table.mem_of_insert? inserted).mp member with old | new
    · exact known old
    · rw [new]
      refine ⟨List.mem_cons_self, fun thread holds => ?_⟩
      exact absurd (gripped.issued thread _ holds) unissued

theorem saveAttachments {emailId : String} {attachmentIds : List String}
    (gripped : Gripped server grips) :
    Gripped { server with
      world := ((updateEmailAttachments env emailId attachmentIds).run
        server.world).2 } grips := by
  have sameIds : ∀ row : EmailRecord,
      ({ row with attachments := some attachmentIds } : EmailRecord).id =
        row.id := fun _ => rfl
  refine gripped.same gripped.ensures (fun _ => .inr (.inl rfl)) (fun _ => id)
    fun row member => ?_
  rcases run_updateEmails env server.world (·.id == emailId) sameIds with
    ⟨_, error, ran⟩ | ⟨_, emails, ran, rows⟩
  · rw [updateEmailAttachments, ran] at member
    exact ⟨row, member, rfl, rfl⟩
  · rw [updateEmailAttachments, ran] at member
    have mapped : row ∈ emails := member
    rw [← Table.mem_rows, rows, List.mem_map] at mapped
    rcases mapped with ⟨old, stored, rfl⟩
    refine ⟨old, stored, ?_, ?_⟩
    all_goals split <;> rfl

theorem unheld (gripped : Gripped server grips) {row : EmailRecord}
    (stored : row ∈ server.world.db.emails) (claimable : isClaimable row = true)
    (thread : Thread) : (grips thread).holds ≠ some row.id := by
  intro holds
  rw [gripped.taken thread row stored holds] at claimable
  cases claimable

theorem claimed {permit : Nat} {row : EmailRecord} {time : Timestamp}
    {world : World} {channel : List String} (gripped : Gripped server grips)
    (stored : row ∈ server.world.db.emails) (claimable : isClaimable row = true)
    (mapped : ∀ now ∈ world.db.emails, ∃ old ∈ server.world.db.emails,
      (old = row ∧ now = markSending time row) ∨
        (old.id ≠ row.id ∧ now = old)) :
    Gripped (({ server with channel, world } : Server).setThread
        (.delivery permit) (immediateForward config (markSending time row)))
      (Function.update grips (.delivery permit)
        (.claimed (markSending time row))) := by
  have own : Function.update grips (.delivery permit)
      (.claimed (markSending time row)) (.delivery permit) =
        .claimed (markSending time row) := Function.update_self ..
  have others {thread : Thread} (different : thread ≠ .delivery permit) :
      Function.update grips (.delivery permit)
        (.claimed (markSending time row)) thread = grips thread :=
    Function.update_of_ne different ..
  have marked {id : String} (holds : (Grip.claimed (markSending time row)).holds =
      some id) : id = row.id := (Option.some.inj holds).symm
  constructor
  · intro thread
    by_cases same : thread = .delivery permit
    · rw [same, own, Server.setThread_self]
      exact immediateForward_grips
    · rw [others same, Server.setThread_other same]
      exact gripped.ensures thread
  · intro thread waiting due
    by_cases same : thread = .delivery permit
    · rw [same, own] at due
      cases due
    · rw [others same] at due
      exact gripped.undue thread waiting due
  · intro first second id one two
    by_cases firstSame : first = .delivery permit
    · by_cases secondSame : second = .delivery permit
      · exact firstSame.trans secondSame.symm
      · rw [firstSame, own] at one
        rw [others secondSame, marked one] at two
        exact absurd two (gripped.unheld stored claimable second)
    · rw [others firstSame] at one
      by_cases secondSame : second = .delivery permit
      · rw [secondSame, own] at two
        rw [marked two] at one
        exact absurd one (gripped.unheld stored claimable first)
      · rw [others secondSame] at two
        exact gripped.alone first second id one two
  · intro thread id holds
    by_cases same : thread = .delivery permit
    · rw [same, own] at holds
      rw [marked holds]
      exact gripped.rows row stored
    · rw [others same] at holds
      exact gripped.issued thread id holds
  · intro now member
    rcases mapped now member with ⟨old, present, ⟨rfl, rfl⟩ | ⟨_, rfl⟩⟩
    · exact gripped.rows old present
    · exact gripped.rows now present
  · intro thread now member holds
    rcases mapped now member with ⟨old, present, ⟨rfl, rfl⟩ | ⟨different, rfl⟩⟩
    · rfl
    · by_cases same : thread = .delivery permit
      · rw [same, own] at holds
        exact absurd (marked holds) different
      · rw [others same] at holds
        exact gripped.taken thread now present holds
  · intro thread record waiting
    by_cases same : thread = .delivery permit
    · rw [same, own] at waiting
      cases waiting
      refine ⟨rfl, fun now member sameId => ?_⟩
      rcases mapped now member with ⟨old, present, ⟨rfl, rfl⟩ | ⟨different, rfl⟩⟩
      · rfl
      · exact absurd sameId different
    · rw [others same] at waiting
      have before := gripped.sending thread record waiting
      refine ⟨before.1, fun now member sameId => ?_⟩
      rcases mapped now member with ⟨old, present, ⟨rfl, rfl⟩ | ⟨_, rfl⟩⟩
      · rfl
      · exact before.2 now present sameId

theorem claim {permit : Nat} {emailId : String} {channel : List String}
    (gripped : Gripped server grips) :
    ∃ later, Gripped (({ server with channel } : Server).claim env config permit
        emailId) later ∧
      ∀ thread record, later thread = .claimed record →
        grips thread = .claimed record ∨
        thread = .delivery permit ∧ ∃ row ∈ server.world.db.emails,
          isClaimable row = true ∧ ∃ time, record = markSending time row := by
  rcases Server.claim_cases { server with channel } env config permit emailId
    with ⟨world, unchanged, claimed⟩ |
      ⟨row, stored, sameId, claimable, time, emails, world, rows, after, claimed⟩
  · rw [claimed]
    refine ⟨grips, ?_, fun _ _ => .inl⟩
    refine gripped.same gripped.ensures (fun _ => .inr (.inl rfl)) (fun _ => id)
      fun row member => ⟨row, ?_, rfl, rfl⟩
    have kept : world.db = server.world.db := unchanged
    rwa [kept] at member
  · have mapped : ∀ now ∈ world.db.emails, ∃ old ∈ server.world.db.emails,
        (old = row ∧ now = markSending time row) ∨
          (old.id ≠ row.id ∧ now = old) := by
      intro now member
      rw [show world.db = _ from after] at member
      have inMap : now ∈ emails := member
      rw [← Table.mem_rows, rows, List.mem_map] at inMap
      rcases inMap with ⟨old, present, rfl⟩
      refine ⟨old, present, ?_⟩
      by_cases same : old.id = row.id
      · have equal : old = row :=
          Table.eq_of_conflict EmailRecord.conflict_comm present stored
            (by rw [EmailRecord.conflict, same, beq_self_eq_true])
        subst equal
        refine .inl ⟨rfl, if_pos ?_⟩
        rw [sameId, claimable, beq_self_eq_true]
        rfl
      · refine .inr ⟨same, if_neg ?_⟩
        rw [← sameId, Bool.and_eq_true, beq_iff_eq]
        exact fun both => same both.1
    rw [claimed]
    refine ⟨Function.update grips (.delivery permit)
      (.claimed (markSending time row)), gripped.claimed stored claimable
        mapped, ?_⟩
    · intro thread record taken
      by_cases same : thread = .delivery permit
      · rw [same, Function.update_self] at taken
        cases taken
        exact .inr ⟨same, row, stored, claimable, time, rfl⟩
      · rw [Function.update_of_ne same] at taken
        exact .inl taken

section Advance

variable {thread : Thread} {outside : Outside} {question : Request}
  {program : question.Answer → Flow Unit} {after : Grip}

/-- An update leaves a taken email unclaimable, and a claimed one `sending`. -/
theorem update_keeps (gripped : Gripped server grips)
    (follows : Follows (grips thread) question after) {time : Timestamp}
    {change : EmailRecord → EmailRecord}
    (updates : question.update time = some change)
    (spares : ∀ id, question = .complete id →
      ∀ row ∈ server.world.db.emails, row.id = id →
        ∀ other record, server.attempting other = some record →
          record.id ≠ id)
    {old : EmailRecord} (stored : old ∈ server.world.db.emails)
    {other : Thread}
    (holds : (Function.update grips thread after other).holds = some old.id) :
    (isClaimable old = false → isClaimable (change old) = false) ∧
      ∀ record, Function.update grips thread after other = .claimed record →
        old.status = .sending → (change old).status = .sending := by
  have own : Function.update grips thread after thread = after :=
    Function.update_self ..
  have elsewhere (different : other ≠ thread) :
      Function.update grips thread after other = grips other :=
    Function.update_of_ne different ..
  cases question with
  | flipReadyingToReady id =>
      cases updates
      dsimp only
      split
      · next selected =>
          rw [Bool.and_eq_true, beq_iff_eq, beq_iff_eq] at selected
          constructor
          · intro free
            rw [isClaimable, selected.2] at free
            cases free
          · intro record _ sending
            rw [selected.2] at sending
            cases sending
      · exact ⟨fun same => same, fun _ _ same => same⟩
  | readyRetry id sendCount nextRetryAt =>
      cases updates
      dsimp only
      split
      · next selected =>
          rw [beq_iff_eq] at selected
          rcases follows with ⟨tried, free⟩
          by_cases same : other = thread
          · rw [same, own, free] at holds
            cases holds
          · rw [elsewhere same, selected] at holds
            refine absurd (gripped.alone other thread id holds ?_) same
            rw [tried]
            rfl
      · exact ⟨fun same => same, fun _ _ same => same⟩
  | updateSendCount id sendCount =>
      cases updates
      dsimp only
      split
      · exact ⟨fun same => same, fun _ _ same => same⟩
      · exact ⟨fun same => same, fun _ _ same => same⟩
  | complete id =>
      cases updates
      dsimp only
      split
      · next selected =>
          rw [beq_iff_eq] at selected
          refine ⟨fun _ => rfl, fun record claimed _ => ?_⟩
          rw [claimed] at holds
          have sameId : record.id = id :=
            (Option.some.inj holds).trans selected
          have before : grips other = .claimed record := by
            by_cases same : other = thread
            · rw [same, own, follows.2] at claimed
              rw [same]
              exact claimed
            · rwa [elsewhere same] at claimed
          exact absurd sameId (spares id rfl old stored selected other record
            (attempting_of_waits (gripped.ensures other) (.inl before)))
      · exact ⟨fun same => same, fun _ _ same => same⟩
  | markDelivered id =>
      cases updates
      dsimp only
      split
      · next selected =>
          rw [beq_iff_eq] at selected
          refine ⟨fun _ => rfl, fun record claimed _ => ?_⟩
          rcases follows with ⟨tried, same⟩
          by_cases sameThread : other = thread
          · rw [sameThread, own, same] at claimed
            cases claimed
          · rw [elsewhere sameThread, selected] at holds
            refine absurd (gripped.alone other thread id holds ?_) sameThread
            rw [tried]
            rfl
      · exact ⟨fun same => same, fun _ _ same => same⟩
  | _ => cases updates

theorem advance (gripped : Gripped server grips)
    (held : server.threads thread = .request question program)
    (new : server.repeatsId question = false)
    (none : question.finds (perform env outside question server.world).1 = none)
    (spares : ∀ id, question = .complete id → ¬ question.Fails env server.world →
      ∀ row ∈ server.world.db.emails, row.id = id →
        ∀ other record, server.attempting other = some record →
          record.id ≠ id) :
    ∃ later, Gripped
        (server.execute env config thread outside question program) later ∧
      ∀ other record, later other = .claimed record →
        grips other = .claimed record := by
  have ensures := gripped.ensures thread
  rw [held] at ensures
  rcases gripping_follows ensures (gripped.undue thread) none with
    ⟨after, follows, aim⟩
  have goesOn (other : Thread) :
      Continues (grips other) (Function.update grips thread after other) := by
    by_cases same : other = thread
    · rw [same, Function.update_self]
      exact follows.continues
    · rw [Function.update_of_ne same]
      exact .inr (.inl rfl)
  refine ⟨Function.update grips thread after, gripped.continues (fun other => ?_)
    goesOn (fun _ => List.mem_append_right _) (fun row member => ?_),
    fun other record claimed => (goesOn other).claimed claimed⟩
  · by_cases same : other = thread
    · subst same
      rw [Server.execute_self, Function.update_self]
      exact aim
    · rw [Server.execute_other same, Function.update_of_ne same]
      exact gripped.ensures other
  · have effect := perform_effect env server.world outside question
    rcases effect.origin row member with
      ⟨mail, creates, sameId⟩ | ⟨old, stored, same⟩
    · subst creates
      have unissued : mail.id ∉ server.issued := by
        intro issued
        rw [Server.repeatsId] at new
        exact Bool.eq_false_iff.mp new (List.contains_iff_mem.mpr issued)
      rw [sameId]
      refine ⟨List.mem_append_left _ (List.mem_singleton_self _),
        fun other holds => ?_⟩
      exact absurd (gripped.issued other _ ((goesOn other).holds holds)) unissued
    · rcases same with rfl | ⟨succeeds, time, change, updates, rfl⟩
      · exact ⟨List.mem_append_right _ (gripped.rows row stored),
          fun other _ => ⟨row, stored, rfl, id, fun _ _ => id⟩⟩
      · rw [Request.update_id updates]
        refine ⟨List.mem_append_right _ (gripped.rows old stored),
          fun other holds => ⟨old, stored, rfl, ?_⟩⟩
        exact gripped.update_keeps follows updates
          (fun id completes => spares id completes succeeds) stored holds

end Advance

theorem crash (gripped : Gripped server grips) :
    Gripped { server with channel := [], threads := fun _ => pure () }
      fun _ => .free :=
  gripped.same (fun _ => rfl) (fun _ => .inl rfl) (fun _ => id)
    fun row member => ⟨row, member, rfl, rfl⟩

theorem step {event : Event} (gripped : Gripped server grips)
    (moved : Guarded (SparesAttempts env) (Server.Steps env config) server event
      next) :
    ∃ later, Gripped next later ∧ ∀ thread record,
      later thread = .claimed record → grips thread = .claimed record ∨
        ∃ permit, thread = .delivery permit ∧ event = .claim permit ∧
          ∃ row ∈ server.world.db.emails, isClaimable row = true ∧
            ∃ time, record = markSending time row := by
  rcases moved with ⟨spares, moved⟩
  have restarted {thread : Thread} {other : Thread} {record : EmailRecord}
      (claimed : Function.update grips thread .free other = .claimed record) :
      grips other = .claimed record := by
    by_cases same : other = thread
    · rw [same, Function.update_self] at claimed
      cases claimed
    · rwa [Function.update_of_ne same] at claimed
  rw [Server.Steps] at moved
  cases event with
  | insert mail =>
      rw [Server.step] at moved
      split at moved
      · cases moved
      · next new =>
          cases moved
          rw [Bool.or_eq_true, not_or, List.contains_iff_mem] at new
          exact ⟨grips, gripped.insert new.1, fun _ _ => .inl⟩
  | saveAttachments emailId attachmentIds =>
      cases moved
      exact ⟨grips, gripped.saveAttachments, fun _ _ => .inl⟩
  | wake emailId =>
      rw [Server.step] at moved
      split at moved
      · cases moved
        refine ⟨grips, ?_, fun _ _ => .inl⟩
        refine gripped.same (fun thread => ?_) (fun _ => .inr (.inl rfl))
          (fun emailId issued => ?_) fun row member => ⟨row, ?_, rfl, rfl⟩
        · rw [Server.wake_threads]
          exact gripped.ensures thread
        · rw [Server.wake]
          split <;> exact issued
        · rwa [Server.wake_world] at member
      · cases moved
  | tick =>
      rw [Server.step] at moved
      split at moved
      · cases moved
        exact ⟨_, gripped.start processBatch_grips,
          fun _ _ claimed => .inl (restarted claimed)⟩
      · cases moved
  | claim permit =>
      rw [Server.step] at moved
      split at moved
      · cases moved
      · next emailId channel waiting =>
          split at moved
          · cases moved
            rcases gripped.claim with ⟨later, kept, origin⟩
            refine ⟨later, kept, fun thread record claimed => ?_⟩
            rcases origin thread record claimed with before | ⟨own, taken⟩
            · exact .inl before
            · exact .inr ⟨permit, own, rfl, taken⟩
          · cases moved
  | bounce session originalId =>
      rw [Server.step] at moved
      split at moved
      · cases moved
        exact ⟨_, gripped.start ((settleBounced_idles originalId).finishes rfl),
          fun _ _ claimed => .inl (restarted claimed)⟩
      · cases moved
  | advance thread outside =>
      rw [Server.step] at moved
      split at moved
      · cases moved
      · next question program held =>
          split at moved
          · cases moved
          · next new =>
              cases moved
              rcases spares question program held with ⟨none, spared⟩
              rcases gripped.advance held (Bool.eq_false_iff.mpr new) none spared
                with ⟨later, kept, origin⟩
              exact ⟨later, kept, fun other record claimed =>
                .inl (origin other record claimed)⟩
  | panic permit =>
      cases moved
      exact ⟨_, gripped.start rfl, fun _ _ claimed => .inl (restarted claimed)⟩
  | crash =>
      cases moved
      exact ⟨_, gripped.crash, fun _ _ claimed => by cases claimed⟩

theorem boot {world : World} {issued : List String}
    (known : ∀ row ∈ world.db.emails, row.id ∈ issued) :
    Gripped (.boot world issued) fun _ => .free where
  ensures _ := rfl
  undue _ _ due := by cases due
  alone _ _ _ holds := by cases holds
  issued _ _ holds := by cases holds
  rows := known
  taken _ _ _ holds := by cases holds
  sending _ _ claimed := by cases claimed

theorem attemptsCurrent (gripped : Gripped server grips) {thread : Thread}
    {record : EmailRecord} (claimed : grips thread = .claimed record) :
    server.AttemptsCurrent thread record := by
  rcases gripped.sending thread record claimed with ⟨sending, rows⟩
  refine ⟨attempting_of_waits (gripped.ensures thread) (.inl claimed),
    fun row member sameId => ?_⟩
  rw [rows row member sameId, sending]

end Gripped

/-! ## Runs -/

section Runs

variable {start server next : Server} {events : List Event}
  {event : Event}

theorem Server.steps_unique {one two : Server}
    (first : Server.Steps env config server event one)
    (second : Server.Steps env config server event two) : one = two :=
  Option.some.inj (first.symm.trans second)

/-- The run so far, with what the threads have taken on. Each email that a
thread attempts was claimed for it. -/
def GrippedBy (env : Surroundings) (config : Config) (start : Server)
    (events : List Event) (server : Server) : Prop :=
  Run (Server.Steps env config) start events server ∧
    ∃ grips, Gripped server grips ∧ ∀ thread record,
      grips thread = .claimed record →
        Server.ClaimedFor env config start events server thread record

theorem GrippedBy.step (gripped : GrippedBy env config start events server)
    (moved : Guarded (SparesAttempts env) (Server.Steps env config) server event
      next) : GrippedBy env config start (events ++ [event]) next := by
  rcases gripped with ⟨run, grips, gripped, history⟩
  rcases gripped.step moved with ⟨later, kept, origin⟩
  refine ⟨run.append (.cons moved.2 (.nil _)), later, kept,
    fun thread record claimed => ?_⟩
  have current := kept.attemptsCurrent claimed
  rcases origin thread record claimed with
    before | ⟨permit, own, rfl, row, stored, claimable, time, marked⟩
  · rcases history thread record before with
      ⟨permit, earlier, since, prior, after, own, rfl, start, took, moves, rest, held⟩
    refine ⟨permit, earlier, since ++ [event], prior, after, own, ?_, start,
      took, moves, rest.append (.cons ⟨held, moved.2⟩ (.nil _)), current⟩
    rw [List.append_assoc, List.cons_append]
  · exact ⟨permit, events, [], server, next, own, rfl, run,
      ⟨row, stored, claimable, time, marked⟩, moved.2, .nil _, current⟩

theorem GrippedBy.delivers (gripped : GrippedBy env config start events server) :
    Server.DeliversSingly env config start events server := by
  rcases gripped with ⟨_, grips, gripped, history⟩
  have claimed {thread : Thread} {record : EmailRecord}
      (attempts : server.attempting thread = some record) :
      grips thread = .claimed record := by
    rcases waits_of_attempting (gripped.ensures thread) attempts with due | claimed
    · exact absurd due (gripped.undue thread record)
    · exact claimed
  constructor
  · intro first second record other one two same
    refine gripped.alone first second record.id ?_ ?_
    · rw [claimed one]
      rfl
    · rw [claimed two, same]
      rfl
  · exact fun thread record attempts => history thread record (claimed attempts)

theorem GrippedBy.spares (gripped : GrippedBy env config start events server)
    (moved : Server.Steps env config server event next)
    (singly : Server.DeliversSingly env config start (events ++ [event]) next) :
    SparesAttempts env server event := by
  rcases gripped with ⟨_, grips, gripped, _⟩
  cases event with
  | advance thread outside =>
      intro question program held
      have ensures := gripped.ensures thread
      rw [held] at ensures
      rw [Server.Steps, Server.step, held] at moved
      simp only at moved
      split at moved
      · cases moved
      · cases moved
        constructor
        · cases found : question.finds
            (perform env outside question server.world).1 with
          | none => rfl
          | some row =>
              rcases gripping_finds ensures found with ⟨rfl, aim⟩
              have waits : Ensures (gripping .batch) ((server.execute env config
                  .batch outside question program).threads .batch) Rested
                    (.due row) := by
                rw [Server.execute_self]
                exact aim
              have attempts := attempting_of_waits waits (.inr rfl)
              rcases singly.claimed .batch row attempts with
                ⟨permit, _, _, _, _, own, _⟩
              cases own
        · rintro id rfl succeeds row stored sameId other record attempts same
          have different : other ≠ thread := by
            intro equal
            rw [equal, Server.attempting, held] at attempts
            cases attempts
          have later : (server.execute env config thread outside (.complete id)
              program).attempting other = some record := by
            rw [Server.attempting, Server.execute_other different]
            exact attempts
          rcases singly.claimed other record later with
            ⟨_, _, _, _, _, _, _, _, _, _, _, current⟩
          have sending : record.status = .sending := by
            rcases waits_of_attempting (gripped.ensures other) attempts with
              due | claimed
            · exact absurd due (gripped.undue other record)
            · exact (gripped.sending other record claimed).1
          rcases (perform_effect env server.world outside (.complete id)).updates
            rfl with ⟨_, fails, _⟩ | ⟨_, time, change, emails, updates, rows, after⟩
          · exact succeeds fails
          · cases updates
            have member : markCompleted time row ∈ (server.execute env config
                thread outside (.complete id) program).world.db.emails := by
              rw [Server.execute_world, after, ← Table.mem_rows, rows]
              refine List.mem_map.mpr ⟨row, stored, if_pos ?_⟩
              rw [sameId, beq_self_eq_true]
            have now := current.2 _ member (sameId.trans same.symm)
            rw [sending] at now
            cases now
  | _ => trivial

end Runs

/-- Every attempt is of an email claimed for it and no two overlap exactly if no
tick retries, and nothing completes, an email under way. -/
theorem delivers_singly_iff {world : World} {issued : List String}
    {events : List Event} {last : Server}
    (known : ∀ row ∈ world.db.emails, row.id ∈ issued)
    (run : Run (Server.Steps env config) (.boot world issued) events last) :
    (∀ earlier later middle, events = earlier ++ later →
      Run (Server.Steps env config) (.boot world issued) earlier middle →
        Server.DeliversSingly env config (.boot world issued) earlier middle) ↔
      Run (Guarded (SparesAttempts env) (Server.Steps env config))
        (.boot world issued) events last := by
  have start : GrippedBy env config (.boot world issued) []
      (.boot world issued) :=
    ⟨.nil _, _, .boot known, fun _ _ claimed => by cases claimed⟩
  have grips {past : List Event} {server : Server}
      (guarded : Run (Guarded (SparesAttempts env) (Server.Steps env config))
        (.boot world issued) past server) :
      GrippedBy env config (.boot world issued) past server :=
    guarded.accumulates (GrippedBy env config (.boot world issued))
      (fun _ _ _ _ gripped moved => gripped.step moved) start
  constructor
  · intro singly
    induction events using List.reverseRecOn generalizing last with
    | nil =>
        cases run
        exact .nil _
    | append_singleton past event induction =>
        rcases run.split with ⟨middle, before, final⟩
        have guarded := induction before fun earlier later reached same =>
          singly earlier (later ++ [event]) reached
            (by rw [same, List.append_assoc])
        cases final with
        | cons moved rest =>
            cases rest
            have whole := singly (past ++ [event]) [] _
              (List.append_nil _).symm run
            have spares := (grips guarded).spares moved whole
            exact guarded.append (.cons ⟨spares, moved⟩ (.nil _))
  · rintro guarded earlier later middle rfl prior
    rcases guarded.split with ⟨reached, first, _⟩
    have functional : ∀ state event one two,
        Server.Steps env config state event one →
          Server.Steps env config state event two → one = two :=
      fun _ _ _ _ => Server.steps_unique
    have same : reached = middle := first.of_guarded.unique functional prior
    rw [← same]
    exact (grips first).delivers

/-- The report is stored, and its trigger claims it. -/
def triggered : List Event := [.insert report, .wake "out-1", .claim 0]

theorem delivers_singly_triggered : ∃ last,
    Run (Server.Steps passingTime plainConfig) newServer triggered last ∧
      (last.attempting (.delivery 0)).map (·.id) = some "out-1" ∧
      Server.DeliversSingly passingTime plainConfig newServer triggered last := by
  have ran : (newServer.runs passingTime plainConfig triggered).map
      (fun server => (server.attempting (.delivery 0)).map (·.id)) =
        some (some "out-1") := by
    decide +kernel
  rcases Option.map_eq_some_iff.mp ran with ⟨last, ended, attempts⟩
  have run := Server.run_of_runs ended
  have spared : ∀ server, ∀ event ∈ triggered,
      SparesAttempts passingTime server event := by
    intro server
    simp only [triggered, List.forall_mem_cons]
    exact ⟨trivial, trivial, trivial, fun event member => by cases member⟩
  exact ⟨last, run, attempts, (delivers_singly_iff (fun row member => by
    cases member) run).mpr (run.guarded spared) triggered [] last
      (List.append_nil _).symm run⟩

/-- The report was not triggered; a tick attempts it. -/
theorem retried_unclaimed : ∃ last,
    Run (Server.Steps passingTime plainConfig) newServer
      ([.insert report, .tick] ++ batchSteps 6) last ∧
      ¬ Server.DeliversSingly passingTime plainConfig newServer
        ([.insert report, .tick] ++ batchSteps 6) last := by
  have ran : (newServer.runs passingTime plainConfig
      ([.insert report, .tick] ++ batchSteps 6)).map
        (fun server => (server.attempting .batch).isSome) = some true := by
    decide +kernel
  rcases Option.map_eq_some_iff.mp ran with ⟨last, ended, attempts⟩
  rcases Option.isSome_iff_exists.mp attempts with ⟨record, attempting⟩
  refine ⟨last, Server.run_of_runs ended, fun singly => ?_⟩
  rcases singly.claimed .batch record attempting with ⟨permit, _, _, _, _, own, _⟩
  cases own

end AimailGateway.Scheduler
