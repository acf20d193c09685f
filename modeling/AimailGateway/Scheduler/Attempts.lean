import AimailGateway.Scheduler.Server

/-! # Bounded attempts

`send_count` counts the failed attempts of an email and never passes its
`max_attempts`, in every run in which a trigger claims only emails that were
never tried and every attempt is written down. The ghost state of a thread is
what it knows of the emails it works on: the count it read, and whether it has
tried since.
-/

namespace AimailGateway.Scheduler

open Library Program Storage

variable {env : Surroundings} {config : Config}

/-! ## What the notes say -/

def Note.isAttempt (id : String) : Note → Bool
  | .attempted _ emailId _ => emailId == id
  | .recorded _ _ => false

def Note.isFailure (id : String) : Note → Bool
  | .attempted _ emailId succeeded => emailId == id && !succeeded
  | .recorded _ _ => false

/-- How often an email was attempted. -/
def attempts (notes : List Note) (id : String) : Nat :=
  notes.countP (Note.isAttempt id)

/-- How often an attempt of an email failed. -/
def failures (notes : List Note) (id : String) : Nat :=
  notes.countP (Note.isFailure id)

/-- The outcome of the last attempt a thread made of an email, while it has
not written it down. -/
def unwritten (thread : Thread) (id : String) : List Note → Option Bool
  | [] => none
  | .attempted other emailId succeeded :: earlier =>
      if other = thread ∧ emailId = id then some succeeded
      else unwritten thread id earlier
  | .recorded other emailId :: earlier =>
      if other = thread ∧ emailId = id then none
      else unwritten thread id earlier

/-- An attempt is not written down that has to be: it failed, or the email can
still be retried. -/
def Unwritten (notes : List Note) (row : EmailRecord) : Prop :=
  ∃ thread succeeded, unwritten thread row.id notes = some succeeded ∧
    (succeeded = false ∨ row.status = .ready)

/-- A trigger claims no email that was tried before, and no attempt is lost
before it is written down. -/
def Counts (env : Surroundings) (server : Server) : Event → Prop
  | .claim _ =>
      ∀ emailId channel, server.channel = emailId :: channel →
        ∀ row ∈ server.world.db.emails, row.id = emailId →
          isClaimable row = true → row.sendCount = 0
  | .advance thread _ =>
      ∀ question next, server.threads thread = .request question next →
        ∀ row ∈ server.world.db.emails, question.records = some row.id →
          Unwritten server.notes row → ¬ question.Fails env server.world
  | .panic permit =>
      ∀ row ∈ server.world.db.emails,
        unwritten (.delivery permit) row.id server.notes ≠ some false
  | .crash => ∀ row ∈ server.world.db.emails, ¬ Unwritten server.notes row
  | _ => True

/-! ## What a thread knows -/

/-- What a thread knows of an email it works on. -/
inductive Hold where
  /-- The count it read; it has not tried the email. -/
  | held (count limit : Int)
  /-- It has tried and not written the attempt down. -/
  | tried (count limit : Int) (succeeded : Bool)
  /-- The email is no longer there. -/
  | gone

abbrev View := String → Option Hold

def View.nothing : View := fun _ => none

def View.put (view : View) (id : String) (hold : Hold) : View :=
  Function.update view id (some hold)

def View.drop (view : View) (id : String) : View :=
  Function.update view id none

/-- The view of a thread that has just read emails. -/
def View.ofRows (rows : List EmailRecord) : View :=
  fun id => (rows.find? (·.id == id)).map fun row =>
    .held row.sendCount row.maxAttempts

/-- Emails a thread can take on: all different, with attempts left. -/
structure Retriable (rows : List EmailRecord) : Prop where
  distinct : rows.Pairwise fun first second => first.id ≠ second.id
  left : ∀ row ∈ rows, row.sendCount < row.maxAttempts

/-- What a thread may do with what it knows. Only the batch takes on emails
that are `ready`. -/
def counting (thread : Thread) : Rule Request Request.Answer View
  | .deliver record _, view, aim =>
      ∃ count limit, view record.id = some (.held count limit) ∧
        ∀ error : Option String,
          aim error (view.put record.id (.tried count limit error.isNone))
  | .readyRetry id sendCount _, view, aim =>
      (∃ count limit, view id = some (.tried count limit false) ∧
        sendCount = count + 1 ∧
          (∀ answer, aim (.ok answer) (view.drop id)) ∧
            ∀ error, aim (.error error) (view.put id .gone) ∨
              aim (.error error) (view.drop id)) ∨
        (view id = some .gone ∧ ∀ answer, aim answer (view.drop id))
  | .updateSendCount id sendCount, view, aim =>
      ∃ count limit, view id = some (.tried count limit false) ∧
        sendCount = count + 1 ∧ ∀ answer, aim answer (view.drop id)
  | .complete id, view, aim | .markDelivered id, view, aim =>
      (∀ count limit, view id ≠ some (.tried count limit false)) ∧
        ∀ answer, aim answer (view.drop id)
  | .getPendingRetry _, view, aim =>
      thread = .batch ∧ view = .nothing ∧
        (∀ error, aim (.error error) .nothing) ∧
          ∀ rows, Retriable rows → aim (.ok rows) (.ofRows rows)
  | .create mail, view, aim => 0 < mail.maxAttempts ∧ ∀ answer, aim answer view
  | _, view, aim => ∀ answer, aim answer view

theorem counting_monotone {thread : Thread} : (counting thread).Monotone := by
  intro question view strong weak weaker holds
  cases question with
  | deliver record deliveryType =>
      rcases holds with ⟨count, limit, known, aims⟩
      exact ⟨count, limit, known, fun error => weaker _ _ (aims error)⟩
  | readyRetry id sendCount nextRetryAt =>
      rcases holds with ⟨count, limit, known, next, written, lost⟩ | ⟨known, aims⟩
      · exact .inl ⟨count, limit, known, next,
          fun answer => weaker _ _ (written answer),
          fun error => (lost error).imp (weaker _ _) (weaker _ _)⟩
      · exact .inr ⟨known, fun answer => weaker _ _ (aims answer)⟩
  | updateSendCount id sendCount =>
      rcases holds with ⟨count, limit, known, next, aims⟩
      exact ⟨count, limit, known, next, fun answer => weaker _ _ (aims answer)⟩
  | complete id => exact ⟨holds.1, fun answer => weaker _ _ (holds.2 answer)⟩
  | markDelivered id =>
      exact ⟨holds.1, fun answer => weaker _ _ (holds.2 answer)⟩
  | getPendingRetry limit =>
      exact ⟨holds.1, holds.2.1, fun error => weaker _ _ (holds.2.2.1 error),
        fun rows retriable => weaker _ _ (holds.2.2.2 rows retriable)⟩
  | create mail => exact ⟨holds.1, fun answer => weaker _ _ (holds.2 answer)⟩
  | _ => exact fun answer => weaker _ _ (holds answer)

section View

variable {view : View} {id other : String} {hold : Hold}

@[simp] theorem View.put_same : view.put id hold id = some hold := by
  simp only [put, Function.update_self]

@[simp] theorem View.drop_same : view.drop id id = none := by
  simp only [drop, Function.update_self]

theorem View.drop_other (different : other ≠ id) :
    view.drop id other = view other := by
  simp only [drop, Function.update_of_ne different]

@[simp] theorem View.drop_put : (view.put id hold).drop id = view.drop id :=
  Function.update_idem ..

@[simp] theorem View.drop_drop : (view.drop id).drop id = view.drop id :=
  Function.update_idem ..

theorem View.drop_nothing : nothing.drop id = nothing :=
  Function.update_eq_self id nothing

theorem View.drop_single : (nothing.put id hold).drop id = nothing := by
  rw [drop_put, drop_nothing]

theorem View.drop_ofRows {row : EmailRecord} {rows : List EmailRecord}
    (new : ∀ later ∈ rows, row.id ≠ later.id) :
    (ofRows (row :: rows)).drop row.id = ofRows rows := by
  funext id
  by_cases same : id = row.id
  · subst same
    have missing : rows.find? (fun later => later.id == row.id) = none := by
      rw [List.find?_eq_none]
      intro later member equal
      exact new later member (beq_iff_eq.mp equal).symm
    rw [drop_same, ofRows, missing]
    rfl
  · rw [drop_other same, ofRows, ofRows, List.find?_cons,
      beq_eq_false_iff_ne.mpr (Ne.symm same)]

end View

/-! ## The flows keep to the rule -/

section Flows

variable {thread : Thread} {view : View} {record : EmailRecord}

/-- A flow that leaves its thread's view as it is. -/
def Keeps (thread : Thread) (flow : Flow Unit) : Prop :=
  ∀ view, Ensures (counting thread) flow (fun _ later => later = view) view

theorem keeps_of_asks {flow : Flow Unit}
    (asks : Asks Request.StandsAside flow) : Keeps thread flow := by
  intro view
  refine asks.keeps fun question aim aside aims => ?_
  cases question with
  | create mail => exact ⟨aside, aims⟩
  | deliver record deliveryType => exact aside.elim
  | getPendingRetry limit => exact aside.elim
  | readyRetry id sendCount nextRetryAt => exact aside.elim
  | updateSendCount id sendCount => exact aside.elim
  | complete id => exact aside.elim
  | markDelivered id => exact aside.elim
  | _ => exact aims

theorem exhaustEmail_drops
    (written : ∀ count limit, view record.id ≠ some (.tried count limit false)) :
    Ensures (counting thread) (exhaustEmail config record none)
      (fun _ later => later = view.drop record.id) view := by
  have mails {mail : Flow Unit} {rest : (Request.complete record.id).Answer → Flow Unit}
      (keeps : Keeps thread mail)
      (cleans : ∀ completed, Ensures (counting thread) (rest completed)
        (fun _ later => later = view.drop record.id) (view.drop record.id)) :
      Ensures (counting thread) (mail >>= fun _ => ask (.complete record.id) >>= rest)
        (fun _ later => later = view.drop record.id) view := by
    rw [ensures_bind]
    refine (keeps view).mono counting_monotone ?_
    rintro _ later rfl
    exact ⟨written, cleans⟩
  unfold exhaustEmail
  cases record.direction with
  | inbound =>
      apply mails (keeps_of_asks insertExhaustionAutoReply_asks)
      rintro (error | _ | row)
      · rfl
      · rfl
      · exact fun _ => rfl
  | outbound =>
      apply mails (keeps_of_asks insertExhaustionNotification_asks)
      rintro (error | _ | row)
      · rfl
      · rfl
      · exact fun _ => rfl

theorem exhaustEmail_counts {count limit : Int}
    (known : view record.id = some (.tried count limit false)) :
    Ensures (counting thread) (exhaustEmail config record (some (count + 1)))
      (fun _ later => later = view.drop record.id) view := by
  have counted : exhaustEmail config record (some (count + 1)) =
      (ask (.updateSendCount record.id (count + 1)) >>= fun _ =>
        exhaustEmail config record none) := rfl
  rw [counted, ensures_bind]
  refine ⟨count, limit, known, rfl, fun _ => ?_⟩
  have exhausted : Ensures (counting thread) (exhaustEmail config record none)
      (fun _ later => later = (view.drop record.id).drop record.id)
      (view.drop record.id) :=
    exhaustEmail_drops fun _ _ tried => by
      rw [View.drop_same] at tried
      cases tried
  rw [View.drop_drop] at exhausted
  exact exhausted

theorem finalizeAfterDelivery_counts {deliveryType : DeliveryType}
    {count limit : Int}
    (known : view record.id = some (.tried count limit true)) :
    Ensures (counting thread) (finalizeAfterDelivery config record deliveryType)
      (fun _ later => later = view.drop record.id) view := by
  have written : ∀ count limit,
      view record.id ≠ some (.tried count limit false) := by
    intro _ _ tried
    rw [known] at tried
    cases tried
  unfold finalizeAfterDelivery
  split
  · exact ⟨written, fun _ => rfl⟩
  · refine ⟨written, ?_⟩
    rintro (error | row)
    · rfl
    · exact fun _ => rfl

theorem periodicInspection_counts
    (known : view record.id = some (.held record.sendCount record.maxAttempts)) :
    Ensures (counting thread) (periodicInspection config record)
      (fun _ later => later = view.drop record.id) view := by
  refine ⟨_, _, known, ?_⟩
  rintro (_ | error)
  · rw [← View.drop_put]
    exact finalizeAfterDelivery_counts View.put_same
  · have tried : (view.put record.id
        (.tried record.sendCount record.maxAttempts false)) record.id =
          some (.tried record.sendCount record.maxAttempts false) :=
      View.put_same
    by_cases last : record.sendCount + 1 ≥ record.maxAttempts
    · simp only [last, if_true]
      rw [← View.drop_put]
      exact exhaustEmail_counts tried
    · simp only [last, if_false]
      intro random time
      refine .inl ⟨_, _, tried, rfl, fun _ => View.drop_put,
        fun _ => .inl fun _ => .inr ⟨View.put_same, fun _ => ?_⟩⟩
      exact View.drop_put.trans View.drop_put

theorem immediateForward_counts
    (known : view record.id = some (.held 0 record.maxAttempts)) :
    Ensures (counting thread) (immediateForward config record)
      (fun _ later => later = view.drop record.id) view := by
  refine ⟨_, _, known, ?_⟩
  rintro (_ | error)
  · rw [← View.drop_put]
    exact finalizeAfterDelivery_counts View.put_same
  · have tried : (view.put record.id (.tried 0 record.maxAttempts false))
        record.id = some (.tried 0 record.maxAttempts false) := View.put_same
    by_cases last : (1 : Int) ≥ record.maxAttempts
    · simp only [last, if_true]
      rw [← View.drop_put]
      exact exhaustEmail_counts tried
    · simp only [last, if_false]
      intro random time
      exact .inl ⟨_, _, tried, rfl, fun _ => View.drop_put,
        fun _ => .inr View.drop_put⟩

/-- A flow that starts and ends with nothing in hand. -/
def Finishes (thread : Thread) (flow : Flow Unit) : Prop :=
  Ensures (counting thread) flow (fun _ later => later = .nothing) .nothing

theorem Keeps.finishes {flow : Flow Unit} (keeps : Keeps thread flow) :
    Finishes thread flow :=
  keeps .nothing

theorem Finishes.bind {first rest : Flow Unit} (start : Finishes thread first)
    (finish : Finishes thread rest) : Finishes thread (first >>= fun _ => rest) := by
  rw [Finishes, ensures_bind]
  refine start.mono counting_monotone ?_
  rintro _ later rfl
  exact finish

theorem settleBounced_finishes (id : String) : Finishes thread (settleBounced id) :=
  ⟨fun _ _ tried => (by cases tried), fun _ _ => View.drop_nothing⟩

theorem immediateForward_finishes :
    Ensures (counting thread) (immediateForward config record)
      (fun _ later => later = .nothing)
      (View.nothing.put record.id (.held 0 record.maxAttempts)) := by
  have delivered : Ensures (counting thread) (immediateForward config record)
      (fun _ later => later =
        (View.nothing.put record.id (.held 0 record.maxAttempts)).drop record.id)
      (View.nothing.put record.id (.held 0 record.maxAttempts)) :=
    immediateForward_counts View.put_same
  rw [View.drop_single] at delivered
  exact delivered

theorem handleOverlimit_finishes (record : EmailRecord) :
    Finishes thread (handleOverlimit config record) := by
  have exhausted : Ensures (counting thread) (exhaustEmail config record none)
      (fun _ later => later = View.nothing.drop record.id) .nothing :=
    exhaustEmail_drops fun _ _ tried => by cases tried
  rw [View.drop_nothing] at exhausted
  exact exhausted

theorem finalizeExpiredDelivered_finishes (record : EmailRecord) :
    Finishes thread (finalizeExpiredDelivered record) := by
  refine ⟨fun _ _ tried => (by cases tried), ?_⟩
  rintro (error | row)
  · exact View.drop_nothing
  · exact fun _ => View.drop_nothing

theorem forEach_finishes {body : EmailRecord → Flow Unit}
    (finishes : ∀ record, Finishes thread (body record)) (records : List EmailRecord) :
    Finishes thread (forEach records body) :=
  ensures_forEach counting_monotone (fun _ later => later = .nothing)
    (fun head _ ghost same => by
      subst same
      exact finishes head) rfl

theorem retries_finish {records : List EmailRecord}
    (retriable : Retriable records) :
    Ensures (counting thread) (forEach records (periodicInspection config))
      (fun _ later => later = .nothing) (.ofRows records) := by
  have round (head : EmailRecord) (tail : List EmailRecord) (view : View)
      (known : Retriable (head :: tail) ∧ view = .ofRows (head :: tail)) :
      Ensures (counting thread) (periodicInspection config head)
        (fun _ later => Retriable tail ∧ later = .ofRows tail) view := by
    rcases known with ⟨rows, same⟩
    subst same
    have parts := List.pairwise_cons.mp rows.distinct
    have first : View.ofRows (head :: tail) head.id =
        some (.held head.sendCount head.maxAttempts) := by
      rw [View.ofRows, List.find?_cons, beq_self_eq_true]
      rfl
    refine Ensures.mono counting_monotone (periodicInspection_counts first) ?_
    rintro _ later rfl
    exact ⟨⟨parts.2, fun row member => rows.left row
      (List.mem_cons_of_mem head member)⟩, View.drop_ofRows parts.1⟩
  have loop : Ensures (counting thread)
      (forEach records (periodicInspection config))
      (fun _ later => Retriable [] ∧ later = .ofRows []) (.ofRows records) :=
    ensures_forEach counting_monotone
      (fun rows later => Retriable rows ∧ later = .ofRows rows) round
      ⟨retriable, rfl⟩
  exact loop.mono counting_monotone fun _ _ done => done.2

theorem processBatch_finishes : Finishes .batch (processBatch config) := by
  have overlimit : Finishes .batch (forSelected (ask (.getOverlimit config.batchSize))
      (handleOverlimit config)) := by
    rintro (error | records)
    · rfl
    · exact forEach_finishes handleOverlimit_finishes records
  have retries : Finishes .batch (forSelected (ask (.getPendingRetry config.batchSize))
      (periodicInspection config)) :=
    ⟨rfl, rfl, fun _ => rfl, fun records retriable => retries_finish retriable⟩
  refine (keeps_of_asks sweepStuckReadying_asks).finishes.bind (overlimit.bind
    (retries.bind ((keeps_of_asks processExpiredAttachments_asks).finishes.bind ?_)))
  rintro time (error | records)
  · rfl
  · exact forEach_finishes finalizeExpiredDelivered_finishes records

end Flows

end AimailGateway.Scheduler
