import AimailGateway.Scheduler.Effects
import AimailGateway.Scheduler.Server

/-! # Every email is recovered

An email that is not yet completed is selected by one of the queries of a
tick, or a live thread has it in hand. The exception is `sending`: no query
selects it, so an email stays in it when its thread ends without writing
another status.
-/

namespace AimailGateway.Scheduler

open Library Program Storage

variable {env : Surroundings} {config : Config}
  {id : String} {question : Request} {row : EmailRecord}
  {time : Timestamp}
  {server : Server} {world : World} {db : Database}
  {change : EmailRecord → EmailRecord}

def SelectedAt (config : Config) (db : Database) (row : EmailRecord)
    (time : Timestamp) (limit : Nat) : Prop :=
  row ∈ stuckReadyingEmails (time - 1000 * config.readyingStuckSecs) limit db ∨
    row ∈ overlimitEmails limit db ∨
    row ∈ pendingRetryEmails time limit db ∨
    row ∈ deliveredExpiredBefore (time - 1000 * config.deliveryWindowSecs)
      limit db

/-- From some time on the email is selected, by a batch that is large
enough. -/
def Selected (config : Config) (db : Database) (row : EmailRecord) : Prop :=
  ∃ since, ∀ time, since ≤ time → ∀ limit, db.emails.rows.length ≤ limit →
    SelectedAt config db row time limit

/-- Whether a request ends the delivery of an email: it writes another status
or deletes the row. -/
def settles (id : String) : Request → Bool
  | .readyRetry target _ _ => target == id
  | .complete target => target == id
  | .markDelivered target => target == id
  | .delete target => target == id
  | _ => false

/-- The ghost state is whether the email has been settled. -/
def settling (id : String) : Rule Request Request.Answer Bool :=
  fun question settled aim =>
    ∀ answer, aim answer (settled || settles id question)

/-- Whatever is answered, the program still settles the email. -/
def HasInHand (program : Flow Unit) (id : String) : Prop :=
  Ensures (settling id) program (fun _ settled => settled = true) false

/-- An email that is not completed is selected by a tick, or a live thread has
it in hand. -/
def Recoverable (config : Config) (server : Server) (row : EmailRecord) :
    Prop :=
  Selected config server.world.db row ∨
    ∃ thread, HasInHand (server.threads thread) row.id

/-! ## Which emails the queries select -/

theorem mem_page {rows : List EmailRecord}
    {before : EmailRecord → EmailRecord → Bool} {selected : EmailRecord → Bool}
    {limit : Nat} (enough : rows.length ≤ limit) :
    row ∈ ((rows.filter selected).mergeSort before).take limit ↔
      row ∈ rows ∧ selected row = true := by
  have whole : ((rows.filter selected).mergeSort before).length ≤ limit := by
    rw [List.length_mergeSort]
    exact (List.length_filter_le selected rows).trans enough
  rw [List.take_of_length_le whole, List.mem_mergeSort, List.mem_filter]

theorem selectedAt_iff {limit : Nat} (enough : db.emails.rows.length ≤ limit)
    (member : row ∈ db.emails) :
    SelectedAt config db row time limit ↔
      (row.status = .readying ∧
        row.createdAt < time - 1000 * config.readyingStuckSecs) ∨
      (row.status = .ready ∧ row.maxAttempts ≤ row.sendCount) ∨
      (row.status = .ready ∧ row.sendCount < row.maxAttempts ∧
        isRetryDue time row = true) ∨
      (row.status = .delivered ∧
        row.lastSentAt < time - 1000 * config.deliveryWindowSecs) := by
  simp only [SelectedAt, stuckReadyingEmails, overlimitEmails,
    pendingRetryEmails, deliveredExpiredBefore, Table.select,
    mem_page enough, Table.mem_rows, member, Bool.and_eq_true, beq_iff_eq,
    decide_eq_true_eq, true_and, and_assoc]

/-- Exactly the emails in `sending` or `completed` are never selected. -/
theorem selected_iff (member : row ∈ db.emails) :
    Selected config db row ↔
      row.status ≠ .sending ∧ row.status ≠ .completed := by
  constructor
  · rintro ⟨since, selected⟩
    have now := (selectedAt_iff (Nat.le_refl _) member).mp
      (selected since (Nat.le_refl _) _ (Nat.le_refl _))
    constructor
    · intro status
      simp [status] at now
    · intro status
      simp [status] at now
  · rintro ⟨notSending, notCompleted⟩
    cases status : row.status with
    | readying =>
        refine ⟨row.createdAt + 1000 * config.readyingStuckSecs + 1,
          fun time late limit enough => (selectedAt_iff enough member).mpr ?_⟩
        exact .inl ⟨status, Nat.lt_sub_of_add_lt late⟩
    | ready =>
        by_cases spent : row.maxAttempts ≤ row.sendCount
        · exact ⟨0, fun time _ limit enough =>
            (selectedAt_iff enough member).mpr (.inr (.inl ⟨status, spent⟩))⟩
        · refine ⟨row.nextRetryAt.getD 0, fun time late limit enough =>
            (selectedAt_iff enough member).mpr
              (.inr (.inr (.inl ⟨status, by omega, ?_⟩)))⟩
          rw [isRetryDue]
          cases due : row.nextRetryAt with
          | none => rfl
          | some retry =>
              rw [due, Option.getD_some] at late
              exact decide_eq_true (late.trans (le_endOfSecond time))
    | sending => exact absurd status notSending
    | delivered =>
        refine ⟨row.lastSentAt + 1000 * config.deliveryWindowSecs + 1,
          fun time late limit enough => (selectedAt_iff enough member).mpr ?_⟩
        exact .inr (.inr (.inr ⟨status, Nat.lt_sub_of_add_lt late⟩))
    | completed => exact absurd status notCompleted

/-! ## What the flows settle -/

theorem not_hasInHand_done :
    ¬ HasInHand (pure ()) id :=
  Bool.false_ne_true

theorem ensures_settled (program : Program Request Request.Answer α) :
    Ensures (settling id) program (fun _ settled => settled = true) true := by
  induction program with
  | done value => rfl
  | request question next induction => exact fun answer => induction answer

theorem hasInHand_bind {rest : α → Flow Unit}
    {program : Flow α} (inHand : ∀ value, HasInHand (rest value) id) :
    HasInHand (program >>= rest) id := by
  rw [HasInHand, ensures_bind]
  suffices settled : ∀ ghost, Ensures (settling id) program
      (fun value later => Ensures (settling id) (rest value)
        (fun _ settled => settled = true) later) ghost from settled false
  induction program with
  | done value =>
      intro ghost
      cases ghost with
      | false => exact inHand value
      | true => exact ensures_settled (rest value)
  | request question next induction =>
      exact fun ghost answer => induction answer _

theorem hasInHand_settles
    {rest : question.Answer → Flow Unit} (settled : settles id question = true) :
    HasInHand (ask question >>= rest) id := by
  rw [HasInHand, ensures_bind, ask, ensures_ask]
  intro answer
  rw [settled, Bool.or_true]
  exact ensures_settled (rest answer)

theorem finalizeAfterDelivery_inHand (record : EmailRecord)
    (deliveryType : DeliveryType) :
    HasInHand (finalizeAfterDelivery config record deliveryType) record.id := by
  unfold finalizeAfterDelivery
  split
  · exact hasInHand_settles (beq_self_eq_true record.id)
  · exact hasInHand_settles (beq_self_eq_true record.id)

theorem exhaustEmail_inHand (record : EmailRecord) (count : Option Int) :
    HasInHand (exhaustEmail config record count) record.id := by
  have completes : ∀ {α : Type} (first : Flow α) rest,
      HasInHand (first >>= fun _ => ask (.complete record.id) >>= rest) record.id :=
    fun _ _ => hasInHand_bind fun _ =>
      hasInHand_settles (beq_self_eq_true record.id)
  have mailed : HasInHand (exhaustEmail config record none) record.id := by
    unfold exhaustEmail
    cases record.direction with
    | inbound => exact completes _ _
    | outbound => exact completes _ _
  cases count with
  | none => exact mailed
  | some count =>
      have counted : exhaustEmail config record (some count) =
          (ask (.updateSendCount record.id count) >>= fun _ =>
            exhaustEmail config record none) := rfl
      rw [counted]
      exact hasInHand_bind fun _ => mailed

theorem immediateForward_inHand (record : EmailRecord) :
    HasInHand (immediateForward config record) record.id := by
  unfold immediateForward
  apply hasInHand_bind
  intro error
  cases error with
  | none => exact finalizeAfterDelivery_inHand record _
  | some error =>
      simp only
      split
      · exact exhaustEmail_inHand record _
      · exact hasInHand_bind fun _ =>
          hasInHand_settles (beq_self_eq_true record.id)

/-! ## The invariant -/

/-- An email in `sending` before a request was in `sending` before it. -/
def NoneStarted (before after : Database) : Prop :=
  ∀ row ∈ after.emails, row.status = .sending →
    ∃ old ∈ before.emails, old.id = row.id ∧ old.status = .sending

theorem NoneStarted.of_eq {before after : Database}
    (same : after.emails = before.emails) : NoneStarted before after := by
  intro row member sending
  rw [same] at member
  exact ⟨row, member, rfl, sending⟩

/-- A row that is still `sending` after a change of one row to another status
is not that row. -/
theorem still_sending (status : (change row).status ≠ .sending)
    (sending : (if row.id == id then change row else row).status = .sending) :
    row.status = .sending ∧ (id == row.id) = false := by
  split at sending
  · exact absurd sending status
  · next other =>
      refine ⟨sending, ?_⟩
      rw [Bool.beq_comm]
      exact Bool.eq_false_iff.mpr other

theorem update_status
    (updates : question.update time = some change) (row : EmailRecord) :
    (change row).id = row.id ∧
      ((change row).status = .sending →
        row.status = .sending ∧ settles row.id question = false) := by
  have targeted {id : String} {mark : EmailRecord → EmailRecord}
      (sameId : (mark row).id = row.id) :
      (if row.id == id then mark row else row).id = row.id := by
    split
    · exact sameId
    · rfl
  cases question with
  | flipReadyingToReady id =>
      cases updates
      beta_reduce
      split
      · exact ⟨rfl, fun sending => by cases sending⟩
      · exact ⟨rfl, fun sending => ⟨sending, by rfl⟩⟩
  | updateSendCount id sendCount =>
      cases updates
      beta_reduce
      split
      · exact ⟨rfl, fun sending => ⟨sending, by rfl⟩⟩
      · exact ⟨rfl, fun sending => ⟨sending, by rfl⟩⟩
  | readyRetry id sendCount nextRetryAt =>
      cases updates
      exact ⟨targeted rfl, still_sending fun status => by cases status⟩
  | complete id =>
      cases updates
      exact ⟨targeted rfl, still_sending fun status => by cases status⟩
  | markDelivered id =>
      cases updates
      exact ⟨targeted rfl, still_sending fun status => by cases status⟩
  | _ => cases updates

theorem writes_of_settles
    (settled : settles id question = true) : question.writes = true := by
  cases question <;> first | rfl | exact absurd settled Bool.false_ne_true

/-- No request starts a delivery, and after one that settles an email without
failing the email is not `sending`. -/
theorem effect_sending {ok : Bool} (effect : Effect env world question ok db) :
    NoneStarted world.db db ∧
      (∀ row ∈ db.emails, row.status = .sending →
        settles row.id question = true → question.Fails env world) := by
  cases effect with
  | read ok reads =>
      refine ⟨.of_eq rfl, fun row _ _ settled => ?_⟩
      rw [writes_of_settles settled] at reads
      cases reads
  | failed writes fails => exact ⟨.of_eq rfl, fun _ _ _ _ => fails⟩
  | updated succeeds time change updates emails rows =>
      have origin : ∀ row ∈ emails, row.status = .sending →
          ∃ old ∈ world.db.emails, old.id = row.id ∧ old.status = .sending ∧
            settles row.id question = false := by
        intro row member sending
        rw [← Table.mem_rows, rows, List.mem_map] at member
        rcases member with ⟨old, stored, rfl⟩
        rcases update_status updates old with ⟨sameId, status⟩
        rw [sameId]
        exact ⟨old, stored, rfl, status sending⟩
      constructor
      · intro row member sending
        rcases origin row member sending with ⟨old, stored, same, status, _⟩
        exact ⟨old, stored, same, status⟩
      · intro row member sending settled
        rcases origin row member sending with ⟨_, _, _, _, unsettled⟩
        rw [settled] at unsettled
        cases unsettled
  | deleted succeeds id deletes =>
      subst deletes
      constructor
      · intro row member sending
        exact ⟨row, (Table.mem_delete.mp member).1, rfl, sending⟩
      · intro row member _ settled
        have other := (Table.mem_delete.mp member).2
        rw [settles, Bool.beq_comm, other] at settled
        cases settled
  | created mail creates createdAt emails inserted =>
      subst creates
      constructor
      · intro row member sending
        rcases (Table.mem_of_insert? inserted).mp member with old | new
        · exact ⟨row, old, rfl, sending⟩
        · rw [new] at sending
          cases sending
      · exact fun _ _ _ settled => absurd settled Bool.false_ne_true
  | refused mail creates =>
      subst creates
      exact ⟨.of_eq rfl, fun _ _ _ settled => absurd settled Bool.false_ne_true⟩

/-- Every email in `sending` is in the hands of a thread. -/
def Accounted (server : Server) : Prop :=
  ∀ row ∈ server.world.db.emails, row.status = .sending →
    ∃ thread, HasInHand (server.threads thread) row.id

def InOtherHands (server : Server) (thread : Thread) (id : String) : Prop :=
  ∃ other, other ≠ thread ∧ HasInHand (server.threads other) id

/-- A crash finds no email in `sending`, a panic none that only the panicking
delivery has in hand, and no statement fails that was the last to settle one. -/
def Spares (env : Surroundings) (server : Server) : Event → Prop
  | .advance thread _ =>
      ∀ question next, server.threads thread = .request question next →
        ∀ row ∈ server.world.db.emails, row.status = .sending →
          settles row.id question = true → question.Fails env server.world →
            InOtherHands server thread row.id ∨
              ∀ answer, HasInHand (next answer) row.id
  | .panic permit =>
      ∀ row ∈ server.world.db.emails, row.status = .sending →
        HasInHand (server.threads (.delivery permit)) row.id →
          InOtherHands server (.delivery permit) row.id
  | .crash => ∀ row ∈ server.world.db.emails, row.status ≠ .sending
  | _ => True

theorem hasInHand_setThread {thread : Thread}
    {program : Flow Unit} (idle : server.isIdle thread = true)
    (inHand : ∃ other, HasInHand (server.threads other) id) :
    ∃ other, HasInHand ((server.setThread thread program).threads other) id := by
  rcases inHand with ⟨other, inHand⟩
  refine ⟨other, ?_⟩
  have different : other ≠ thread := by
    intro equal
    rw [equal, Server.isIdle_iff.mp idle] at inHand
    exact not_hasInHand_done inHand
  rw [Server.setThread_other different]
  exact inHand

theorem accounted_of_noneStarted {server next : Server}
    (accounted : Accounted server)
    (started : NoneStarted server.world.db next.world.db)
    (kept : ∀ row ∈ next.world.db.emails, row.status = .sending →
      (∃ thread, HasInHand (server.threads thread) row.id) →
        ∃ thread, HasInHand (next.threads thread) row.id) :
    Accounted next := by
  intro row member sending
  rcases started row member sending with ⟨old, stored, same, status⟩
  apply kept row member sending
  rw [← same]
  exact accounted old stored status

/-- After a claim the email that is now `sending` is in the hands of its
delivery. -/
theorem accounted_claim {permit : Nat} {emailId : String}
    {channel : List String} {claimed : EmailRecord}
    {emails : Emails} (accounted : Accounted server)
    (idle : server.isIdle (.delivery permit) = true)
    (sameId : claimed.id = emailId)
    (rows : emails.rows = server.world.db.emails.rows.map fun row =>
      if row.id == emailId && isClaimable row then markSending time row else row)
    (after : world.db = { server.world.db with emails }) :
    Accounted ({ server with channel, world }.setThread (.delivery permit)
      (immediateForward config (markSending time claimed))) := by
  intro row member sending
  rw [Server.setThread_world] at member
  change row ∈ world.db.emails at member
  rw [after, ← Table.mem_rows, rows, List.mem_map] at member
  rcases member with ⟨old, stored, changed⟩
  split at changed
  · next selected =>
      refine ⟨.delivery permit, ?_⟩
      have target : (markSending time claimed).id = row.id := by
        rw [← changed]
        exact sameId.trans (beq_iff_eq.mp (Bool.and_eq_true_iff.mp selected).1).symm
      rw [Server.setThread_self, ← target]
      exact immediateForward_inHand _
  · rw [← changed] at sending ⊢
    have claimable : ({ server with channel, world } : Server).isIdle
        (.delivery permit) = true := idle
    exact hasInHand_setThread claimable (accounted old stored sending)

/-- One event keeps every email in `sending` in the hands of a thread. -/
theorem accounted_step {server next : Server} {event : Event}
    (accounted : Accounted server)
    (moved : Guarded (Spares env) (Server.Steps env config) server event next) :
    Accounted next := by
  rcases moved with ⟨spares, moved⟩
  rw [Server.Steps] at moved
  cases event with
  | insert mail =>
      rw [Server.step] at moved
      split at moved
      · cases moved
      · cases moved
        apply accounted_of_noneStarted accounted
        · exact (effect_sending
            (perform_effect env server.world .quiet (.create mail))).1
        · exact fun _ _ _ inHand => inHand
  | saveAttachments emailId attachmentIds =>
      cases moved
      refine accounted_of_noneStarted accounted ?_ fun _ _ _ inHand => inHand
      have sameIds : ∀ row : EmailRecord,
          ({ row with attachments := some attachmentIds } : EmailRecord).id =
            row.id := fun _ => rfl
      rcases run_updateEmails env server.world (·.id == emailId) sameIds with
        ⟨_, error, ran⟩ | ⟨_, emails, ran, rows⟩
      · rw [Storage.updateEmailAttachments, ran]
        exact .of_eq rfl
      · rw [Storage.updateEmailAttachments, ran]
        intro row member sending
        rw [← Table.mem_rows, World.withDb_db, rows, List.mem_map] at member
        rcases member with ⟨old, stored, rfl⟩
        refine ⟨old, stored, ?_, ?_⟩
        · split <;> rfl
        · split at sending <;> exact sending
  | wake emailId =>
      rw [Server.step] at moved
      split at moved
      · cases moved
        apply accounted_of_noneStarted accounted
        · rw [Server.wake_world]
          exact .of_eq rfl
        · intro row _ _ inHand
          rw [Server.wake_threads]
          exact inHand
      · cases moved
  | tick =>
      rw [Server.step] at moved
      split at moved
      · next idle =>
          cases moved
          exact accounted_of_noneStarted accounted (.of_eq rfl)
            fun _ _ _ inHand => hasInHand_setThread idle inHand
      · cases moved
  | claim permit =>
      rw [Server.step] at moved
      split at moved
      · cases moved
      · next emailId channel held =>
          split at moved
          · next ready =>
              cases moved
              simp only [Bool.and_eq_true] at ready
              rcases Server.claim_cases { server with channel } env config
                permit emailId with
                ⟨world, same, claimed⟩ |
                ⟨row, stored, sameId, _, time, emails, world, rows, after,
                  claimed⟩
              · rw [claimed]
                exact accounted_of_noneStarted accounted (.of_eq (by rw [same]))
                  fun _ _ _ inHand => inHand
              · rw [claimed]
                exact accounted_claim accounted ready.1.2 sameId rows after
          · cases moved
  | bounce session originalId =>
      rw [Server.step] at moved
      split at moved
      · next idle =>
          cases moved
          exact accounted_of_noneStarted accounted (.of_eq rfl)
            fun _ _ _ inHand => hasInHand_setThread idle inHand
      · cases moved
  | advance thread outside =>
      rw [Server.step] at moved
      split at moved
      · cases moved
      · next question rest held =>
          split at moved
          · cases moved
          · cases moved
            have effect := effect_sending
              (perform_effect env server.world outside question)
            apply accounted_of_noneStarted accounted effect.1
            have elsewhere : ∀ id, InOtherHands server thread id →
                ∃ other, HasInHand ((server.execute env config thread outside
                  question rest).threads other) id := by
              rintro id ⟨other, different, inHand⟩
              refine ⟨other, ?_⟩
              rw [Server.execute_other different]
              exact inHand
            rintro row member sending ⟨other, inHand⟩
            by_cases same : other = thread
            · subst same
              rw [held] at inHand
              cases settled : settles row.id question with
              | false =>
                  have later := inHand
                    (perform env outside question server.world).1
                  rw [settled] at later
                  refine ⟨other, ?_⟩
                  rw [Server.execute_self]
                  exact later
              | true =>
                  rcases effect.1 row member sending with
                    ⟨old, stored, sameId, status⟩
                  rw [← sameId] at settled ⊢
                  rcases spares question rest held old stored status settled
                    (effect.2 row member sending (by rwa [← sameId])) with
                    others | remains
                  · exact elsewhere old.id others
                  · refine ⟨other, ?_⟩
                    rw [Server.execute_self]
                    exact remains _
            · exact elsewhere row.id ⟨other, same, inHand⟩
  | panic permit =>
      cases moved
      refine accounted_of_noneStarted accounted (.of_eq rfl) ?_
      rintro row member sending ⟨thread, inHand⟩
      have others : InOtherHands server (.delivery permit) row.id := by
        by_cases same : thread = .delivery permit
        · rw [same] at inHand
          exact spares row member sending inHand
        · exact ⟨thread, same, inHand⟩
      rcases others with ⟨other, different, held⟩
      refine ⟨other, ?_⟩
      rw [Server.setThread_other different]
      exact held
  | crash =>
      cases moved
      exact fun row member sending => absurd sending (spares row member)

theorem accounted_boot {issued : List String}
    (rested : ∀ row ∈ world.db.emails, row.status ≠ .sending) :
    Accounted (Server.boot world issued) :=
  fun row member sending => absurd sending (rested row member)

theorem spares_of_calm (calm : env.Calm) {thread : Thread}
    {outside : Outside} : Spares env server (.advance thread outside) :=
  fun _ _ _ _ _ _ _ fails => absurd (calm _) fails

def calmWorld : Surroundings := .steady 1000 "u1"

theorem calmWorld_calm : calmWorld.Calm := Surroundings.steady_calm 1000 "u1"

def emptyServer : Server := .boot (.start .empty) []

/-- The report is stored, claimed and tried once, and the attempt fails. -/
def firstAttempt : List Event :=
  [.insert report, .wake "out-1", .claim 0,
    .advance (.delivery 0) unreachable, .advance (.delivery 0) unreachable,
    .advance (.delivery 0) unreachable, .advance (.delivery 0) unreachable]

end AimailGateway.Scheduler
