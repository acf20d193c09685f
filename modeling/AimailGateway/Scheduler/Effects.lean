import AimailGateway.Scheduler.Requests

/-! # What a request does to the emails

One case for each way a request can end. Everything that is proved about the
scheduler's runs goes through these cases.
-/

namespace AimailGateway.Scheduler

open Library Storage

variable {env : Surroundings} {world : World}
  {change : EmailRecord → EmailRecord}

namespace Request

def update (time : Timestamp) : Request → Option (EmailRecord → EmailRecord)
  | .flipReadyingToReady id => some fun row =>
      if row.id == id && row.status == .readying then
        { row with status := .ready }
      else row
  | .readyRetry id sendCount nextRetryAt => some fun row =>
      if row.id == id then markReadyRetry sendCount nextRetryAt time row
      else row
  | .updateSendCount id sendCount => some fun row =>
      if row.id == id then { row with sendCount := sendCount } else row
  | .complete id => some fun row =>
      if row.id == id then markCompleted time row else row
  | .markDelivered id => some fun row =>
      if row.id == id then Storage.markDelivered time row else row
  | _ => none

/-- Whether a request writes to `emails`. -/
def writes : Request → Bool
  | .flipReadyingToReady _ | .readyRetry _ _ _ | .updateSendCount _ _
  | .complete _ | .markDelivered _ | .delete _ | .create _ => true
  | _ => false

end Request

/-- The ways a request can end: whether it is answered without an error, and
the database after it. -/
inductive Effect (env : Surroundings) (world : World) (question : Request) :
    Bool → Database → Prop where
  | read (ok : Bool) (reads : question.writes = false) :
      Effect env world question ok world.db
  | failed (writes : question.writes = true) (fails : question.Fails env world) :
      Effect env world question false world.db
  | updated (succeeds : ¬ question.Fails env world) (time : Timestamp)
      (change : EmailRecord → EmailRecord)
      (updates : question.update time = some change) (emails : Emails)
      (rows : emails.rows = world.db.emails.rows.map change) :
      Effect env world question true { world.db with emails }
  | deleted (succeeds : ¬ question.Fails env world) (id : String)
      (deletes : question = .delete id) :
      Effect env world question true
        { world.db with emails := world.db.emails.delete (·.id == id) }
  | created (mail : NewMail) (creates : question = .create mail)
      (createdAt : Timestamp) (emails : Emails)
      (inserted : world.db.emails.insert? (newEmail mail.id mail.systemId
        mail.direction mail.sender mail.recipients mail.subject mail.body
        mail.attachments mail.headers mail.maxAttempts createdAt) =
          some emails) :
      Effect env world question true { world.db with emails }
  | refused (mail : NewMail) (creates : question = .create mail) :
      Effect env world question false world.db

theorem Request.writes_of_update {question : Request} {time : Timestamp}
    (updates : (question.update time).isSome = true) :
    question.writes = true := by
  cases question <;> first | rfl | cases updates

namespace Effect

variable {question : Request} {ok : Bool} {db : Database}

theorem reads (effect : Effect env world question ok db)
    (reads : question.writes = false) : db = world.db := by
  cases effect with
  | read => rfl
  | failed writes => rfl
  | updated succeeds time change updates emails rows =>
      rw [Request.writes_of_update (Option.isSome_of_eq_some updates)] at reads
      cases reads
  | deleted succeeds id deletes =>
      subst deletes
      cases reads
  | created mail creates =>
      subst creates
      cases reads
  | refused mail creates => rfl

theorem updates (effect : Effect env world question ok db)
    (updates : (question.update 0).isSome = true) :
    (ok = false ∧ question.Fails env world ∧ db = world.db) ∨
      (ok = true ∧ ∃ time change emails, question.update time = some change ∧
        emails.rows = world.db.emails.rows.map change ∧
          db = { world.db with emails }) := by
  cases effect with
  | read ok reads =>
      rw [Request.writes_of_update updates] at reads
      cases reads
  | failed writes fails => exact .inl ⟨rfl, fails, rfl⟩
  | updated succeeds time change updates emails rows =>
      exact .inr ⟨rfl, time, change, emails, updates, rows, rfl⟩
  | deleted succeeds id deletes =>
      subst deletes
      cases updates
  | created mail creates =>
      subst creates
      cases updates
  | refused mail creates =>
      subst creates
      cases updates

theorem deletes {id : String} (effect : Effect env world (.delete id) ok db) :
    ∀ row ∈ db.emails, row ∈ world.db.emails := by
  intro row member
  cases effect with
  | read ok reads => cases reads
  | failed => exact member
  | updated succeeds time change updates => cases updates
  | deleted succeeds id => exact (Table.mem_delete.mp member).1
  | created mail creates => cases creates
  | refused mail creates => cases creates

theorem creates {mail : NewMail}
    (effect : Effect env world (.create mail) ok db) :
    db = world.db ∨ ∃ createdAt emails,
      world.db.emails.insert? (newEmail mail.id mail.systemId mail.direction
        mail.sender mail.recipients mail.subject mail.body mail.attachments
        mail.headers mail.maxAttempts createdAt) = some emails ∧
      db = { world.db with emails } := by
  cases effect with
  | read => exact .inl rfl
  | failed => exact .inl rfl
  | updated succeeds time change updates => cases updates
  | deleted succeeds id deletes => cases deletes
  | created inserted creates createdAt emails insertion =>
      cases creates
      exact .inr ⟨createdAt, emails, insertion, rfl⟩
  | refused => exact .inl rfl

end Effect

theorem update?_of_sameIds (emails : Emails) (selected : EmailRecord → Bool)
    (sameIds : ∀ row, (change row).id = row.id) :
    ∃ after, emails.update? selected change = some after ∧
      after.rows =
        emails.rows.map fun row => if selected row then change row else row := by
  have keeps : ∀ row, (if selected row then change row else row).id = row.id := by
    intro row
    split
    · exact sameIds row
    · rfl
  have updated : ∃ after, emails.update? selected change = some after := by
    apply Table.update?_isSome
    refine emails.distinct.imp ?_
    intro first second distinct
    rw [EmailRecord.conflict, keeps, keeps]
    exact distinct
  rcases updated with ⟨after, updated⟩
  exact ⟨after, updated, Table.ofRows?_eq_some updated⟩

theorem run_updateEmails (env : Surroundings) (world : World)
    (selected : EmailRecord → Bool)
    (sameIds : ∀ row, (change row).id = row.id) :
    (env.fault world.tick ≠ none ∧
      ∃ error, (updateEmails env selected change).run world =
        (.error error, world.later)) ∨
    (env.fault world.tick = none ∧ ∃ emails,
      (updateEmails env selected change).run world =
        (.ok (world.db.emails.rows.any selected),
          world.withDb { world.db with emails }) ∧
      emails.rows = world.db.emails.rows.map fun row =>
        if selected row then change row else row) := by
  rw [Action.run, updateEmails, call]
  cases fault : env.fault world.tick with
  | some fault => exact .inl ⟨Option.some_ne_none _, _, rfl⟩
  | none =>
      rcases update?_of_sameIds world.db.emails selected sameIds with ⟨emails, updated, rows⟩
      simp only [updated]
      exact .inr ⟨trivial, emails, rfl, rows⟩

theorem run_changeEmail (env : Surroundings) (world : World) (id : String)
    (sameIds : ∀ row, (change row).id = row.id) :
    (env.fault world.tick ≠ none ∧
      ∃ error, (changeEmail env id change).run world =
        (.error error, world.later)) ∨
    (env.fault world.tick = none ∧ ∃ answer emails,
      (changeEmail env id change).run world =
        (.ok answer, world.withDb { world.db with emails }) ∧
      emails.rows = world.db.emails.rows.map fun row =>
        if row.id == id then change row else row) := by
  rw [Action.run, changeEmail, call]
  cases fault : env.fault world.tick with
  | some fault => exact .inl ⟨Option.some_ne_none _, _, rfl⟩
  | none =>
      refine .inr ⟨rfl, ?_⟩
      cases search : world.db.emails.find? (·.id == id) with
      | none =>
          refine ⟨none, world.db.emails, rfl, ?_⟩
          have unselected := Table.find?_eq_none.mp search
          rw [List.map_congr_left ?_, List.map_id]
          intro row member
          rw [if_neg (by rw [unselected row member]; exact Bool.false_ne_true)]
          rfl
      | some row =>
          rcases update?_of_sameIds world.db.emails (·.id == id)
            sameIds with ⟨emails, updated, rows⟩
          exact ⟨some (change row), emails, by simp only [updated], rows⟩

theorem effect_of_updateEmails {question : Request}
    {selected : EmailRecord → Bool}
    (clock : question.readsClock = false) (writes : question.writes = true)
    (updates : question.update 0 = some fun row =>
      if selected row then change row else row)
    (sameIds : ∀ row, (change row).id = row.id) :
    Effect env world question
      ((updateEmails env selected change).run world).1.isOk
      ((updateEmails env selected change).run world).2.db := by
  rcases run_updateEmails env world selected sameIds with ⟨fault, error, ran⟩ | ⟨calm, emails, ran, rows⟩
  · rw [ran]
    exact .failed writes (by rwa [Request.Fails, clock])
  · rw [ran]
    exact .updated (by rw [Request.Fails, clock]; exact not_not_intro calm) 0 _
      updates emails rows

theorem effect_of_changeEmail {question : Request} {id : String}
    {change : Timestamp → EmailRecord → EmailRecord}
    (clock : question.readsClock = true) (writes : question.writes = true)
    (updates : ∀ time, question.update time = some fun row =>
      if row.id == id then change time row else row)
    (sameIds : ∀ time row, (change time row).id = row.id) :
    Effect env world question
      ((do let time ← now env; changeEmail env id (change time) :
        Storage (Option EmailRecord)).run world).1.isOk
      ((do let time ← now env; changeEmail env id (change time) :
        Storage (Option EmailRecord)).run world).2.db := by
  have ran : (do let time ← now env; changeEmail env id (change time) :
      Storage (Option EmailRecord)).run world =
        (changeEmail env id (change (env.clock world.tick))).run world.later :=
    rfl
  rw [ran]
  rcases run_changeEmail env world.later id (sameIds (env.clock world.tick)) with
    ⟨fault, error, ended⟩ | ⟨calm, answer, emails, ended, rows⟩
  · rw [ended]
    exact .failed writes (by rw [Request.Fails, clock]; exact fault)
  · rw [ended]
    exact .updated (by rw [Request.Fails, clock]; exact not_not_intro calm) _ _
      (updates _) emails rows

theorem query_db {read : Database → α} :
    ((query env read).run world).2.db = world.db := by
  rw [Action.run, query, call]
  cases env.fault world.tick with
  | some fault => rfl
  | none => rfl

theorem effect_of_query {question : Request} {read : Database → α}
    (reads : question.writes = false) (ok : Bool) :
    Effect env world question ok ((query env read).run world).2.db := by
  rw [query_db]
  exact .read ok reads

/-- Every request ends in one of the ways of `Effect`. -/
theorem perform_effect (env : Surroundings) (world : World)
    (outside : Outside) (question : Request) :
    Effect env world question
      (question.isOk (perform env outside question world).1)
      (perform env outside question world).2.db := by
  cases question with
  | flipReadyingToReady id =>
      exact effect_of_updateEmails rfl rfl rfl fun _ => rfl
  | updateSendCount id sendCount =>
      exact effect_of_updateEmails rfl rfl rfl fun _ => rfl
  | readyRetry id sendCount nextRetryAt =>
      exact effect_of_changeEmail rfl rfl (fun _ => rfl) fun _ _ => rfl
  | complete id =>
      exact effect_of_changeEmail rfl rfl (fun _ => rfl) fun _ _ => rfl
  | markDelivered id =>
      exact effect_of_changeEmail rfl rfl (fun _ => rfl) fun _ _ => rfl
  | delete id =>
      have ended : Effect env world (.delete id)
          ((deleteEmail env id).run world).1.isOk
          ((deleteEmail env id).run world).2.db := by
        rw [Action.run, deleteEmail, call]
        cases fault : env.fault world.tick with
        | some fault =>
            exact .failed rfl (by
              rw [Request.Fails]
              exact fun calm => Option.some_ne_none _ (fault.symm.trans calm))
        | none => exact .deleted (not_not_intro fault) id rfl
      exact ended
  | create mail =>
      have ends : (createEmail env mail).Ends
          (fun _ after => Effect env world (.create mail) true after.db)
          (fun _ after => Effect env world (.create mail) false after.db)
          world := by
        apply insertEmail_ends
        · intro error after same
          rw [same]
          exact .refused mail rfl
        · intro createdAt emails after inserted same
          rw [same]
          exact .created mail rfl createdAt emails inserted
      have ended : Effect env world (.create mail)
          ((createEmail env mail).run world).1.isOk
          ((createEmail env mail).run world).2.db := by
        unfold Action.Ends at ends
        unfold Action.run
        split at ends
        · next outcome => rwa [outcome]
        · next outcome => rwa [outcome]
      exact ended
  | getEmail id => exact effect_of_query (by rfl) _
  | getStuckReadying cutoff limit => exact effect_of_query (by rfl) _
  | getOverlimit limit => exact effect_of_query (by rfl) _
  | getPendingRetry limit =>
      have same : (perform env outside (.getPendingRetry limit) world).2.db =
          world.db := query_db
      rw [same]
      exact .read _ rfl
  | getExpiredDelivered cutoff limit => exact effect_of_query (by rfl) _
  | utcNow => exact .read _ rfl
  | newUuid => exact .read _ rfl
  | random => exact .read _ rfl
  | deliver record deliveryType => exact .read _ rfl
  | resolveWebhookUrl sender => exact .read _ rfl
  | attachmentDisplayList attachmentIds => exact .read _ rfl
  | listByMailId mailId => exact .read _ rfl
  | listExpiredBefore cutoff limit => exact .read _ rfl
  | wake emailId => exact .read _ rfl

/-- How a claim ends: it fails, the email was consumed before, or it is now
`sending`. -/
theorem claimReady_ends {id : String}
    {ok : Option EmailRecord → World → Prop} {failed : AppError → World → Prop}
    (fault : ∀ error after, after.db = world.db → failed error after)
    (consumed : ∀ after, after.db = world.db → ok none after)
    (claimed : ∀ row ∈ world.db.emails, row.id = id → isClaimable row = true →
      ∀ time emails after,
        emails.rows = world.db.emails.rows.map (fun row =>
          if row.id == id && isClaimable row then markSending time row
          else row) →
        after.db = { world.db with emails } →
        ok (some (markSending time row)) after) :
    (claimReady env id).Ends ok failed world := by
  rw [claimReady, Action.ends_bind, ends_now]
  apply call_ends
  · exact fun error => fault error _ rfl
  · intro answer db outcome
    cases search : world.db.emails.find? fun row =>
        row.id == id && isClaimable row with
    | none =>
        simp only [World.later_db, search] at outcome
        cases outcome
        exact consumed _ rfl
    | some row =>
        rcases Table.mem_of_find? search with ⟨member, selected⟩
        have marked : ∀ row : EmailRecord,
            (markSending (env.clock world.tick) row).id = row.id :=
          fun _ => rfl
        rcases update?_of_sameIds world.db.emails
          (fun row => row.id == id && isClaimable row) marked with
          ⟨emails, updated, rows⟩
        simp only [World.later_db, search, updated] at outcome
        cases outcome
        rw [Bool.and_eq_true, beq_iff_eq] at selected
        exact claimed row member selected.1 selected.2 _ emails _ rows rfl

end AimailGateway.Scheduler
