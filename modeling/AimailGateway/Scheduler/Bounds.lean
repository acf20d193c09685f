import AimailGateway.Scheduler.Tally

/-! # The bound on attempts

Every step of the server keeps the tally, and over a run the counts grow with
the failed attempts and stay within the limit.
-/

namespace AimailGateway.Scheduler

open Library Program Storage

/-! ## A request of a thread -/

theorem page_distinct {emails : Emails} {limit : Nat}
    {before : EmailRecord → EmailRecord → Bool}
    {selected : EmailRecord → Bool} :
    (((emails.select selected).mergeSort before).take limit).Pairwise
      fun first second => first.id ≠ second.id := by
  have rows : (emails.select selected).Pairwise
      fun first second => first.id ≠ second.id := by
    refine (emails.distinct.filter selected).imp ?_
    intro first second free
    exact beq_eq_false_iff_ne.mp free
  have sorted := ((List.mergeSort_perm _ before).pairwise_iff
    (fun different => Ne.symm different)).mpr rows
  exact sorted.sublist (List.take_sublist limit _)

theorem getPendingRetry_answer {env : Surroundings} {outside : Outside}
    {world : World} {limit : Nat} {rows : List EmailRecord}
    (answered : (perform env outside (.getPendingRetry limit) world).1 =
      .ok rows) :
    Retriable rows ∧
      ∀ row ∈ rows, row ∈ world.db.emails ∧ row.status = .ready := by
  have ends : (getPendingRetryEmails env limit).Ends
      (fun rows _ => ∃ time, rows = pendingRetryEmails time limit world.db)
      (fun _ _ => True) world := by
    rw [getPendingRetryEmails, Action.ends_bind, ends_now]
    exact query_ends (fun _ => trivial) ⟨_, rfl⟩
  have page : ∃ time, rows = pendingRetryEmails time limit world.db := by
    rw [Action.ends_iff_run] at ends
    exact ends.1 rows ((getPendingRetryEmails env limit).run world).2
      (Prod.ext answered rfl)
  rcases page with ⟨time, rfl⟩
  have chosen : ∀ row ∈ pendingRetryEmails time limit world.db,
      row ∈ world.db.emails ∧ row.status = .ready ∧
        row.sendCount < row.maxAttempts := by
    intro row member
    have sorted := List.mem_of_mem_take member
    rw [List.mem_mergeSort, Table.mem_select, Bool.and_eq_true,
      Bool.and_eq_true, beq_iff_eq, decide_eq_true_eq] at sorted
    exact ⟨sorted.1, sorted.2.1.1, sorted.2.1.2⟩
  exact ⟨⟨page_distinct, fun row member => (chosen row member).2.2⟩,
    fun row member => ⟨(chosen row member).1, (chosen row member).2.1⟩⟩

section Execute

variable {env : Surroundings} {world : World} {issued : List String}
  {notes : List Note} {views : Thread → View} {thread : Thread}
  {question : Request}

theorem Touches.of_update {time : Timestamp}
    {change : EmailRecord → EmailRecord} {id : String}
    (updates : question.update time = some change)
    (records : question.records = some id) : Touches id change := by
  cases question with
  | readyRetry target sendCount nextRetryAt =>
      cases updates
      cases records
      exact .of_targeted (fun _ => rfl) fun _ => rfl
  | updateSendCount target sendCount =>
      cases updates
      cases records
      exact .of_targeted (fun _ => rfl) fun _ => rfl
  | complete target =>
      cases updates
      cases records
      exact .of_targeted (fun _ => rfl) fun _ => rfl
  | markDelivered target =>
      cases updates
      cases records
      exact .of_targeted (fun _ => rfl) fun _ => rfl
  | _ => cases records

theorem Touches.refl {id : String} : Touches id fun row => row :=
  ⟨fun _ _ => rfl, fun _ => rfl, fun _ => rfl⟩

variable {emails : Emails} {id : String}

theorem Tally.missing_of_gone (tally : Tally emails issued notes views)
    (knows : views thread id = some .gone) : ∀ row ∈ emails, row.id ≠ id := by
  rintro row member rfl
  exact tally.held row member thread .gone knows

theorem Tally.missing_of_failed {count limit : Int}
    (tally : Tally world.db.emails issued notes views)
    (knows : views thread id = some (.tried count limit false))
    (records : question.records = some id)
    (written : ∀ row ∈ world.db.emails, question.records = some row.id →
      Unwritten notes row → ¬ question.Fails env world)
    (fails : question.Fails env world) :
    ∀ row ∈ world.db.emails, row.id ≠ id := by
  rintro row member rfl
  have fits := tally.held row member thread _ knows
  exact written row member records
    ⟨thread, false, fits.2.2.2.2.2.1, .inl rfl⟩ fails

theorem Tally.absent_same {view : View} {later : List Note}
    (tally : Tally emails issued notes views)
    (missing : ∀ row ∈ emails, row.id ≠ id) (knows : views thread id ≠ none)
    (rest : ∀ other, other ≠ id → view other = views thread other)
    (sameNotes : SameNotes id notes later) :
    Tally emails issued later (Function.update views thread view) ∧
      Raised issued emails emails :=
  tally.absent missing .refl (List.map_id' _).symm knows rest sameNotes

theorem Tally.execute_readyRetry {sendCount : Int} {nextRetryAt : Timestamp}
    {aim : Except AppError (Option EmailRecord) → View → Prop}
    {answer : Except AppError (Option EmailRecord)} {db : Database}
    (tally : Tally world.db.emails issued notes views)
    (rule : counting thread (.readyRetry id sendCount nextRetryAt)
      (views thread) aim)
    (written : ∀ row ∈ world.db.emails,
      (Request.readyRetry id sendCount nextRetryAt).records = some row.id →
        Unwritten notes row →
          ¬ (Request.readyRetry id sendCount nextRetryAt).Fails env world)
    (effect : Effect env world (.readyRetry id sendCount nextRetryAt)
      answer.isOk db) :
    ∃ view, aim answer view ∧
      Tally db.emails issued
        (Server.noted thread (.readyRetry id sendCount nextRetryAt) answer ++
          notes) (Function.update views thread view) ∧
      Raised issued world.db.emails db.emails := by
  rcases rule with
    ⟨count, limit, knows, next, wrote, lost⟩ | ⟨knows, aims⟩
  · have known : views thread id ≠ none := by
      rw [knows]
      exact Option.some_ne_none _
    rcases effect.updates rfl with
      ⟨failed, fails, rfl⟩ | ⟨ok, time, change, after, updates, rows, rfl⟩
    · cases answer with
      | ok answer => cases failed
      | error error =>
          rw [Server.noted_failed rfl rfl]
          have missing := tally.missing_of_failed knows rfl written fails
          rcases lost error with put | dropped
          · exact ⟨_, put, tally.absent_same missing known
              (fun _ different => View.put_other different) .refl⟩
          · exact ⟨_, dropped, tally.absent_same missing known
              (fun _ different => View.drop_other different) .refl⟩
    · cases answer with
      | error error => cases ok
      | ok answer =>
          rw [Server.noted_recorded rfl rfl rfl]
          refine ⟨_, wrote answer,
            tally.write knows (.of_update updates rfl) rows fun row same => ?_⟩
          cases updates
          beta_reduce
          rw [if_pos (beq_iff_eq.mpr same), ← next]
          rfl
  · have known : views thread id ≠ none := by
      rw [knows]
      exact Option.some_ne_none _
    have missing := tally.missing_of_gone knows
    have rest : ∀ other, other ≠ id →
        (views thread).drop id other = views thread other :=
      fun _ different => View.drop_other different
    refine ⟨_, aims answer, ?_⟩
    rcases effect.updates rfl with
      ⟨failed, fails, rfl⟩ | ⟨ok, time, change, after, updates, rows, rfl⟩
    · have noted : Server.noted thread
          (.readyRetry id sendCount nextRetryAt) answer = [] :=
        Server.noted_failed rfl failed
      rw [noted]
      exact tally.absent_same missing known rest .refl
    · have noted : Server.noted thread
          (.readyRetry id sendCount nextRetryAt) answer =
            [.recorded thread id] :=
        Server.noted_recorded rfl rfl ok
      rw [noted]
      exact tally.absent missing (.of_update updates rfl) rows known rest
        .recorded

theorem Tally.execute_updateSendCount {sendCount : Int}
    {aim : Except AppError Bool → View → Prop}
    {answer : Except AppError Bool} {db : Database}
    (tally : Tally world.db.emails issued notes views)
    (rule : counting thread (.updateSendCount id sendCount) (views thread) aim)
    (written : ∀ row ∈ world.db.emails,
      (Request.updateSendCount id sendCount).records = some row.id →
        Unwritten notes row →
          ¬ (Request.updateSendCount id sendCount).Fails env world)
    (effect : Effect env world (.updateSendCount id sendCount) answer.isOk db) :
    ∃ view, aim answer view ∧
      Tally db.emails issued
        (Server.noted thread (.updateSendCount id sendCount) answer ++ notes)
        (Function.update views thread view) ∧
      Raised issued world.db.emails db.emails := by
  rcases rule with ⟨count, limit, knows, next, aims⟩
  have known : views thread id ≠ none := by
    rw [knows]
    exact Option.some_ne_none _
  refine ⟨_, aims answer, ?_⟩
  rcases effect.updates rfl with
    ⟨failed, fails, rfl⟩ | ⟨ok, time, change, after, updates, rows, rfl⟩
  · have noted : Server.noted thread (.updateSendCount id sendCount) answer =
        [] := Server.noted_failed rfl failed
    rw [noted]
    exact tally.absent_same (tally.missing_of_failed knows rfl written fails)
      known (fun _ different => View.drop_other different) .refl
  · have noted : Server.noted thread (.updateSendCount id sendCount) answer =
        [.recorded thread id] := Server.noted_recorded rfl rfl ok
    rw [noted]
    refine tally.write knows (.of_update updates rfl) rows fun row same => ?_
    cases updates
    beta_reduce
    rw [if_pos (beq_iff_eq.mpr same), ← next]

theorem Tally.execute_leave {answer : question.Answer}
    {db : Database} (tally : Tally world.db.emails issued notes views)
    (untried : ∀ count limit,
      views thread id ≠ some (.tried count limit false))
    (leaves : question = .complete id ∨ question = .markDelivered id)
    (written : ∀ row ∈ world.db.emails, question.records = some row.id →
      Unwritten notes row → ¬ question.Fails env world)
    (effect : Effect env world question (question.isOk answer) db) :
    Tally db.emails issued (Server.noted thread question answer ++ notes)
        (Function.update views thread ((views thread).drop id)) ∧
      Raised issued world.db.emails db.emails := by
  have records : question.records = some id := by
    rcases leaves with rfl | rfl <;> rfl
  have plain : question.attempts = none := by
    rcases leaves with rfl | rfl <;> rfl
  have updating : (question.update 0).isSome = true := by
    rcases leaves with rfl | rfl <;> rfl
  rcases effect.updates updating with
    ⟨failed, fails, rfl⟩ | ⟨ok, time, change, after, updates, rows, rfl⟩
  · rw [Server.noted_failed plain failed]
    refine ⟨tally.giveUp untried fun row member same unwritten => ?_, raised_refl⟩
    exact written row member (by rw [records, same]) unwritten fails
  · rw [Server.noted_recorded plain records ok]
    refine tally.leave untried (.of_update updates records) rows ?_ ?_
    · intro row
      rcases leaves with rfl | rfl
      all_goals
        cases updates
        beta_reduce
        split <;> rfl
    · intro row same
      rcases leaves with rfl | rfl
      all_goals
        cases updates
        beta_reduce
        rw [if_pos (beq_iff_eq.mpr same)]
        exact ⟨fun status => (by cases status), fun status => by cases status⟩

theorem Tally.execute {aim : question.Answer → View → Prop} {outside : Outside}
    (tally : Tally world.db.emails issued notes views)
    (rule : counting thread question (views thread) aim)
    (written : ∀ row ∈ world.db.emails, question.records = some row.id →
      Unwritten notes row → ¬ question.Fails env world)
    (unissued : ∀ id, Server.creates question = some id → id ∉ issued) :
    ∃ view, aim (perform env outside question world).1 view ∧
      Tally (perform env outside question world).2.db.emails
        ((Server.creates question).toList ++ issued)
        (Server.noted thread question (perform env outside question world).1 ++
          notes) (Function.update views thread view) ∧
      Raised issued world.db.emails
        (perform env outside question world).2.db.emails := by
  have effect := perform_effect env world outside question
  have update_self : Function.update views thread (views thread) = views :=
    Function.update_eq_self thread views
  rcases outcome : perform env outside question world with ⟨answer, after⟩
  rw [outcome] at effect
  simp only at effect ⊢
  generalize after.db = db at effect ⊢
  cases question with
  | deliver record deliveryType =>
      rcases rule with ⟨count, limit, knows, aims⟩
      rw [effect.reads rfl]
      exact ⟨_, aims answer, tally.deliver knows, raised_refl⟩
  | readyRetry id sendCount nextRetryAt =>
      exact tally.execute_readyRetry rule written effect
  | updateSendCount id sendCount =>
      exact tally.execute_updateSendCount rule written effect
  | complete id =>
      exact ⟨_, rule.2 answer,
        tally.execute_leave rule.1 (.inl rfl) written effect⟩
  | markDelivered id =>
      exact ⟨_, rule.2 answer,
        tally.execute_leave rule.1 (.inr rfl) written effect⟩
  | flipReadyingToReady id =>
      refine ⟨_, rule answer, ?_⟩
      rw [update_self, Server.noted_plain rfl rfl]
      rcases effect.updates rfl with
        ⟨_, _, rfl⟩ | ⟨_, time, change, emails, updates, rows, rfl⟩
      · exact ⟨tally, raised_refl⟩
      · cases updates
        exact tally.flip rows
  | delete id =>
      refine ⟨_, rule answer, ?_⟩
      rw [update_self, Server.noted_plain rfl rfl]
      exact tally.subset effect.deletes
  | create mail =>
      refine ⟨_, rule.2 answer, ?_⟩
      rw [update_self, Server.noted_plain rfl rfl]
      rcases effect.creates with rfl | ⟨createdAt, emails, inserted, rfl⟩
      · exact ⟨tally.issue, raised_refl⟩
      · exact tally.create inserted (unissued mail.id rfl) rfl rule.1
  | getPendingRetry limit =>
      rcases rule with ⟨batch, nothing, failed, taken⟩
      rw [effect.reads rfl, Server.noted_plain rfl rfl]
      subst batch
      cases answer with
      | error error =>
          refine ⟨_, failed error, ?_⟩
          rw [← nothing, update_self]
          exact ⟨tally, raised_refl⟩
      | ok rows =>
          have answered : (perform env outside (.getPendingRetry limit)
              world).1 = .ok rows := by
            rw [outcome]
          rcases getPendingRetry_answer answered with ⟨retriable, ready⟩
          exact ⟨_, taken rows retriable, tally.take nothing retriable ready,
            raised_refl⟩
  | _ =>
      rw [effect.reads rfl]
      refine ⟨_, rule answer, ?_⟩
      rw [update_self, Server.noted_plain rfl rfl]
      exact ⟨tally, raised_refl⟩

end Execute

/-! ## A step of the server -/

/-- Every thread keeps to the rule, and what the threads know is so. -/
structure Counted (server : Server) (views : Thread → View) : Prop where
  ensures : ∀ thread, Ensures (counting thread) (server.threads thread)
    (fun _ view => view = .nothing) (views thread)
  tally : Tally server.world.db.emails server.issued server.notes views

/-- One step keeps the counts, raises them, and forgets no id. -/
def Advances (server next : Server) : Prop :=
  (∃ views, Counted next views) ∧
    Raised server.issued server.world.db.emails next.world.db.emails ∧
      ∀ id ∈ server.issued, id ∈ next.issued

section Server

variable {env : Surroundings} {config : Config} {server : Server}
  {views : Thread → View} {thread : Thread}

theorem Counted.nothing (counted : Counted server views)
    (idle : server.isIdle thread = true) : views thread = .nothing := by
  have ensures := counted.ensures thread
  rw [Server.isIdle_iff.mp idle] at ensures
  exact ensures

theorem Counted.start {program : Flow Unit} (counted : Counted server views)
    (idle : server.isIdle thread = true) (finishes : Finishes thread program) :
    Advances server (server.setThread thread program) := by
  refine ⟨⟨views, fun other => ?_, counted.tally⟩, raised_refl, fun _ => id⟩
  by_cases same : other = thread
  · subst same
    rw [Server.setThread_self, counted.nothing idle]
    exact finishes
  · rw [Server.setThread_other same]
    exact counted.ensures other

theorem Counted.insert {mail : NewMail} (counted : Counted server views)
    (unissued : mail.id ∉ server.issued)
    (limit : mail.maxAttempts = config.maxAttempts) :
    Advances server { server with
      world := ((createEmail env mail).run server.world).2
      issued := mail.id :: server.issued } := by
  have effect := perform_effect env server.world .quiet (.create mail)
  have positive : 0 < mail.maxAttempts := by
    rw [limit]
    exact config.maxAttempts_pos
  have tally : Tally ((createEmail env mail).run server.world).2.db.emails
      (mail.id :: server.issued) server.notes views ∧
      Raised server.issued server.world.db.emails
        ((createEmail env mail).run server.world).2.db.emails := by
    rcases effect.creates with same | ⟨createdAt, emails, inserted, same⟩
    · have unchanged : ((createEmail env mail).run server.world).2.db =
          server.world.db := same
      rw [unchanged]
      exact ⟨counted.tally.issue, raised_refl⟩
    · have changed : ((createEmail env mail).run server.world).2.db =
          { server.world.db with emails } := same
      rw [changed]
      exact counted.tally.create inserted unissued rfl positive
  exact ⟨⟨views, counted.ensures, tally.1⟩, tally.2,
    fun _ => List.mem_cons_of_mem _⟩

theorem Counted.saveAttachments {emailId : String}
    {attachmentIds : List String} (counted : Counted server views) :
    Advances server { server with
      world := ((updateEmailAttachments env emailId attachmentIds).run
        server.world).2 } := by
  have sameIds : ∀ row : EmailRecord,
      ({ row with attachments := some attachmentIds } : EmailRecord).id =
        row.id := fun _ => rfl
  have tally : Tally ((updateEmailAttachments env emailId attachmentIds).run
        server.world).2.db.emails server.issued server.notes views ∧
      Raised server.issued server.world.db.emails
        ((updateEmailAttachments env emailId attachmentIds).run
          server.world).2.db.emails := by
    rcases run_updateEmails env server.world (·.id == emailId) sameIds with
      ⟨_, error, ran⟩ | ⟨_, emails, ran, rows⟩
    · rw [Storage.updateEmailAttachments, ran]
      exact ⟨counted.tally, raised_refl⟩
    · rw [Storage.updateEmailAttachments, ran]
      apply counted.tally.same rows
      all_goals
        intro row
        split <;> rfl
  exact ⟨⟨views, counted.ensures, tally.1⟩, tally.2, fun _ => id⟩

theorem Counted.claim {permit : Nat} {emailId : String} {channel : List String}
    (counted : Counted server views)
    (batch : server.isIdle .batch = true)
    (free : server.isIdle (.delivery permit) = true)
    (untried : ∀ row ∈ server.world.db.emails, row.id = emailId →
      isClaimable row = true → row.sendCount = 0) :
    Advances server
      (({ server with channel } : Server).claim env config permit emailId) := by
  rcases Server.claim_cases { server with channel } env config permit emailId
    with ⟨world, same, claimed⟩ |
      ⟨row, stored, sameId, claimable, time, emails, world, rows, after, claimed⟩
  · rw [claimed]
    refine ⟨⟨views, counted.ensures, ?_⟩, ?_, fun _ => id⟩
    · rw [show world.db = server.world.db from same]
      exact counted.tally
    · rw [show world.db = server.world.db from same]
      exact raised_refl
  · rw [claimed]
    have count := untried row stored sameId claimable
    have tally := counted.tally.claim (counted.nothing batch) stored sameId
      claimable count (counted.nothing free) rows
    refine ⟨⟨Function.update views (.delivery permit)
      (View.nothing.put emailId (.held 0 row.maxAttempts)),
      fun other => ?_, ?_⟩, ?_, fun _ => id⟩
    · by_cases same : other = .delivery permit
      · subst same
        rw [Server.setThread_self, Function.update_self, ← sameId]
        exact immediateForward_finishes
      · rw [Server.setThread_other same, Function.update_of_ne same]
        exact counted.ensures other
    · rw [Server.setThread_world, show world.db = _ from after]
      exact tally.1
    · rw [Server.setThread_world, show world.db = _ from after]
      exact tally.2

theorem Counted.advance {outside : Outside} {question : Request}
    {next : question.Answer → Flow Unit} (counted : Counted server views)
    (held : server.threads thread = .request question next)
    (new : server.repeatsId question = false)
    (written : ∀ row ∈ server.world.db.emails,
      question.records = some row.id → Unwritten server.notes row →
        ¬ question.Fails env server.world) :
    Advances server
      (server.execute env config thread outside question next) := by
  have ensures := counted.ensures thread
  rw [held] at ensures
  have unissued : ∀ id, Server.creates question = some id →
      id ∉ server.issued := by
    intro id creates issued
    rw [Server.repeatsId, creates] at new
    exact Bool.eq_false_iff.mp new (List.contains_iff_mem.mpr issued)
  rcases counted.tally.execute ensures written unissued with
    ⟨view, aim, tally, raised⟩
  refine ⟨⟨_, fun other => ?_, tally⟩, raised,
    fun _ => List.mem_append_right _⟩
  by_cases same : other = thread
  · subst same
    rw [Server.execute_self, Function.update_self]
    exact aim
  · rw [Server.execute_other same, Function.update_of_ne same]
    exact counted.ensures other

theorem Counted.stop {stopped : Thread → Prop} [DecidablePred stopped]
    {next : Server} (counted : Counted server views)
    (kept : ∀ row ∈ server.world.db.emails, ∀ thread, stopped thread →
      ∀ count limit, views thread row.id ≠ some (.tried count limit false) ∧
        (row.status = .ready →
          views thread row.id ≠ some (.tried count limit true)))
    (world : next.world = server.world) (issued : next.issued = server.issued)
    (notes : next.notes = server.notes)
    (ended : ∀ thread, stopped thread → next.threads thread = pure ())
    (going : ∀ thread, ¬ stopped thread →
      next.threads thread = server.threads thread) :
    Advances server next := by
  have tally := counted.tally.stop kept
  rw [← world, ← issued, ← notes] at tally
  refine ⟨⟨_, fun thread => ?_, tally⟩, ?_, ?_⟩
  · by_cases ends : stopped thread
    · rw [if_pos ends, ended thread ends]
      rfl
    · rw [if_neg ends, going thread ends]
      exact counted.ensures thread
  · rw [world]
    exact raised_refl
  · rw [issued]
    exact fun _ => id

theorem Counted.step {event : Event} {next : Server}
    (counted : Counted server views)
    (moved : Guarded (Counts env) (Server.Steps env config) server event next) :
    Advances server next := by
  rcases moved with ⟨counts, moved⟩
  rw [Server.Steps] at moved
  cases event with
  | insert mail =>
      rw [Server.step] at moved
      split at moved
      · cases moved
      · next new =>
          cases moved
          rw [Bool.or_eq_true, not_or, List.contains_iff_mem, bne_iff_ne,
            not_not] at new
          exact counted.insert new.1 new.2
  | saveAttachments emailId attachmentIds =>
      cases moved
      exact counted.saveAttachments
  | wake emailId =>
      rw [Server.step] at moved
      split at moved
      · cases moved
        rw [Server.wake]
        split <;> exact ⟨⟨views, counted.ensures, counted.tally⟩, raised_refl,
          fun _ => id⟩
      · cases moved
  | tick =>
      rw [Server.step] at moved
      split at moved
      · next idle =>
          cases moved
          exact counted.start idle processBatch_finishes
      · cases moved
  | claim permit =>
      rw [Server.step] at moved
      split at moved
      · cases moved
      · next emailId channel waiting =>
          split at moved
          · next ready =>
              cases moved
              rw [Bool.and_eq_true, Bool.and_eq_true] at ready
              exact counted.claim ready.1.1 ready.1.2
                (counts emailId channel waiting)
          · cases moved
  | bounce session originalId =>
      rw [Server.step] at moved
      split at moved
      · next idle =>
          cases moved
          exact counted.start idle (settleBounced_finishes originalId)
      · cases moved
  | advance thread outside =>
      rw [Server.step] at moved
      split at moved
      · cases moved
      · next question rest held =>
          split at moved
          · cases moved
          · next new =>
              cases moved
              exact counted.advance held (Bool.eq_false_iff.mpr new)
                (counts question rest held)
  | panic permit =>
      cases moved
      refine counted.stop ?_ rfl rfl rfl ?_ fun thread going =>
        Server.setThread_other going
      · rintro row member thread rfl count limit
        refine ⟨fun tried => ?_, fun ready tried => ?_⟩
        · have fits := counted.tally.held row member _ _ tried
          exact counts row member fits.2.2.2.2.2.1
        · have fits := counted.tally.held row member _ _ tried
          exact fits.placed.2 (fun batch => by cases batch) ready
      · rintro thread rfl
        exact Server.setThread_self
  | crash =>
      cases moved
      refine counted.stop (fun row member thread _ count limit => ?_) rfl rfl rfl
        (fun _ _ => rfl) fun thread going => absurd trivial going
      refine ⟨fun tried => ?_, fun ready tried => ?_⟩
      · have fits := counted.tally.held row member _ _ tried
        exact counts row member ⟨thread, false, fits.2.2.2.2.2.1, .inl rfl⟩
      · have fits := counted.tally.held row member _ _ tried
        exact counts row member ⟨thread, true, fits.2.2.2.2.2.1, .inr ready⟩

theorem Counted.run {events : List Event} {last : Server}
    (counted : Counted server views)
    (run : Run (Guarded (Counts env) (Server.Steps env config)) server events
      last) : Advances server last := by
  induction run generalizing views with
  | nil state => exact ⟨⟨views, counted⟩, raised_refl, fun _ => id⟩
  | cons moved rest induction =>
      rcases counted.step moved with ⟨⟨middle, held⟩, raised, kept⟩
      rcases induction held with ⟨ends, raisedLater, keptLater⟩
      refine ⟨ends, fun row member issued => ?_, fun id issued =>
        keptLater id (kept id issued)⟩
      rcases raisedLater row member (kept row.id issued) with
        ⟨old, stored, sameId, count⟩
      rcases raised old stored (by rwa [sameId]) with
        ⟨first, present, sameFirst, earlier⟩
      exact ⟨first, present, sameFirst.trans sameId,
        Int.le_trans earlier count⟩

theorem counted_boot {world : World} {issued : List String}
    (untried : ∀ row ∈ world.db.emails, row.id ∈ issued ∧ row.sendCount = 0 ∧
      0 < row.maxAttempts) :
    Counted (Server.boot world issued) fun _ => .nothing := by
  refine ⟨fun _ => rfl, ⟨fun _ _ _ known => absurd rfl known,
    fun row member => (untried row member).1,
    fun row member => (untried row member).2.2, fun _ _ => ⟨rfl, rfl, fun _ => rfl⟩,
    fun _ _ _ _ known => (by cases known), fun row member _ => ?_⟩⟩
  rcases untried row member with ⟨_, count, limit⟩
  exact ⟨count.symm, Int.le_of_lt limit, fun _ => count.symm⟩

/-- In a run that keeps the counts right, a count never decreases, it is the
number of the attempts, and no email is attempted more often than its limit. -/
theorem attempts_bounded {world : World} {issued : List String}
    {earlier later : List Event} {middle last : Server}
    (untried : ∀ row ∈ world.db.emails, row.id ∈ issued ∧ row.sendCount = 0 ∧
      0 < row.maxAttempts)
    (start : Run (Guarded (Counts env) (Server.Steps env config))
      (Server.boot world issued) earlier middle)
    (rest : Run (Guarded (Counts env) (Server.Steps env config))
      middle later last) :
    (∀ old ∈ middle.world.db.emails, ∀ row ∈ last.world.db.emails,
      old.id = row.id → old.sendCount ≤ row.sendCount) ∧
      ∀ row ∈ last.world.db.emails,
        ((∀ thread, unwritten thread row.id last.notes ≠ some false) →
          (failures last.notes row.id : Int) = row.sendCount) ∧
        ((∀ thread, unwritten thread row.id last.notes = none) →
          row.status = .readying ∨ row.status = .ready →
            (attempts last.notes row.id : Int) = row.sendCount) ∧
        (attempts last.notes row.id : Int) ≤ row.maxAttempts := by
  rcases (counted_boot untried).run start with ⟨⟨_, countedMiddle⟩, _, _⟩
  rcases countedMiddle.run rest with ⟨⟨views, counted⟩, raised, _⟩
  have tally := counted.tally
  constructor
  · intro old stored row member sameId
    have issuedRow := countedMiddle.tally.issuedRows old stored
    rcases raised row member (by rwa [← sameId]) with
      ⟨first, present, sameFirst, count⟩
    have same : first = old :=
      Table.eq_of_conflict EmailRecord.conflict_comm present stored
        (by rw [EmailRecord.conflict, sameFirst, sameId, beq_self_eq_true])
    rw [← same]
    exact count
  · intro row member
    by_cases worked : ∃ thread, views thread row.id ≠ none
    · rcases worked with ⟨thread, knows⟩
      rcases Option.ne_none_iff_exists'.mp knows with ⟨hold, holds⟩
      have fits := tally.held row member thread hold holds
      cases hold with
      | held count limit =>
          rcases fits with ⟨left, sameCount, sameLimit, attempted, failed, _⟩
          exact ⟨fun _ => by omega, fun _ _ => by omega, by omega⟩
      | tried count limit succeeded =>
          rcases fits with
            ⟨left, sameCount, sameLimit, attempted, failed, noted, _⟩
          refine ⟨fun written => ?_, fun written => ?_, by omega⟩
          · cases succeeded with
            | false => exact absurd noted (written thread)
            | true =>
                rw [if_pos rfl] at failed
                omega
          · rw [written thread] at noted
            cases noted
      | gone => exact absurd fits not_false
    · have settled := tally.free row member fun thread => by
        by_contra knows
        exact worked ⟨thread, knows⟩
      exact ⟨fun _ => settled.counted, fun _ => settled.retried,
        settled.bounded⟩

end Server

theorem counts_of_calm {env : Surroundings} (calm : env.Calm) {server : Server}
    {thread : Thread} {outside : Outside} :
    Counts env server (.advance thread outside) :=
  fun _ _ _ _ _ _ _ fails => absurd (calm _) fails

def passingTime : Surroundings :=
  { Surroundings.steady 0 "u1" with clock := fun tick => 1000000 * tick }

def newServer : Server := .boot (.start .empty) []

def batchSteps (count : Nat) : List Event :=
  List.replicate count (.advance .batch unreachable)

theorem attempts_bounded_batch : ∃ middle last,
    Run (Server.Steps passingTime plainConfig) newServer
      [.insert report, .tick] middle ∧
    Run (Server.Steps passingTime plainConfig) middle (batchSteps 14) last ∧
    last.world.db.emails.rows.map (·.sendCount) = [1] ∧
      ∀ row ∈ last.world.db.emails,
        (attempts last.notes row.id : Int) ≤ row.maxAttempts := by
  have started : (newServer.runs passingTime plainConfig
      [.insert report, .tick]).isSome := by
    decide +kernel
  rcases Option.isSome_iff_exists.mp started with ⟨middle, began⟩
  have ended : (newServer.runs passingTime plainConfig
      ([.insert report, .tick] ++ batchSteps 14)).map
        (fun server => server.world.db.emails.rows.map (·.sendCount)) =
          some [1] := by
    decide +kernel
  rcases Option.map_eq_some_iff.mp ended with ⟨last, ran, counts⟩
  rw [Server.runs, List.foldlM_append, ← Server.runs, began] at ran
  have start := Server.run_of_runs began
  have rest := Server.run_of_runs (show middle.runs passingTime plainConfig
    (batchSteps 14) = some last from ran)
  have calm : passingTime.Calm := fun _ => rfl
  refine ⟨middle, last, start, rest, counts, fun row member => ?_⟩
  have bounded := attempts_bounded (fun row member => by cases member)
    (start.guarded fun server event member => by
      rcases List.mem_cons.mp member with rfl | member
      · trivial
      · rw [List.mem_singleton.mp member]
        trivial)
    (rest.guarded fun server event member => by
      rw [List.eq_of_mem_replicate member]
      exact counts_of_calm calm)
  exact (bounded.2 row member).2.2

def bounceNotification : NewMail where
  id := "bn-1"
  systemId := "sys1"
  direction := .inbound
  sender := "noreply@a.test"
  recipients := onlyTo "worker@a.test"
  subject := "Mail delivery failed"
  body := "Original message"
  headers := []
  attachments := none
  maxAttempts := 3

/-- A bounce notification is stored and the scheduler is woken twice for it.
The first delivery and one retry fail. -/
def twiceTriggered : List Event :=
  [.insert bounceNotification, .wake "bn-1", .wake "bn-1", .claim 0] ++
    List.replicate 4 (.advance (.delivery 0) unreachable) ++
      [.tick] ++ batchSteps 12

/-- The second trigger claims the email that is waiting for its next retry. -/
def claimedAgain : List Event :=
  .claim 0 :: List.replicate 4 (.advance (.delivery 0) unreachable)

theorem count_decreases : ∃ middle last,
    Run (Server.Steps passingTime plainConfig) newServer twiceTriggered middle ∧
    Run (Server.Steps passingTime plainConfig) middle claimedAgain last ∧
    ∃ old ∈ middle.world.db.emails, ∃ row ∈ last.world.db.emails,
      old.id = row.id ∧ row.sendCount < old.sendCount := by
  have earlier : (newServer.runs passingTime plainConfig twiceTriggered).map
      (fun server =>
        server.world.db.emails.rows.map fun row => (row.id, row.sendCount)) =
        some [("bn-1", 2)] := by
    decide +kernel
  have later : (newServer.runs passingTime plainConfig
      (twiceTriggered ++ claimedAgain)).map (fun server =>
        server.world.db.emails.rows.map fun row => (row.id, row.sendCount)) =
        some [("bn-1", 1)] := by
    decide +kernel
  rcases Option.map_eq_some_iff.mp earlier with ⟨middle, began, before⟩
  rcases Option.map_eq_some_iff.mp later with ⟨last, ran, after⟩
  rw [Server.runs, List.foldlM_append, ← Server.runs, began] at ran
  have rest : middle.runs passingTime plainConfig claimedAgain = some last := ran
  rcases List.map_eq_singleton_iff.mp before with ⟨old, onlyOld, two⟩
  rcases List.map_eq_singleton_iff.mp after with ⟨row, onlyRow, one⟩
  rcases Prod.mk.inj two with ⟨oldId, oldCount⟩
  rcases Prod.mk.inj one with ⟨rowId, rowCount⟩
  refine ⟨middle, last, Server.run_of_runs began, Server.run_of_runs rest,
    old, ?_, row, ?_, oldId.trans rowId.symm, ?_⟩
  · rw [← Table.mem_rows, onlyOld]
    exact List.mem_singleton_self old
  · rw [← Table.mem_rows, onlyRow]
    exact List.mem_singleton_self row
  · rw [oldCount, rowCount]
    decide

end AimailGateway.Scheduler
