import AimailGateway.Board.TaskSteps

/-! # The lifecycle of a task

A task that is done or cancelled keeps its state, and the two times are set
with the states they belong to, as long as no command is aimed at a closed task
and no board with finished work is reopened.
-/

namespace AimailGateway.Board

open Library BoardDb Commands

/-- The time of completion is there exactly on tasks that are done, that of
cancellation on tasks that are cancelled. -/
def TimesMatch (db : BoardDb) : Prop :=
  ∀ row ∈ db.tasks.rows,
    (row.completedAt.isSome ↔ row.status = .done) ∧
      (row.cancelledAt.isSome ↔ row.status = .cancelled)

instance (db : BoardDb) : Decidable (TimesMatch db) :=
  inferInstanceAs (Decidable (∀ row ∈ db.tasks.rows, _))

/-- The state is closed to a verb that would write another one. -/
def ClosedTo (verb : String) (task : Task) : Prop :=
  task.status = .cancelled ∨
    task.status = .done ∧ (verb = "complete" → task.reviewer.isSome)

/-- An authorised command that reopens what is closed without its times. -/
inductive Disrupts (db : BoardDb) (notifier : Notifier) (cmd : A2aCommand)
    (sender : String) : Prop where
  | moves {task : Task}
      (verb : cmd.verb ∈ ["complete", "review", "block", "unblock"])
      (authority : Authority db notifier cmd sender task.boardId)
      (named : Names db cmd task) (closed : ClosedTo cmd.verb task)
      (given : cmd.verb = "review" → (strParam cmd "reviewer").isSome)
  | reopens {row : Task} (verb : cmd.verb = "reopen")
      (authority : Authority db notifier cmd sender row.boardId)
      (awaits : ∃ board, db.findBoard row.boardId = some board ∧
        board.status = .awaitingOwner)
      (there : row ∈ db.tasks) (done : row.status = .done)

/-- No mail carries a disruptive command to a board that takes commands. -/
def Respects (settings : Settings) (gateway : Gateway) (event : Event) : Prop :=
  ∀ boardId mail cmd board, event = .mail mail →
    Carries settings mail boardId cmd →
    (gateway.files boardId).findBoard boardId = some board →
    Interceptor.isPast board = false →
    ¬ Disrupts (gateway.files boardId) (Interceptor.notifierOf board) cmd
      mail.sender

/-- A mail that carries a `reopen` to the board. -/
def Reopens (settings : Settings) (boardId : String) (event : Event) : Prop :=
  ∃ mail cmd, event = .mail mail ∧ Carries settings mail boardId cmd ∧
    cmd.verb = "reopen"

/-- Cancelled tasks stay so, and done tasks unless the board is reopened. -/
structure Lasting (settings : Settings) (gateway : Gateway) (event : Event)
    (next : Gateway) : Prop where
  cancelled : ∀ boardId, ∀ row ∈ (gateway.files boardId).tasks,
    ∀ row' ∈ (next.files boardId).tasks, row'.id = row.id →
      row.status = .cancelled → row'.status = .cancelled
  done : ∀ boardId, ∀ row ∈ (gateway.files boardId).tasks,
    ∀ row' ∈ (next.files boardId).tasks, row'.id = row.id →
      row.status = .done →
        row'.status = .done ∨ Reopens settings boardId event

/-! ## One row -/

/-- The times of one row. -/
def Matches (row : Task) : Prop :=
  (row.completedAt.isSome ↔ row.status = .done) ∧
    (row.cancelledAt.isSome ↔ row.status = .cancelled)

/-- The states that last. -/
def Stays (row row' : Task) : Prop :=
  (row.status = .cancelled → row'.status = .cancelled) ∧
    (row.status = .done → row'.status = .done)

variable {settings : Settings} {notifier : Notifier} {cmd : A2aCommand}
  {sender boardId : String} {before after : BoardDb} {row row' : Task}
  {event : Event}

theorem read_done : (taskFromRow row).status = .done ↔ row.status = .done := by
  refine ⟨fun read => status_of_read read (by simp), fun done => ?_⟩
  rw [taskFromRow, done]
  rfl

theorem read_cancelled :
    (taskFromRow row).status = .cancelled ↔ row.status = .cancelled := by
  refine ⟨fun read => status_of_read read (by simp), fun cancelled => ?_⟩
  rw [taskFromRow, cancelled]
  rfl

theorem Matches.open {matched : Matches row} (undone : row.status ≠ .done)
    (uncancelled : row.status ≠ .cancelled) :
    row.completedAt = none ∧ row.cancelledAt = none := by
  constructor
  · rw [← Option.not_isSome_iff_eq_none, matched.1]
    exact undone
  · rw [← Option.not_isSome_iff_eq_none, matched.2]
    exact uncancelled

theorem lasting_open {moved : Task} (matched : Matches row)
    (undone : row.status ≠ .done) (uncancelled : row.status ≠ .cancelled)
    (completedAt : moved.completedAt = row.completedAt)
    (cancelledAt : moved.cancelledAt = row.cancelledAt)
    (open' : moved.status ≠ .done ∧ moved.status ≠ .cancelled) :
    Matches moved ∧ Stays row moved := by
  have times := matched.open undone uncancelled
  refine ⟨⟨?_, ?_⟩, fun cancelled => absurd cancelled uncancelled,
    fun done => absurd done undone⟩
  · rw [completedAt, times.1]
    simp [open'.1]
  · rw [cancelledAt, times.2]
    simp [open'.2]

theorem lasting_read {moved : Task} (matched : Matches row)
    (status : moved.status = (taskFromRow row).status)
    (completedAt : moved.completedAt = row.completedAt)
    (cancelledAt : moved.cancelledAt = row.cancelledAt) :
    Matches moved ∧ Stays row moved := by
  refine ⟨⟨?_, ?_⟩, ?_, ?_⟩
  · rw [completedAt, status, read_done]
    exact matched.1
  · rw [cancelledAt, status, read_cancelled]
    exact matched.2
  · rw [status, read_cancelled]
    exact id
  · rw [status, read_done]
    exact id

theorem Transition.lasts {updated : Task} (matched : Matches row)
    (transition : Transition cmd (taskFromRow row) updated)
    (undisrupted : cmd.verb ∈ ["complete", "review", "block", "unblock"] →
      (cmd.verb = "review" → (strParam cmd "reviewer").isSome) →
        ¬ ClosedTo cmd.verb (taskFromRow row)) :
    Matches updated ∧ Stays row updated := by
  -- A verb that writes an open state is not aimed at a closed task.
  have opens : ∀ {verb : String} {moved : Task}, cmd.verb = verb →
      verb ∈ ["complete", "review", "block", "unblock"] →
      (verb = "review" → (strParam cmd "reviewer").isSome) →
      (verb = "complete" → row.reviewer.isSome) →
      moved.completedAt = row.completedAt →
      moved.cancelledAt = row.cancelledAt →
      moved.status ≠ .done ∧ moved.status ≠ .cancelled →
        Matches moved ∧ Stays row moved := by
    intro verb moved same listed given reviewed completedAt cancelledAt moves
    subst same
    have unclosed := undisrupted listed given
    rw [ClosedTo, not_or] at unclosed
    refine lasting_open matched ?_ ?_ completedAt cancelledAt moves
    · intro done
      exact unclosed.2 ⟨read_done.mpr done, reviewed⟩
    · intro cancelled
      exact unclosed.1 (read_cancelled.mpr cancelled)
  have unread : ∀ {status : TaskStatus}, (taskFromRow row).status = status →
      status ≠ .done → status ≠ .cancelled →
        row.status ≠ .done ∧ row.status ≠ .cancelled := by
    intro status read undone uncancelled
    constructor
    · intro done
      exact undone (read ▸ read_done.mpr done)
    · intro cancelled
      exact uncancelled (read ▸ read_cancelled.mpr cancelled)
  cases transition with
  | progress verb summary now => exact lasting_read matched rfl rfl rfl
  | assign verb assignee now => exact lasting_read matched rfl rfl rfl
  | edit verb title body now => exact lasting_read matched rfl rfl rfl
  | deadline verb deadline now => exact lasting_read matched rfl rfl rfl
  | submit verb reviewed summary now =>
      exact opens verb (by simp) (by simp) (fun _ => reviewed) rfl rfl
        ⟨by simp, by simp⟩
  | review verb reviewer now given =>
      exact opens verb (by simp) (fun _ => by simp [given]) (by simp) rfl rfl
        ⟨by simp, by simp⟩
  | block verb now =>
      exact opens verb (by simp) (by simp) (by simp) rfl rfl
        ⟨by simp, by simp⟩
  | unblock verb now =>
      exact opens verb (by simp) (by simp) (by simp) rfl rfl
        ⟨by simp, by simp⟩
  | reject verb reviewing now =>
      have origin := unread reviewing (by simp) (by simp)
      exact lasting_open matched origin.1 origin.2 rfl rfl ⟨by simp, by simp⟩
  | start verb runnable now =>
      have origin : row.status ≠ .done ∧ row.status ≠ .cancelled := by
        rcases runnable with read | read
        · exact unread read (by simp) (by simp)
        · exact unread read (by simp) (by simp)
      exact lasting_open matched origin.1 origin.2 rfl rfl ⟨by simp, by simp⟩
  | cancel verb blocked now =>
      have origin := unread blocked (by simp) (by simp)
      have times := matched.open origin.1 origin.2
      refine ⟨⟨?_, ?_⟩, fun cancelled => rfl,
        fun done => absurd done origin.1⟩
      · have kept : (none : Option String).isSome ↔
            TaskStatus.cancelled = .done := by simp
        rw [← times.1] at kept
        exact kept
      · simp

theorem Finish.lasts {updated : Task} {kind : String} (matched : Matches row)
    (finish : Finish cmd (taskFromRow row) updated kind)
    (uncancelled : cmd.verb = "complete" → row.status ≠ .cancelled) :
    Matches updated ∧ Stays row updated := by
  have origin : row.status ≠ .cancelled := by
    cases finish with
    | complete verb => exact uncancelled verb
    | approve verb reviewing now =>
        intro cancelled
        rw [read_cancelled.mpr cancelled] at reviewing
        cases reviewing
  have uncancelledAt : row.cancelledAt = none := by
    rw [← Option.not_isSome_iff_eq_none, matched.2]
    exact origin
  have kept : row.cancelledAt.isSome ↔ TaskStatus.done = .cancelled := by
    simp [uncancelledAt]
  cases finish with
  | complete verb alone summary now =>
      exact ⟨⟨by simp, kept⟩, fun cancelled => absurd cancelled origin,
        fun _ => rfl⟩
  | approve verb reviewing now =>
      exact ⟨⟨by simp, kept⟩, fun cancelled => absurd cancelled origin,
        fun _ => rfl⟩

theorem RowStep.lasts (matched : Matches row) (there : row ∈ before.tasks)
    (undisrupted : ¬ Disrupts before notifier cmd sender)
    (step : RowStep notifier cmd sender before after row row') :
    Matches row' ∧ Stays row row' := by
  cases step with
  | kept => exact ⟨matched, id, id⟩
  | moved authority named transition =>
      refine transition.lasts matched fun verb given closed => ?_
      exact undisrupted
        (@Disrupts.moves _ _ _ _ (taskFromRow row) verb authority named closed
          given)
  | finished authority named finish =>
      refine finish.lasts matched fun verb cancelled => ?_
      refine undisrupted (@Disrupts.moves _ _ _ _ (taskFromRow row)
        (by simp [verb]) authority named (.inl (read_cancelled.mpr cancelled))
        ?_)
      simp [verb]
  | promoted verb waits =>
      have undone : row.status ≠ .done := by
        intro done
        rw [read_done.mpr done] at waits
        cases waits
      have uncancelled : row.status ≠ .cancelled := by
        intro cancelled
        rw [read_cancelled.mpr cancelled] at waits
        cases waits
      exact lasting_open matched undone uncancelled rfl rfl ⟨by simp, by simp⟩
  | @reopened reopened status now verb authority awaits moves =>
      rw [reopenedStatus] at moves
      split at moves
      · next done =>
          exact absurd (.reopens verb authority awaits there (read_done.mp done))
            undisrupted
      · split at moves
        · next ready =>
            cases moves
            rw [Bool.and_eq_true, decide_eq_true_iff] at ready
            have origin := status_of_read ready.1 (by simp)
            exact lasting_open matched (by simp [origin]) (by simp [origin]) rfl
              rfl ⟨by simp, by simp⟩
        · cases moves

/-! ## Runs -/

theorem EventStep.lasts (matched : Matches row) (there : row ∈ before.tasks)
    (undisrupted : ∀ mail cmd board, event = .mail mail →
      Carries settings mail boardId cmd →
      before.findBoard boardId = some board →
      Interceptor.isPast board = false →
        ¬ Disrupts before (Interceptor.notifierOf board) cmd mail.sender)
    (step : EventStep settings boardId before after row event row') :
    Matches row' ∧ Stays row row' := by
  cases step with
  | kept => exact ⟨matched, id, id⟩
  | commanded carried found current step =>
      exact step.lasts matched there
        (undisrupted _ _ _ rfl carried found current)
  | started runnable =>
      have undone : row.status ≠ .done := by
        intro done
        rw [read_done.mpr done] at runnable
        simp at runnable
      have uncancelled : row.status ≠ .cancelled := by
        intro cancelled
        rw [read_cancelled.mpr cancelled] at runnable
        simp at runnable
      exact lasting_open matched undone uncancelled rfl rfl ⟨by simp, by simp⟩
  | swept running =>
      exact lasting_open matched (by simp [running]) (by simp [running]) rfl rfl
        ⟨by simp, by simp⟩
  | renamed different same =>
      rw [Task.SameButAddresses] at same
      have completedAt := congrArg Task.completedAt same
      have cancelledAt := congrArg Task.cancelledAt same
      have status := congrArg Task.status same
      simp only at completedAt cancelledAt status
      rw [Matches, Stays, completedAt, cancelledAt, status]
      exact ⟨matched, id, id⟩

theorem Step.lasts {gateway next : Gateway}
    (respects : Respects settings gateway event)
    (step : Step settings gateway event next)
    (matched : ∀ boardId, TimesMatch (gateway.files boardId)) :
    Lasting settings gateway event next ∧
      ∀ boardId, TimesMatch (next.files boardId) := by
  have touched : ∀ boardId, Touched settings event boardId
      (gateway.files boardId) (next.files boardId) := by
    intro boardId
    rw [← step]
    exact advance_touches settings event gateway boardId
  have each : ∀ boardId, ∀ row ∈ (gateway.files boardId).tasks,
      ∀ row', EventStep settings boardId (gateway.files boardId)
        (next.files boardId) row event row' → Matches row' ∧ Stays row row' :=
    fun boardId row there row' moved => moved.lasts (matched boardId row there)
      there fun mail cmd board => respects boardId mail cmd board
  have stays : ∀ boardId, ∀ row ∈ (gateway.files boardId).tasks,
      ∀ row' ∈ (next.files boardId).tasks, row'.id = row.id →
        Stays row row' :=
    fun boardId row known row' there same =>
      (each boardId row known row' ((touched boardId).step known there same)).2
  refine ⟨⟨?_, ?_⟩, ?_⟩
  · exact fun boardId row known row' there same =>
      (stays boardId row known row' there same).1
  · exact fun boardId row known row' there same done =>
      .inl ((stays boardId row known row' there same).2 done)
  · intro boardId row' there
    rcases (touched boardId).rows there with ⟨row, known, _, moved⟩ | created
    · exact (each boardId row known row' moved).1
    · rcases created with ⟨_, _, _, _, _, _, _, asked⟩
      have fresh := asked.fresh
      rw [fresh.2.1, fresh.2.2]
      rcases fresh.1 with status | status
      · simp [status]
      · simp [status]

/-- In every run without disruptive commands closed tasks stay closed at every
step, and the times match the states. -/
theorem lifecycle_run (settings : Settings) (main : World) {events : List Event}
    {gateway : Gateway}
    (run : Run (Guarded (Respects settings) (Step settings))
      (Gateway.start main) events gateway) :
    Run (fun before event after => Step settings before event after ∧
        Lasting settings before event after)
      (Gateway.start main) events gateway ∧
      ∀ boardId, TimesMatch (gateway.files boardId) := by
  have start : ∀ boardId, TimesMatch ((Gateway.start main).files boardId) :=
    fun _ _ absent => absurd absent List.not_mem_nil
  generalize Gateway.start main = first at run start
  induction run with
  | nil state => exact ⟨.nil state, start⟩
  | cons moved rest induction =>
      have once := moved.2.lasts moved.1 start
      have later := induction once.2
      exact ⟨.cons ⟨moved.2, once.1⟩ later.1, later.2⟩

theorem respects_mail {gateway : Gateway} {mail : InboundMail}
    (verb : (commandWords mail).head? ≠ some "reopen")
    (opened : ∀ boardId, boardIdOf settings (Interceptor.recipient mail) =
        some boardId →
      ((commandWords mail)[1]?.bind (gateway.files boardId).lookupTask).all
        (fun task => task.status ≠ .done ∧ task.status ≠ .cancelled)) :
    Respects settings gateway (.mail mail) := by
  rintro boardId sent cmd board same carried _ _ disrupts
  cases same
  have words := carried.words
  cases disrupts with
  | @moves task listed authority named closed given =>
      rcases named with ⟨taskRef, refers, found⟩
      have unclosed := opened boardId carried.1
      rw [← words.2, refers, Option.bind_some, found] at unclosed
      simp only [Option.all_some, decide_eq_true_eq] at unclosed
      rcases closed with cancelled | ⟨done, _⟩
      · exact unclosed.2 cancelled
      · exact unclosed.1 done
  | reopens reopen =>
      rw [reopen] at words
      cases head : (commandWords mail).head? with
      | none =>
          rw [head] at words
          exact absurd words.1 (by simp)
      | some first =>
          rw [head] at words
          exact verb (head.trans (congrArg some words.1.symm))

namespace Trial

/-- The worker completes the task and then blocks it. -/
def blockedAfterDone : List Event :=
  [creation teamDocument, toBoard "orch@x.org" "[A2A] create" plainTask,
    toBoard "work@x.org" "[A2A] complete T1" noDocument,
    toBoard "work@x.org" "[A2A] block T1" noDocument]

/-- The worker completes the task. -/
def doneInTime : List Event :=
  [creation teamDocument, toBoard "orch@x.org" "[A2A] create" plainTask,
    toBoard "work@x.org" "[A2A] complete T1" noDocument]

end Trial

open Trial in
/-- A task that is created and completed ends with its time of completion. -/
theorem lifecycle_run_done :
    ((reached [teamDocument, plainTask] doneInTime).files
        demoBoard).tasks.rows.map (fun row => (row.status, row.completedAt)) =
      [(TaskStatus.done, some "2026-01-01T00:00:00+00:00")] ∧
    Run (fun before event after =>
        Step (configured [teamDocument, plainTask]) before event after ∧
          Lasting (configured [teamDocument, plainTask]) before event after)
      (Gateway.start (World.start Database.empty)) doneInTime
      (reached [teamDocument, plainTask] doneInTime) ∧
      ∀ boardId, TimesMatch
        ((reached [teamDocument, plainTask] doneInTime).files boardId) := by
  refine ⟨by decide +kernel, lifecycle_run _ _ ?_⟩
  have sent : ∀ mail : InboundMail, Interceptor.recipient mail = demoBoard →
      ∀ boardId, boardIdOf (configured [teamDocument, plainTask])
        (Interceptor.recipient mail) = some boardId → boardId = demoBoard := by
    intro mail same boardId known
    have resolved : boardIdOf (configured [teamDocument, plainTask])
        demoBoard = some demoBoard := by decide +kernel
    rw [same, resolved] at known
    exact (Option.some.inj known).symm
  refine .cons ⟨respects_mail (by decide +kernel) ?_, rfl⟩
    (.cons ⟨respects_mail (by decide +kernel) ?_, rfl⟩
      (.cons ⟨respects_mail (by decide +kernel) ?_, rfl⟩ (.nil _)))
  · intro boardId known
    have nowhere : boardIdOf (configured [teamDocument, plainTask])
        "orch@x.org" = none := by decide +kernel
    exact absurd (nowhere.symm.trans known) (by simp)
  · intro boardId known
    rw [sent _ (by decide +kernel) boardId known]
    decide +kernel
  · intro boardId known
    rw [sent _ (by decide +kernel) boardId known]
    decide +kernel

open Trial in
/-- A worker who blocks a task after it is done takes it out of this state and
leaves the time of completion behind. -/
theorem lifecycle_broken :
    ¬ ∀ (settings : Settings) (main : World) (events : List Event)
      (gateway : Gateway),
      Run (Step settings) (Gateway.start main) events gateway →
        Run (fun before event after => Step settings before event after ∧
            Lasting settings before event after)
          (Gateway.start main) events gateway ∧
          ∀ boardId, TimesMatch (gateway.files boardId) := by
  intro claimed
  have matched := (claimed _ _ _ _
    (reached_run [teamDocument, plainTask] blockedAfterDone)).2 demoBoard
  have broken : ¬ TimesMatch
      ((reached [teamDocument, plainTask] blockedAfterDone).files
        demoBoard) := by decide +kernel
  exact broken matched

end AimailGateway.Board
