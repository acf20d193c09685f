import AimailGateway.Board.TaskLifecycle

/-! # What becomes of stored tasks and events

No event takes a task off its board or makes another task of it, the log of a
board only grows, and over HTTP tasks are only started.
-/

namespace AimailGateway.Board

open Library BoardDb Commands

variable {settings : Settings} {event : Event} {boardId : String}
  {before middle after : BoardDb}

/-- What an event of the log keeps for good. -/
def TaskEvent.origin (event : TaskEvent) : TaskEvent := { event with actor := "" }

/-- Every task is still there, and the log has only grown at its end. -/
structure Keeps (before after : BoardDb) : Prop where
  tasks : ∀ row ∈ before.tasks, ∃ row' ∈ after.tasks, row'.id = row.id
  events : before.taskEvents.map TaskEvent.origin <+:
    after.taskEvents.map TaskEvent.origin

theorem keeps_same (tasks : after.tasks = before.tasks)
    (events : after.taskEvents = before.taskEvents) : Keeps before after :=
  ⟨fun row there => ⟨row, tasks ▸ there, rfl⟩, events ▸ List.prefix_rfl⟩

theorem keeps_permitted (permitted : Permitted before after) :
    Keeps before after :=
  keeps_same permitted.tasks permitted.taskEvents

theorem Keeps.trans (earlier : Keeps before middle)
    (later : Keeps middle after) : Keeps before after := by
  refine ⟨fun row there => ?_, earlier.events.trans later.events⟩
  rcases earlier.tasks row there with ⟨next, known, same⟩
  rcases later.tasks next known with ⟨last, kept, equal⟩
  exact ⟨last, kept, equal.trans same⟩

theorem mem_mapped {change : Task → Task} {row : Task}
    (rows : after.tasks.rows = before.tasks.rows.map change)
    (there : row ∈ before.tasks) : change row ∈ after.tasks := by
  rw [← Table.mem_rows, rows]
  exact List.mem_map_of_mem there

theorem keeps_mapped {change : Task → Task}
    (mapped : TasksMapped change before after)
    (same : ∀ row ∈ before.tasks, (change row).id = row.id) :
    Keeps before after :=
  ⟨fun row there => ⟨change row, mem_mapped mapped.rows there, same row there⟩,
    mapped.taskEvents ▸ List.prefix_rfl⟩

theorem keeps_logged {entry : TaskEvent} (logged : Logged entry before after) :
    Keeps before after := by
  refine ⟨fun row there => ⟨row, logged.tasks ▸ there, rfl⟩, ?_⟩
  rw [logged.taskEvents, List.map_append]
  exact List.prefix_append _ _

theorem Effect.keeps {host : Host} {notifier : Notifier} {cmd : A2aCommand}
    {sender : String}
    (effect : Effect host notifier cmd sender before after) :
    Keeps before after := by
  cases effect with
  | kept seeded => exact keeps_permitted seeded.permitted
  | noted verb authority named seeded kind logged =>
      exact (keeps_permitted seeded.permitted).trans (keeps_logged logged)
  | moved authority named transition seeded mapped recorded =>
      have moves := keeps_mapped mapped fun row _ => taskChange_id _ row
      refine (keeps_permitted seeded.permitted).trans (moves.trans ?_)
      cases recorded with
      | nothing same => exact same ▸ keeps_same rfl rfl
      | event kind logged => exact keeps_logged logged
  | finished authority named finish seeded mapped about typed log promoted =>
      have done := keeps_mapped mapped fun row _ => taskChange_id _ row
      refine (keeps_permitted seeded.permitted).trans
        (done.trans ((keeps_logged log).trans
          (keeps_mapped promoted fun row _ => ?_)))
      rw [promotedRow]
      split
      · rfl
      · rfl
  | output verb authority named done complete seeded kind log found result =>
      rw [result]
      exact (keeps_permitted seeded.permitted).trans
        ((keeps_logged log).trans (keeps_same rfl rfl))
  | created verb authority seeded requested added =>
      refine (keeps_permitted seeded.permitted).trans
        ⟨fun row there => ⟨row, ?_, rfl⟩, added.taskEvents ▸ List.prefix_rfl⟩
      rw [← Table.mem_rows, added.tasks]
      exact List.mem_append_left _ there
  | refreshed verb authority found asked written permissions =>
      have only := upsertMembers_only written
      have enlists : Keeps before _ := keeps_same only.tasks only.taskEvents
      exact enlists.trans (keeps_permitted permissions.permitted)
  | @reopened boardId _ _ _ _ verb authority seeded found awaiting mapped others
      own result =>
      rw [result]
      refine (keeps_permitted seeded.permitted).trans
        ((keeps_mapped mapped fun row there => ?_).trans (keeps_same rfl rfl))
      rw [seeded.permitted.tasks] at there
      by_cases same : row.boardId = boardId
      · rcases own row there same with ⟨now, becomes⟩
        rw [becomes]
        cases reopenedStatus _ (taskFromRow row) with
        | none => rfl
        | some status => rfl
      · rw [others row there same]

theorem Touched.keeps (touched : Touched settings event boardId before after) :
    Keeps before after := by
  cases touched with
  | idle => exact keeps_same rfl rfl
  | founded founded => exact keeps_same founded.tasks.1 founded.tasks.2
  | commanded carried found current effect => exact effect.keeps
  | confirmed confirms => exact keeps_same rfl rfl
  | requested migrated seeds effect =>
      refine Keeps.trans ?_ ((keeps_permitted seeds.permitted).trans effect.keeps)
      cases migrated with
      | kept same => exact same ▸ keeps_same rfl rfl
      | hashed same => exact same ▸ keeps_same rfl rfl
  | swept swept =>
      rcases swept.mapped with ⟨change, mapped, each⟩
      refine keeps_mapped mapped fun row there => ?_
      rcases each row there with same | ⟨_, blocked⟩
      · rw [same]
      · rw [blocked]
  | archived archived => exact keeps_same archived.tasks archived.taskEvents
  | @renamed old new _ _ different =>
      have relabelled := renamedFile_relabelled settings old new before
      rcases relabelled.tasks with ⟨change, rows, same⟩
      rcases relabelled.taskEvents with ⟨relabel, entries, equal⟩
      refine ⟨fun row there => ⟨_, mem_mapped rows there, (same row).id⟩, ?_⟩
      have unchanged : TaskEvent.origin ∘ relabel = TaskEvent.origin := by
        funext entry
        have kept := equal entry
        rw [TaskEvent.SameButActor] at kept
        have same := congrArg TaskEvent.origin kept
        exact same
      refine ⟨[], ?_⟩
      rw [List.append_nil, entries, List.map_map, unchanged]

def Task.origin (row : Task) : String × String × String × List String ×
    List String × String :=
  (row.id, row.shortId, row.boardId, row.parentIds, row.tags, row.createdAt)

theorem EventStep.origin {row row' : Task}
    (step : EventStep settings boardId before after row event row') :
    row'.origin = row.origin := by
  cases step with
  | commanded carried found current step =>
      cases step with
      | moved authority named transition =>
          cases transition with
          | _ => rfl
      | finished authority named finish =>
          cases finish with
          | _ => rfl
      | _ => rfl
  | renamed different same =>
      rw [Task.SameButAddresses] at same
      have equal := congrArg Task.origin same
      exact equal
  | _ => rfl

/-- Each task of each board goes on as the same task, and events are only added
at the end of its log. -/
structure Persist (before after : Gateway) : Prop where
  tasks : ∀ boardId, ∀ row ∈ (before.files boardId).tasks,
    ∃ row' ∈ (after.files boardId).tasks, row'.origin = row.origin
  events : ∀ boardId,
    (before.files boardId).taskEvents.map TaskEvent.origin <+:
      (after.files boardId).taskEvents.map TaskEvent.origin

theorem Step.persist {gateway next : Gateway}
    (step : Step settings gateway event next) : Persist gateway next := by
  rw [Step] at step
  subst step
  have touched := advance_touches settings event gateway
  refine ⟨fun boardId row there => ?_, fun boardId =>
    (touched boardId).keeps.events⟩
  rcases (touched boardId).keeps.tasks row there with ⟨row', kept, same⟩
  exact ⟨row', kept, ((touched boardId).step there kept same).origin⟩

/-- In every run, from any state and over any events, a stored task stays: on
its board, under its ids and with its parents, and the log of its board. -/
theorem files_persist (settings : Settings) {events : List Event}
    {first last : Gateway} (run : Run (Step settings) first events last) :
    Persist first last := by
  refine run.relates ?_ ?_ fun _ _ _ step => Step.persist step
  · exact fun _ => ⟨fun _ row there => ⟨row, there, rfl⟩, fun _ => List.prefix_rfl⟩
  · intro start middle finish earlier later
    refine ⟨fun boardId row there => ?_, fun boardId =>
      (earlier.events boardId).trans (later.events boardId)⟩
    rcases earlier.tasks boardId row there with ⟨next, known, same⟩
    rcases later.tasks boardId next known with ⟨final, kept, equal⟩
    exact ⟨final, kept, equal.trans same⟩

open Trial in
/-- The one task of the board and its log stay when it is completed. -/
theorem files_persist_done :
    ((reached [teamDocument, plainTask] (doneInTime.take 2)).files
      demoBoard).tasks.rows.length = 1 ∧
    Persist (reached [teamDocument, plainTask] (doneInTime.take 2))
      (reached [teamDocument, plainTask] doneInTime) := by
  have run : Run (Step (configured [teamDocument, plainTask]))
      (reached [teamDocument, plainTask] (doneInTime.take 2))
      (doneInTime.drop 2)
      (reached [teamDocument, plainTask] doneInTime) := .cons rfl (.nil _)
  exact ⟨by decide +kernel, files_persist _ run⟩

/-! ## Requests -/

def KeptOrStarted (row row' : Task) : Prop :=
  row' = row ∨
    ((taskFromRow row).status = .ready ∨
      (taskFromRow row).status = .running) ∧
    ∃ now, row' = { taskFromRow row with
      status := .running, updatedAt := now }

theorem Effect.heartbeat_boards {host : Host} {notifier : Notifier}
    {taskId sender : String}
    (effect : Effect host notifier (heartbeatCommand taskId) sender before
      after) : after.boards = before.boards := by
  cases effect with
  | kept seeded => exact seeded.permitted.boards
  | moved authority named transition seeded mapped recorded =>
      have moves := mapped.boards.trans seeded.permitted.boards
      cases recorded with
      | nothing same => exact same ▸ moves
      | event kind logged => exact logged.boards.trans moves
  | finished authority named finish =>
      have verb := finish.verb
      simp [heartbeatCommand] at verb
  | noted verb => simp [heartbeatCommand] at verb
  | output verb => simp [heartbeatCommand] at verb
  | created verb => simp [heartbeatCommand] at verb
  | refreshed verb => simp [heartbeatCommand] at verb
  | reopened verb => simp [heartbeatCommand] at verb

/-- The boards are as they were, and no task is new or changed but by a start. -/
structure OnlyStarts (before after : BoardDb) : Prop where
  boards : after.boards = before.boards
  tasks : ∀ row' ∈ after.tasks, ∃ row ∈ before.tasks, KeptOrStarted row row'

theorem Touched.onlyStarts {segment memberEmail token : String}
    {request : Handlers.Request}
    (touched : Touched settings (.request segment memberEmail token request)
      boardId before after) : OnlyStarts before after := by
  constructor
  · cases touched with
    | idle => rfl
    | requested migrated seeds effect =>
        exact effect.heartbeat_boards.trans
          (seeds.permitted.boards.trans migrated.boards)
  · intro row' there
    rcases touched.rows there with ⟨row, known, _, step⟩ | ⟨_, _, _, mail, _⟩
    · refine ⟨row, known, ?_⟩
      cases step with
      | kept => exact .inl rfl
      | started runnable => exact .inr ⟨runnable, _, rfl⟩
    · cases mail

/-- A request over HTTP, whoever sends it, at most starts tasks. -/
theorem requests_start (settings : Settings)
    (segment memberEmail token : String) (request : Handlers.Request)
    (gateway : Gateway) (boardId : String) :
    OnlyStarts (gateway.files boardId)
      ((advance settings (.request segment memberEmail token request)
        gateway).files boardId) :=
  (advance_touches settings _ gateway boardId).onlyStarts

end AimailGateway.Board
