import AimailGateway.Board.HandlerEffects
import AimailGateway.Board.Runs

/-! # Tasks through their storage

A status is written by one function and read by another, and the insert and
update statements name different columns. This says which tasks are read back
as they were written, and what the verbs on one field keep of the others.
-/

namespace AimailGateway.Board

open Library Fallible Commands BoardDb

namespace TaskStorage

/-- The status has a text that is read back. -/
def Reads (status : TaskStatus) : Prop :=
  status ≠ .triage ∧ status ≠ .archived

theorem parse_toText_iff {status : TaskStatus} :
    parseTaskStatus status.toText = status ↔ Reads status := by
  rw [parseTaskStatus_toText, Reads]
  cases status <;> simp

theorem taskFromRow_eq_iff {row : Task} :
    taskFromRow row = row ↔ Reads row.status := by
  rw [← parse_toText_iff]
  constructor
  · intro same
    exact congrArg Task.status same
  · intro same
    rw [taskFromRow, same]

/-! ## Insert and update -/

/-- What the columns of an insert keep. -/
structure Insertable (task : Task) : Prop where
  status : Reads task.status
  completedAt : task.completedAt = none
  cancelledAt : task.cancelledAt = none
  deadline : task.deadline = none

/-- What the columns of an update keep: there is a row of the task, and it has
the values that an update does not set. -/
structure Updatable (db : BoardDb) (task : Task) : Prop where
  status : Reads task.status
  row : ∃ row ∈ db.tasks, row.id = task.id ∧ row.shortId = task.shortId ∧
    row.boardId = task.boardId ∧ row.createdBy = task.createdBy ∧
    row.createdAt = task.createdAt

section Statements

variable {host : Host} {world after : BoardWorld} {task : Task}

/-- `get_task` of a full id answers with what the only row of the id is
read as. -/
theorem getTask_row {row : Task} (there : row ∈ world.db.tasks) :
    (Command.run host (Store.getTask row.id) world).1 =
      .ok (taskFromRow row) := by
  have ends : (Command.run host (Store.getTask row.id)).Ends
      (fun read _ => read = taskFromRow row) (fun _ _ => False) world := by
    rw [Store.ends_getTask, lookupTask, findTask_of_mem there, Option.some_or]
    exact ⟨fun read same => (Option.some_inj.mp same).symm, by rintro ⟨⟩⟩
  rw [Action.Ends] at ends
  split at ends
  · next value next run =>
      rw [run, ends]
  · exact ends.elim

theorem getTask_of_absent {taskId : String} {read : Task}
    (absent : ∀ row ∈ world.db.tasks, row.id ≠ taskId)
    (found : (Command.run host (Store.getTask taskId) world).1 = .ok read) :
    read.id ≠ taskId := by
  have ends : (Command.run host (Store.getTask taskId)).Ends
      (fun task _ => task.id ≠ taskId) (fun _ _ => True) world := by
    rw [Store.ends_getTask]
    refine ⟨fun task looked => ?_, fun _ => trivial⟩
    obtain ⟨row, there, rfl⟩ := lookupTask_spec looked
    rw [taskFromRow_id]
    exact absent row there
  rw [Action.Ends] at ends
  split at ends
  · next value next run =>
      rw [run] at found
      cases found
      exact ends
  · next error next run =>
      rw [run] at found
      cases found

theorem createTask_inserted
    (created : Command.run host (Store.createTask task) world = (.ok (), after)) :
    insertedTask task ∈ after.db.tasks := by
  have ends : (Command.run host (Store.createTask task)).Ends
      (fun _ next => insertedTask task ∈ next.db.tasks) (fun _ _ => True)
      world := by
    rw [Store.ends_createTask]
    refine ⟨fun db inserted => ?_, fun _ _ => trivial⟩
    change insertedTask task ∈ db.tasks
    rw [← Table.mem_rows, (insertTask_added inserted).tasks]
    exact List.mem_append_right _ (List.mem_singleton_self _)
  rw [Action.Ends, created] at ends
  exact ends

theorem createTask_reads_iff
    (created : Command.run host (Store.createTask task) world = (.ok (), after)) :
    (Command.run host (Store.getTask task.id) after).1 = .ok task ↔
      Insertable task := by
  have read : (Command.run host (Store.getTask task.id) after).1 =
      .ok (taskFromRow (insertedTask task)) :=
    getTask_row (createTask_inserted created)
  rw [read, Except.ok.injEq]
  constructor
  · intro same
    exact ⟨parse_toText_iff.mp (congrArg Task.status same),
      (congrArg Task.completedAt same).symm,
      (congrArg Task.cancelledAt same).symm,
      (congrArg Task.deadline same).symm⟩
  · rintro ⟨status, completedAt, cancelledAt, deadline⟩
    have inserted : insertedTask task = task := by
      rcases task with ⟨_, _, _, _, _, _, _, _, _, _, _, _, _, _, _, _, _, _⟩
      cases completedAt
      cases cancelledAt
      cases deadline
      rfl
    rw [inserted, taskFromRow_eq_iff.mpr status]

theorem updateTask_rows
    (updated : Command.run host (Store.updateTask task) world =
      (.ok (), after)) :
    TasksMapped (taskChange task) world.db after.db := by
  have ends : (Command.run host (Store.updateTask task)).Ends
      (fun _ next => TasksMapped (taskChange task) world.db next.db)
      (fun _ _ => True) world := by
    rw [Store.ends_updateTask]
    exact ⟨fun db changed => updateTask_mapped changed, fun _ _ => trivial⟩
  rw [Action.Ends, updated] at ends
  exact ends

theorem updateTask_reads_iff
    (updated : Command.run host (Store.updateTask task) world =
      (.ok (), after)) :
    (Command.run host (Store.getTask task.id) after).1 = .ok task ↔
      Updatable world.db task := by
  have mapped := updateTask_rows updated
  by_cases known : ∃ row ∈ world.db.tasks, row.id = task.id
  · obtain ⟨row, there, same⟩ := known
    have changed : taskChange task row ∈ after.db.tasks :=
      mapped.mem.mpr ⟨row, there, rfl⟩
    have read : (Command.run host (Store.getTask (taskChange task row).id)
        after).1 = .ok (taskFromRow (taskChange task row)) :=
      getTask_row changed
    rw [taskChange_id, same, taskChange, if_pos same] at read
    rw [read, Except.ok.injEq]
    constructor
    · intro equal
      have status := congrArg Task.status equal
      have short := congrArg Task.shortId equal
      have board := congrArg Task.boardId equal
      have creator := congrArg Task.createdBy equal
      have created := congrArg Task.createdAt equal
      exact ⟨parse_toText_iff.mp status, row, there, same, short, board,
        creator, created⟩
    · rintro ⟨status, other, inside, sameId, short, board, creator, created⟩
      have only : other = row := Tasks.eq_of_id inside there (sameId.trans same.symm)
      subst only
      have whole := taskFromRow_eq_iff.mpr status
      rw [sameId, short, board, creator, created]
      exact whole
  · constructor
    · intro read
      have absent : ∀ row ∈ after.db.tasks, row.id ≠ task.id := by
        intro row there same
        obtain ⟨before, inside, rfl⟩ := mapped.mem.mp there
        rw [taskChange_id] at same
        exact known ⟨before, inside, same⟩
      exact absurd rfl (getTask_of_absent absent read)
    · rintro ⟨-, row, there, same, -⟩
      exact absurd ⟨row, there, same⟩ known

end Statements

theorem names_unique {db : BoardDb} {cmd : A2aCommand} {first second : Task}
    (named : Names db cmd first) (other : Names db cmd second) :
    second = first := by
  obtain ⟨taskRef, given, found⟩ := named
  obtain ⟨otherRef, otherGiven, otherFound⟩ := other
  rw [given, Option.some_inj] at otherGiven
  rw [← otherGiven, found, Option.some_inj] at otherFound
  exact otherFound.symm

/-! ## Verbs on one field -/

inductive FieldVerb where
  | edit
  | deadline
  | progress
  | reassign
  deriving DecidableEq, Repr

def FieldVerb.handler (host : Host) (cmd : A2aCommand) (sender : String) :
    FieldVerb → Command CommandResponse
  | edit => handleEdit cmd sender
  | deadline => handleDeadline host cmd sender
  | progress => handleContinue cmd sender
  | reassign => handleReassign cmd sender

/-- The row with the fields of the verb and the time of the change from
another. -/
def FieldVerb.edited (row other : Task) : FieldVerb → Task
  | edit =>
      { row with
        title := other.title
        body := other.body
        updatedAt := other.updatedAt }
  | deadline =>
      { row with deadline := other.deadline, updatedAt := other.updatedAt }
  | progress =>
      { row with summary := other.summary, updatedAt := other.updatedAt }
  | reassign =>
      { row with assignee := other.assignee, updatedAt := other.updatedAt }

theorem FieldVerb.edited_self (verb : FieldVerb) (row : Task) :
    verb.edited row row = row := by
  cases verb <;> rfl

theorem FieldVerb.edited_status (verb : FieldVerb) (row other : Task) :
    (verb.edited row other).status = row.status := by
  cases verb <;> rfl

theorem FieldVerb.edited_id (verb : FieldVerb) (row other : Task) :
    (verb.edited row other).id = row.id := by
  cases verb <;> rfl

/-- The verb changes nothing of a task but its own fields. -/
def FieldVerb.ChangesOnly (verb : FieldVerb) (before after : BoardDb) : Prop :=
  ∀ row ∈ before.tasks, ∀ other ∈ after.tasks, other.id = row.id →
    other = verb.edited row other

/-- The stored task that the command names has a status that is read back. -/
def NamesReadable (db : BoardDb) (cmd : A2aCommand) : Prop :=
  ∀ row ∈ db.tasks, Names db cmd (taskFromRow row) → Reads row.status

section Verbs

variable {host : Host} {cmd : A2aCommand} {sender : String}
  {world : BoardWorld} {before : BoardDb} {verb : FieldVerb}

/-- A command that succeeds has written the named task back with new fields of
the verb. -/
def Edits (verb : FieldVerb) (before : BoardDb) (cmd : A2aCommand)
    (host : Host) (command : Command α) (world : BoardWorld) : Prop :=
  (Command.run host command).Ends
    (fun _ next => ∃ task updated, Names before cmd task ∧
      updated = verb.edited task updated ∧
      next.db.tasks.rows = before.tasks.rows.map (taskChange updated))
    (fun _ _ => True) world

def LeavesTasks (host : Host) (command : Command α) : Prop :=
  ∀ world : BoardWorld, (Command.run host command).Ends
    (fun _ next => next.db.tasks = world.db.tasks) (fun _ _ => True) world

theorem leavesTasks_return (value : α) :
    LeavesTasks host (pure value : Command α) :=
  fun _ => rfl

theorem leavesTasks_event {event : TaskEvent} (value : α) :
    LeavesTasks host (Store.insertEvent event >>= fun _ => pure value) := by
  intro world
  rw [Command.ends_sequence, Store.ends_insertEvent]
  exact ⟨fun db inserted => (insertEvent_logged inserted).tasks,
    fun _ _ => trivial⟩

theorem edits_update {task updated : Task} {rest : Unit → Command α}
    (named : Names before cmd task) (only : updated = verb.edited task updated)
    (same : world.db.tasks = before.tasks)
    (leaves : LeavesTasks host (rest ())) :
    Edits verb before cmd host (Store.updateTask updated >>= rest) world := by
  rw [Edits, Command.ends_sequence, Store.ends_updateTask]
  refine ⟨fun db changed => ?_, fun _ _ => trivial⟩
  have mapped := updateTask_mapped changed
  refine (leaves (world.withDb db)).mono ?_ fun _ _ _ => trivial
  intro _ next kept
  refine ⟨task, updated, named, only, ?_⟩
  rw [kept, ← same]
  exact mapped.rows

theorem edits_role {name : String} {rest : String → Task → Command α}
    (continues : ∀ taskId task next, Names world.db cmd task →
      next.db.tasks = world.db.tasks →
        Edits verb world.db cmd host (rest taskId task) next) :
    Edits verb world.db cmd host
      (extractTaskId cmd >>= fun taskId =>
        Store.getTask taskId >>= fun task =>
          requireRole task.boardId sender name >>= fun _ =>
            rest taskId task) world := by
  rw [Edits, Command.ends_sequence, ends_extractTaskId]
  refine ⟨fun taskId given => ?_, fun _ => trivial⟩
  rw [Command.ends_sequence, Store.ends_getTask]
  refine ⟨fun task found => ?_, fun _ => trivial⟩
  rw [Command.ends_sequence, ends_requireRole]
  refine ⟨fun member _ => ⟨fun _ => ?_, fun _ => trivial⟩, fun _ => trivial⟩
  have seeded : Seeded world.db (world.db.checked member.role) :=
    seeded_self.checked member.role
  exact continues taskId task _ ⟨taskId, given, found⟩ seeded.permitted.tasks

theorem edits_utcNow {rest : String → Command α}
    (continues : ∀ now next, next.db = world.db →
      Edits verb before cmd host (rest now) next) :
    Edits verb before cmd host (Store.utcNow >>= rest) world := by
  rw [Edits, Command.ends_sequence, Store.ends_utcNow]
  exact continues _ world.tock rfl

theorem edits_fail {error : AppError} :
    Edits verb before cmd host (fail error : Command α) world :=
  trivial

theorem handleEdit_edits :
    Edits .edit world.db cmd host (handleEdit cmd sender) world := by
  rw [handleEdit]
  apply edits_role
  intro taskId task next named same
  apply edits_utcNow
  intro now later equal
  exact edits_update named rfl (by rw [equal, same]) (leavesTasks_return _)

theorem handleDeadline_edits :
    Edits .deadline world.db cmd host (handleDeadline host cmd sender) world := by
  rw [handleDeadline]
  apply edits_role
  intro taskId task next named same
  dsimp only
  split
  · exact edits_fail
  · split
    · exact edits_fail
    · apply edits_utcNow
      intro now later equal
      exact edits_update named rfl (by rw [equal, same]) (leavesTasks_return _)

theorem handleContinue_edits :
    Edits .progress world.db cmd host (handleContinue cmd sender) world := by
  rw [handleContinue]
  apply edits_role
  intro taskId task next named same
  rw [Edits, Command.ends_sequence, ends_requireAssignee]
  refine ⟨fun _ => ?_, fun _ => trivial⟩
  rw [← Edits]
  dsimp only
  split
  · exact edits_fail
  · apply edits_utcNow
    intro now later equal
    exact edits_update named rfl (by rw [equal, same]) (leavesTasks_event _)

theorem handleReassign_edits :
    Edits .reassign world.db cmd host (handleReassign cmd sender) world := by
  rw [handleReassign]
  apply edits_role
  intro taskId task next named same
  dsimp only
  split
  · exact edits_fail
  · rw [Edits, Command.ends_sequence, Store.ends_getMember]
    cases next.db.findMember task.boardId ((strParam cmd "assignee").getD "") with
    | none => trivial
    | some _ =>
        rw [← Edits]
        apply edits_utcNow
        intro now later equal
        exact edits_update named rfl (by rw [equal, same]) (leavesTasks_return _)

theorem handler_edits (verb : FieldVerb) :
    Edits verb world.db cmd host (verb.handler host cmd sender) world := by
  cases verb with
  | edit => exact handleEdit_edits
  | deadline => exact handleDeadline_edits
  | progress => exact handleContinue_edits
  | reassign => exact handleReassign_edits

theorem handler_changesOnly_iff {response : CommandResponse}
    {after : BoardWorld}
    (run : Command.run host (verb.handler host cmd sender) world =
      (.ok response, after)) :
    verb.ChangesOnly world.db after.db ↔ NamesReadable world.db cmd := by
  have edits : Edits verb world.db cmd host (verb.handler host cmd sender)
      world :=
    handler_edits verb
  rw [Edits, Action.Ends, run] at edits
  obtain ⟨task, updated, named, only, rows⟩ := edits
  have member : ∀ other, other ∈ after.db.tasks ↔
      ∃ row ∈ world.db.tasks, taskChange updated row = other := by
    intro other
    rw [← Table.mem_rows, rows, List.mem_map]
    rfl
  have sameId : updated.id = task.id := by
    rw [only, FieldVerb.edited_id]
  constructor
  · intro changes row there found
    have equal : taskFromRow row = task := names_unique named found
    have rowId : row.id = updated.id := by
      rw [sameId, ← equal, taskFromRow_id]
    have kept := changes row there (taskChange updated row)
      ((member _).mpr ⟨row, there, rfl⟩) (taskChange_id updated row)
    have status := congrArg Task.status kept
    rw [FieldVerb.edited_status, taskChange, if_pos rowId, only,
      FieldVerb.edited_status, ← equal] at status
    exact parse_toText_iff.mp status
  · intro readable row there other changed same
    obtain ⟨origin, inside, rfl⟩ := (member other).mp changed
    rw [taskChange_id] at same
    have equal : origin = row := Tasks.eq_of_id inside there same
    subst equal
    by_cases target : origin.id = updated.id
    · have read : taskFromRow origin = task :=
        named.eq_row there (target.trans sameId)
      have whole : taskFromRow origin = origin :=
        taskFromRow_eq_iff.mpr (readable origin there (by rw [read]; exact named))
      rw [← read, whole] at only
      rw [taskChange, if_pos target, only]
      cases verb <;> rfl
    · rw [taskChange, if_neg target, FieldVerb.edited_self]

end Verbs

end TaskStorage

open TaskStorage in
theorem taskStorage_exact (host : Host) (world : BoardWorld) :
    (∀ task created,
      Command.run host (Store.createTask task) world = (.ok (), created) →
        ((Command.run host (Store.getTask task.id) created).1 = .ok task ↔
          Insertable task)) ∧
    (∀ task updated,
      Command.run host (Store.updateTask task) world = (.ok (), updated) →
        ((Command.run host (Store.getTask task.id) updated).1 = .ok task ↔
          Updatable world.db task)) ∧
    ∀ (verb : FieldVerb) cmd sender response after,
      Command.run host (verb.handler host cmd sender) world =
          (.ok response, after) →
        (verb.ChangesOnly world.db after.db ↔ NamesReadable world.db cmd) :=
  ⟨fun _ _ => createTask_reads_iff, fun _ _ => updateTask_reads_iff,
    fun _ _ _ _ _ => handler_changesOnly_iff⟩

namespace TaskStorage

/-! A board with one member, and a task of that member. -/

def soleBoard : BoardRecord where
  id := "b1"
  shortId := "proj1"
  boardEmail := "proj1.a2a@x.org"
  goal := none
  status := .active
  outputTaskId := none
  planVersion := none
  planText := none
  planConfirmedAt := none
  criteriaVersion := none
  criteriaText := none
  criteriaConfirmedAt := none
  createdAt := "2026-01-01T00:00:00+00:00"
  completedAt := none
  systemId := none

def soleMember : Member where
  email := "work@x.org"
  role := "worker"
  displayName := "work@x.org"
  boardId := "b1"
  boardToken := none
  boardTokenSalt := none
  joinedAt := none
  domains := none
  capabilitySnapshot := none

def triagedTask : Task where
  id := "t_T1_b1"
  shortId := "T1"
  boardId := "b1"
  title := "Plan"
  body := ""
  status := .triage
  assignee := "work@x.org"
  reviewer := none
  parentIds := []
  tags := []
  summary := ""
  metadata := none
  createdBy := "orch@x.org"
  createdAt := "2026-01-01T00:00:00+00:00"
  updatedAt := "2026-01-01T00:00:00+00:00"
  completedAt := none
  cancelledAt := none
  deadline := none

def staffed : BoardWorld :=
  (Command.run Trial.host (Store.createBoard soleBoard >>= fun _ =>
    Store.upsertMember soleMember) ⟨BoardDb.empty, 0⟩).2

/-- A task in triage is created, and read back as one to do. -/
theorem triage_reads_todo :
    (Command.run Trial.host (Store.createTask triagedTask) staffed).1 =
        .ok () ∧
      ((Command.run Trial.host (Store.getTask "t_T1_b1")
        (Command.run Trial.host (Store.createTask triagedTask) staffed).2).1).toOption.map
          Task.status = some .todo ∧
      ¬ ∀ task created, Command.run Trial.host (Store.createTask task) staffed =
          (.ok (), created) →
        (Command.run Trial.host (Store.getTask task.id) created).1 = .ok task := by
  have created : (Command.run Trial.host (Store.createTask triagedTask)
      staffed).1 = .ok () := by
    decide +kernel
  have read : ((Command.run Trial.host (Store.getTask "t_T1_b1")
      (Command.run Trial.host (Store.createTask triagedTask) staffed).2).1).toOption.map
        Task.status = some .todo := by
    decide +kernel
  refine ⟨created, read, fun same => ?_⟩
  have whole := same triagedTask
    (Command.run Trial.host (Store.createTask triagedTask) staffed).2
    (Prod.ext created rfl)
  rw [show triagedTask.id = "t_T1_b1" from rfl] at whole
  rw [whole] at read
  cases read

end TaskStorage

end AimailGateway.Board
