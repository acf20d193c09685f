import AimailGateway.Board.Outcomes

/-! # What a command does to its board

Every run of a command, whether it succeeds or fails, has one of a few effects
on the database. What is proved of commands later is proved by these cases and
never looks at the handlers.
-/

namespace AimailGateway.Board

open Library Fallible Commands

/-! ## Rows of tasks -/

@[simp] theorem taskFromRow_id (row : Task) : (taskFromRow row).id = row.id :=
  rfl

@[simp] theorem taskFromRow_boardId (row : Task) :
    (taskFromRow row).boardId = row.boardId :=
  rfl

theorem status_of_read {row : Task} {status : TaskStatus}
    (read : (taskFromRow row).status = status) (other : status ≠ .todo) :
    row.status = status := by
  rw [taskFromRow, parseTaskStatus_toText] at read
  split at read
  · exact absurd read.symm other
  · exact read

namespace BoardDb

variable {db after : BoardDb} {role taskRef : String} {task : Task}
  {boardId : String} {first second : Task → Task}

@[simp] theorem checked_boards : (db.checked role).boards = db.boards :=
  checked_permitted.boards

@[simp] theorem checked_members : (db.checked role).members = db.members :=
  checked_permitted.members

@[simp] theorem checked_tasks : (db.checked role).tasks = db.tasks :=
  checked_permitted.tasks

@[simp] theorem checked_findBoard :
    (db.checked role).findBoard boardId = db.findBoard boardId := by
  simp only [findBoard, checked_boards]

@[simp] theorem checked_listTasks
    {status assignee : Option String} :
    (db.checked role).listTasks boardId status assignee =
      db.listTasks boardId status assignee := by
  simp only [listTasks, checked_tasks]

@[simp] theorem checked_unfinished :
    (db.checked role).unfinished boardId = db.unfinished boardId := by
  simp only [unfinished, checked_tasks]

theorem findBoard_of_owned {row : Task} (there : row ∈ db.tasks) :
    ∃ board, db.findBoard row.boardId = some board := by
  rcases db.owned row there with ⟨board, known, same⟩
  cases search : db.findBoard row.boardId with
  | some found => exact ⟨found, rfl⟩
  | none =>
      have absent := Table.find?_eq_none.mp search board known
      exact absurd same (by simpa using absent)

theorem findMember_spec {boardId email : String} {member : Member}
    (found : db.findMember boardId email = some member) :
    member ∈ db.members ∧ member.boardId = boardId ∧ member.email = email := by
  have searched := Table.mem_of_find? found
  rw [Bool.and_eq_true, beq_iff_eq, beq_iff_eq] at searched
  exact searched

theorem lookupTask_spec (found : db.lookupTask taskRef = some task) :
    ∃ row ∈ db.tasks, taskFromRow row = task := by
  rw [lookupTask, Option.or_eq_some_iff] at found
  rcases found with byId | ⟨_, byShortId⟩
  · rcases Option.map_eq_some_iff.mp byId with ⟨row, searched, read⟩
    exact ⟨row, (Table.mem_of_find? searched).1, read⟩
  · rcases Option.map_eq_some_iff.mp byShortId with ⟨row, searched, read⟩
    exact ⟨row, (Table.mem_of_find? searched).1, read⟩

theorem findTask_of_mem {row : Task} (there : row ∈ db.tasks) :
    db.findTask row.id = some (taskFromRow row) := by
  have found : db.tasks.find? (·.id == row.id) = some row :=
    Table.find?_eq_some_of_mem Task.conflict_comm (fun _ same => same) there
      (beq_self_eq_true row.id)
  rw [findTask, found, Option.map_some]

theorem lookupTask_id (found : db.lookupTask taskRef = some task) :
    db.lookupTask task.id = some task := by
  rcases lookupTask_spec found with ⟨row, there, read⟩
  subst read
  rw [lookupTask, taskFromRow_id, findTask_of_mem there, Option.some_or]

/-! ## Updates of tasks -/

theorem taskChange_other {task row : Task} (other : row.id ≠ task.id) :
    taskChange task row = row :=
  if_neg other

theorem taskChange_read (row : Task) (status : TaskStatus) :
    taskChange { taskFromRow row with status } row = { row with status } :=
  if_pos rfl

/-- Only task rows differ, each one changed in place. -/
structure TasksMapped (change : Task → Task) (before after : BoardDb) : Prop where
  boards : after.boards = before.boards
  members : after.members = before.members
  taskEvents : after.taskEvents = before.taskEvents
  rolePermissions : after.rolePermissions = before.rolePermissions
  rows : after.tasks.rows = before.tasks.rows.map change

theorem TasksMapped.trans {middle : BoardDb}
    (earlier : TasksMapped first db middle)
    (later : TasksMapped second middle after) :
    TasksMapped (fun row => second (first row)) db after where
  boards := later.boards.trans earlier.boards
  members := later.members.trans earlier.members
  taskEvents := later.taskEvents.trans earlier.taskEvents
  rolePermissions := later.rolePermissions.trans earlier.rolePermissions
  rows := by
    rw [later.rows, earlier.rows, List.map_map]
    rfl

theorem TasksMapped.congr {db after : BoardDb}
    (mapped : TasksMapped first db after)
    (equal : ∀ row ∈ db.tasks, first row = second row) :
    TasksMapped second db after where
  boards := mapped.boards
  members := mapped.members
  taskEvents := mapped.taskEvents
  rolePermissions := mapped.rolePermissions
  rows := by
    rw [mapped.rows]
    exact List.map_congr_left equal

theorem TasksMapped.mem {change : Task → Task} {row : Task}
    (mapped : TasksMapped change db after) :
    row ∈ after.tasks ↔ ∃ before ∈ db.tasks, change before = row := by
  rw [← Table.mem_rows, mapped.rows, List.mem_map]
  rfl

theorem updateTask_mapped (updated : db.updateTask task = .ok after) :
    TasksMapped (taskChange task) db after := by
  rw [updateTask] at updated
  split at updated
  · split at updated
    · cases updated
      exact ⟨rfl, rfl, rfl, rfl, rfl⟩
    · cases updated
  · next absent =>
      cases updated
      refine ⟨rfl, rfl, rfl, rfl, ?_⟩
      have kept : ∀ row ∈ db.tasks.rows, taskChange task row = row := by
        intro row there
        rw [taskChange, if_neg]
        intro same
        exact absent (hasTask_iff.mpr ⟨row, there, same⟩)
      rw [List.map_congr_left kept, List.map_id']

theorem updateTask_ok (known : db.isMember task.assignee = true) :
    ∃ after, db.updateTask task = .ok after := by
  rw [updateTask]
  split
  · exact ⟨_, rfl⟩
  · exact ⟨db, rfl⟩

theorem touchTask_mapped {taskId now : String} :
    TasksMapped (touchChange taskId now) db (db.touchTask taskId now) :=
  ⟨rfl, rfl, rfl, rfl, rfl⟩

/-! ## Events -/

/-- Only the log of events differs, by one event. -/
structure Logged (event : TaskEvent) (before after : BoardDb) : Prop where
  boards : after.boards = before.boards
  members : after.members = before.members
  tasks : after.tasks = before.tasks
  rolePermissions : after.rolePermissions = before.rolePermissions
  taskEvents : after.taskEvents =
    before.taskEvents ++ [before.insertedEvent event]

theorem insertEvent_logged {event : TaskEvent}
    (inserted : db.insertEvent event = .ok after) : Logged event db after := by
  rw [insertEvent] at inserted
  split at inserted
  · cases inserted
    exact ⟨rfl, rfl, rfl, rfl, rfl⟩
  · cases inserted

theorem insertEvent_ok {event : TaskEvent}
    (known : db.hasTask event.taskId = true) :
    ∃ after, db.insertEvent event = .ok after := by
  rw [insertEvent, dif_pos known]
  exact ⟨_, rfl⟩

/-! ## Members -/

def upsertMembers (db : BoardDb) : List Member → Except AppError BoardDb
  | [] => .ok db
  | member :: rest => do (← db.upsertMember member).upsertMembers rest

end BoardDb

/-! ## Authority -/

/-- The role of the sender on the board is permitted the verb. -/
def Holds (db : BoardDb) (boardId sender verb : String) : Prop :=
  ∃ member, db.findMember boardId sender = some member ∧
    db.permits member.role verb = true

def Names (db : BoardDb) (cmd : A2aCommand) (task : Task) : Prop :=
  ∃ taskRef, cmd.taskId = some taskRef ∧ db.lookupTask taskRef = some task

/-- What lets a sender act on a board, as the handlers check it. -/
inductive Authority (db : BoardDb) (notifier : Notifier) (cmd : A2aCommand)
    (sender : String) : String → Prop where
  | assignee {task : Task}
      (verb : cmd.verb ∈ ["complete", "heartbeat", "block"])
      (named : Names db cmd task) (own : task.assignee = sender) :
      Authority db notifier cmd sender task.boardId
  | reviewer {task : Task} (verb : cmd.verb ∈ ["approve", "verify", "reject"])
      (named : Names db cmd task) (own : task.reviewer = some sender)
      (reviewing : task.status = .reviewing) :
      Authority db notifier cmd sender task.boardId
  | role {task : Task}
      (verb : cmd.verb ∈ ["review", "block", "unblock", "comment", "continue",
        "cancel", "reassign", "edit", "deadline", "output"])
      (named : Names db cmd task)
      (holds : Holds db task.boardId sender cmd.verb) :
      Authority db notifier cmd sender task.boardId
  | assign {task : Task} (verb : cmd.verb = "assign")
      (named : Names db cmd task)
      (holds : Holds db task.boardId sender "reassign") :
      Authority db notifier cmd sender task.boardId
  | board {boardId : String} (verb : cmd.verb ∈ ["create", "reopen"])
      (given : strParam cmd "board_id" = some boardId)
      (holds : Holds db boardId sender cmd.verb) :
      Authority db notifier cmd sender boardId
  | owner {member : Member} (verb : cmd.verb = "refresh")
      (found : db.findMember notifier.boardId sender = some member)
      (owner : member.role = "owner") :
      Authority db notifier cmd sender notifier.boardId

/-- At most the default permissions are added. -/
def Seeded (before after : BoardDb) : Prop :=
  after = before ∨ after = before.seedDefaults

theorem Seeded.checked {before after : BoardDb} (seeded : Seeded before after)
    (role : String) : Seeded before (after.checked role) := by
  rcases seeded with equal | equal
  · subst equal
    rw [BoardDb.checked]
    split
    · exact Or.inr rfl
    · exact Or.inl rfl
  · subst equal
    rw [BoardDb.checked]
    split
    · next unseeded =>
        have known := (BoardDb.seeds_iff.mp unseeded).2
        have present : ∃ entry ∈ Store.defaults, entry.1 = role ∧
            ∃ verb, verb ∈ entry.2 := by
          simp only [Store.knownRoles, List.mem_cons, List.not_mem_nil,
            or_false] at known
          rcases known with equal | equal | equal | equal
          all_goals
            subst equal
            simp [Store.defaults]
        rcases present with ⟨entry, listed, same, verb, verbs⟩
        have row : (role, verb) ∈ before.seedDefaults.rolePermissions := by
          rw [BoardDb.seedDefaults, BoardDb.mem_addRolePermissions]
          exact Or.inr ⟨entry, listed, verb, verbs, by rw [same]⟩
        exact absurd rfl ((BoardDb.seeds_iff.mp unseeded).1 _ row)
    · exact Or.inr rfl

theorem Seeded.permitted {before after : BoardDb}
    (seeded : Seeded before after) : BoardDb.Permitted before after := by
  rcases seeded with equal | equal
  · rw [equal]
    exact .refl before
  · rw [equal]
    exact BoardDb.addRolePermissions_permitted _

/-! ## Effects -/

structure SameTask (before after : Task) : Prop where
  id : after.id = before.id
  shortId : after.shortId = before.shortId
  boardId : after.boardId = before.boardId
  parentIds : after.parentIds = before.parentIds

/-- What a verb makes of the task it names, short of finishing it. -/
inductive Transition (cmd : A2aCommand) (task : Task) : Task → Prop where
  | progress (verb : cmd.verb = "continue") (summary now : String) :
      Transition cmd task { task with summary, updatedAt := now }
  | assign (verb : cmd.verb ∈ ["assign", "reassign"]) (assignee now : String) :
      Transition cmd task { task with assignee, updatedAt := now }
  | edit (verb : cmd.verb = "edit") (title body now : String) :
      Transition cmd task { task with title, body, updatedAt := now }
  | deadline (verb : cmd.verb = "deadline") (deadline now : String) :
      Transition cmd task
        { task with deadline := some deadline, updatedAt := now }
  | submit (verb : cmd.verb = "complete") (reviewed : task.reviewer.isSome)
      (summary now : String) :
      Transition cmd task
        { task with summary, status := .reviewing, updatedAt := now }
  | review (verb : cmd.verb = "review") (reviewer now : String)
      (given : strParam cmd "reviewer" = some reviewer) :
      Transition cmd task
        { task with
          reviewer := some reviewer
          status := .reviewing
          updatedAt := now }
  | reject (verb : cmd.verb = "reject") (reviewing : task.status = .reviewing)
      (now : String) :
      Transition cmd task { task with status := .running, updatedAt := now }
  | block (verb : cmd.verb = "block") (now : String) :
      Transition cmd task { task with status := .blocked, updatedAt := now }
  | unblock (verb : cmd.verb = "unblock") (now : String) :
      Transition cmd task { task with status := .running, updatedAt := now }
  | start (verb : cmd.verb = "heartbeat")
      (runnable : task.status = .ready ∨ task.status = .running)
      (now : String) :
      Transition cmd task { task with status := .running, updatedAt := now }
  | cancel (verb : cmd.verb = "cancel") (blocked : task.status = .blocked)
      (now : String) :
      Transition cmd task
        { task with
          status := .cancelled
          cancelledAt := some now
          updatedAt := now }

theorem Transition.same {cmd : A2aCommand} {task updated : Task}
    (transition : Transition cmd task updated) : SameTask task updated := by
  cases transition with
  | _ => exact ⟨rfl, rfl, rfl, rfl⟩

/-- What finishes a task, and the event that records it. -/
inductive Finish (cmd : A2aCommand) (task : Task) : Task → String → Prop where
  | complete (verb : cmd.verb = "complete") (alone : task.reviewer = none)
      (summary now : String) :
      Finish cmd task
        { task with
          summary
          status := .done
          completedAt := some now
          updatedAt := now } "completed"
  | approve (verb : cmd.verb ∈ ["approve", "verify"])
      (reviewing : task.status = .reviewing) (now : String) :
      Finish cmd task
        { task with
          status := .done
          completedAt := some now
          updatedAt := now } "approved"

theorem Finish.same {cmd : A2aCommand} {task updated : Task} {kind : String}
    (finish : Finish cmd task updated kind) : SameTask task updated := by
  cases finish with
  | _ => exact ⟨rfl, rfl, rfl, rfl⟩

theorem Finish.done {cmd : A2aCommand} {task updated : Task} {kind : String}
    (finish : Finish cmd task updated kind) : updated.status = .done := by
  cases finish with
  | _ => rfl

/-- Nothing is recorded, or one event that is no approval. -/
inductive Records (before after : BoardDb) : Prop where
  | nothing (same : after = before)
  | event {event : TaskEvent} (kind : event.eventType ≠ "approved")
      (logged : BoardDb.Logged event before after)

structure TasksAdded (rows : List Task) (before after : BoardDb) : Prop where
  boards : after.boards = before.boards
  members : after.members = before.members
  taskEvents : after.taskEvents = before.taskEvents
  rolePermissions : after.rolePermissions = before.rolePermissions
  tasks : after.tasks.rows = before.tasks.rows ++ rows

/-- The address is empty or that of a member of the board. -/
def Listed (db : BoardDb) (boardId address : String) : Prop :=
  address = "" ∨ ∃ member, db.findMember boardId address = some member

/-- The rows an entry of a batch asks for. -/
def Requested (host : Host) (cmd : A2aCommand) (db : BoardDb)
    (boardId sender : String) (row : Task) : Prop :=
  ∃ entries, cmd.params.bind (·.getArray? "tasks") = some entries ∧
    ∃ entry ∈ entries, Listed db boardId (assigneeOf entry) ∧
      (∀ reviewer, entry.getStr? "reviewer" = some reviewer →
        Listed db boardId reviewer) ∧
      ∃ shortId ts,
        row = BoardDb.insertedTask (newTask host boardId sender shortId ts entry)

/-- The row of a released child is made ready. -/
def promotedRow (tasks : List Task) (parent row : Task) : Task :=
  if row.boardId = parent.boardId ∧
      isReleased tasks parent (taskFromRow row) = true then
    { row with status := .ready }
  else row

def reopenedIds (db : BoardDb) (boardId : String) : List String :=
  ((db.listTasks boardId none none).filter (·.status = .done)).map (·.shortId)

/-- A member that an entry of a refresh asks for. -/
def Enrolled (cmd : A2aCommand) (boardId : String) (member : Member) : Prop :=
  ∃ entries, cmd.params.bind (·.getArray? "members") = some entries ∧
    ∃ entry ∈ entries, (entry.getStr? "email").getD "" = member.email ∧
      (entry.getStr? "role").getD "worker" = member.role ∧
      member.email ≠ "" ∧ member.role ∈ Store.knownRoles ∧
      member.boardId = boardId

/-- The permissions a refresh asks for. -/
def overrides (cmd : A2aCommand) : Option (List (String × List String)) :=
  (cmd.params.bind (·.getArray? "role_permissions")).map
    fun entries => entries.filterMap permissionEntry

def KnownPermissions (entries : List (String × List String)) : Prop :=
  ∀ entry ∈ entries, entry.1 ∈ Store.knownRoles ∧
    ∀ verb ∈ entry.2, verb ∈ Store.knownVerbs

inductive PermissionsRefreshed (cmd : A2aCommand) (before after : BoardDb) :
    Prop where
  | unreached (same : after = before)
  | seeded (same : after = before.seedDefaults)
  | overridden {entries : List (String × List String)}
      (given : overrides cmd = some entries) (known : KnownPermissions entries)
      (same : after = before.seedDefaults.addRolePermissions entries)

/-- What a command makes of the database. -/
inductive Effect (host : Host) (notifier : Notifier) (cmd : A2aCommand)
    (sender : String) (before after : BoardDb) : Prop where
  | kept (seeded : Seeded before after)
  | noted {task : Task} {event : TaskEvent} {middle : BoardDb}
      (verb : cmd.verb = "comment")
      (authority : Authority before notifier cmd sender task.boardId)
      (named : Names before cmd task) (seeded : Seeded before middle)
      (kind : event.eventType = "comment")
      (logged : BoardDb.Logged event middle after)
  | moved {task updated : Task} {middle moved : BoardDb}
      (authority : Authority before notifier cmd sender task.boardId)
      (named : Names before cmd task) (transition : Transition cmd task updated)
      (seeded : Seeded before middle)
      (mapped : BoardDb.TasksMapped (BoardDb.taskChange updated) middle moved)
      (recorded : Records moved after)
  /-- The task is done, and its children are released. -/
  | finished {task updated : Task} {kind : String} {event : TaskEvent}
      {middle done logged : BoardDb}
      (authority : Authority before notifier cmd sender task.boardId)
      (named : Names before cmd task) (finish : Finish cmd task updated kind)
      (seeded : Seeded before middle)
      (mapped : BoardDb.TasksMapped (BoardDb.taskChange updated) middle done)
      (about : event.taskId = task.id) (typed : event.eventType = kind)
      (log : BoardDb.Logged event done logged)
      (promoted : BoardDb.TasksMapped
        (promotedRow (logged.listTasks task.boardId none none) task) logged
          after)
  | output {task : Task} {event : TaskEvent} {board : BoardRecord}
      {middle logged : BoardDb} (verb : cmd.verb = "output")
      (authority : Authority before notifier cmd sender task.boardId)
      (named : Names before cmd task) (done : task.status = .done)
      (complete : before.unfinished task.boardId = [])
      (seeded : Seeded before middle) (kind : event.eventType = "output")
      (log : BoardDb.Logged event middle logged)
      (found : before.findBoard task.boardId = some board)
      (result : after = logged.updateBoard
        { board with
          outputTaskId := some task.id
          status := .awaitingOwner })
  | created {boardId : String} {rows : List Task} {middle : BoardDb}
      (verb : cmd.verb = "create")
      (authority : Authority before notifier cmd sender boardId)
      (seeded : Seeded before middle)
      (requested : ∀ row ∈ rows, Requested host cmd before boardId sender row)
      (added : TasksAdded rows middle after)
  | refreshed {board : BoardRecord} {goal : Option String}
      {members : List Member} {enrolled : BoardDb}
      (verb : cmd.verb = "refresh")
      (authority : Authority before notifier cmd sender notifier.boardId)
      (found : before.findBoard notifier.boardId = some board)
      (asked : ∀ member ∈ members, Enrolled cmd notifier.boardId member)
      (written : (before.updateBoard
        { board with goal, status := .active }).upsertMembers members =
          .ok enrolled)
      (permissions : PermissionsRefreshed cmd enrolled after)
  | reopened {boardId : String} {board : BoardRecord} {middle moved : BoardDb}
      {change : Task → Task} (verb : cmd.verb = "reopen")
      (authority : Authority before notifier cmd sender boardId)
      (seeded : Seeded before middle)
      (found : before.findBoard boardId = some board)
      (awaiting : board.status = .awaitingOwner)
      (mapped : BoardDb.TasksMapped change middle moved)
      (others : ∀ row ∈ before.tasks, row.boardId ≠ boardId → change row = row)
      (own : ∀ row ∈ before.tasks, row.boardId = boardId → ∃ now,
        change row = (reopenedStatus (reopenedIds before boardId)
          (taskFromRow row)).elim row
            fun status => { row with status, updatedAt := now })
      (result : after = moved.updateBoard
        { board with
          status := .active
          planVersion := none
          criteriaVersion := none })

/-! ## Rules -/

/-- Whether it succeeds or fails, the command leaves a database as stated. -/
def Leaves (host : Host) (command : Command α) (left : BoardDb → Prop)
    (world : BoardWorld) : Prop :=
  (Command.run host command).Ends (fun _ next => left next.db)
    (fun _ next => left next.db) world

section Rules

variable {host : Host} {world : BoardWorld} {left : BoardDb → Prop}
  {cmd : A2aCommand} {sender : String}

theorem leaves_sequence {command : Command β} {rest : β → Command α} :
    Leaves host (command >>= rest) left world ↔
      (Command.run host command).Ends
        (fun value next => Leaves host (rest value) left next)
        (fun _ next => left next.db) world :=
  Command.ends_sequence

theorem leaves_ite {condition : Prop} [Decidable condition]
    {first second : Command α} :
    Leaves host (if condition then first else second) left world ↔
      (condition → Leaves host first left world) ∧
        (¬ condition → Leaves host second left world) :=
  Command.ends_ite

theorem leaves_required {value : Option β} {message : String}
    {rest : β → Command α} (refused : left world.db)
    (given : ∀ found, value = some found → Leaves host (rest found) left world) :
    Leaves host (required value message >>= rest) left world := by
  rw [leaves_sequence, ends_required]
  exact ⟨given, fun _ => refused⟩

theorem leaves_named {rest : String → Task → Command α}
    (refused : left world.db)
    (named : ∀ taskId task, cmd.taskId = some taskId →
      world.db.lookupTask taskId = some task →
        Leaves host (rest taskId task) left world) :
    Leaves host
      (extractTaskId cmd >>= fun taskId =>
        Store.getTask taskId >>= fun task => rest taskId task)
      left world := by
  refine leaves_required refused ?_
  intro taskId given
  rw [leaves_sequence, Store.ends_getTask]
  exact ⟨fun task found => named taskId task given found, fun _ => refused⟩

theorem leaves_requireRole {boardId verb : String} {rest : Unit → Command α}
    (refused : left world.db)
    (denied : ∀ role, left (world.db.checked role))
    (holds : ∀ member, world.db.findMember boardId sender = some member →
      world.db.permits member.role verb = true →
        Leaves host (rest ()) left
          (world.withDb (world.db.checked member.role))) :
    Leaves host (requireRole boardId sender verb >>= rest) left world := by
  rw [leaves_sequence, ends_requireRole]
  exact ⟨fun member found => ⟨holds member found, fun _ => denied _⟩,
    fun _ => refused⟩

theorem leaves_requireAssignee {task : Task} {rest : Unit → Command α}
    (refused : left world.db)
    (own : task.assignee = sender → Leaves host (rest ()) left world) :
    Leaves host (requireAssignee task sender >>= rest) left world := by
  rw [leaves_sequence, ends_requireAssignee]
  exact ⟨own, fun _ => refused⟩

theorem leaves_requireReviewer {task : Task} {rest : Unit → Command α}
    (refused : left world.db)
    (own : task.reviewer = some sender → Leaves host (rest ()) left world) :
    Leaves host (requireReviewer task sender >>= rest) left world := by
  rw [leaves_sequence, ends_requireReviewer]
  exact ⟨own, fun _ => refused⟩

theorem leaves_utcNow {rest : String → Command α}
    (next : Leaves host (rest (host.now world.tick)) left world.tock) :
    Leaves host (Store.utcNow >>= rest) left world := by
  rw [leaves_sequence, Store.ends_utcNow]
  exact next

end Rules

end AimailGateway.Board
