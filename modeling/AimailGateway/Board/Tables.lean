import AimailGateway.Board.Models

/-! # Statements on a board database

What each `INSERT` and `UPDATE` does to the tables. A statement that breaks a
key or a reference fails and changes nothing.
-/

namespace AimailGateway.Board

open Library

/-- What rusqlite reports for a query that finds no row. -/
def noRows : AppError := .database "Query returned no rows"

def foreignKeyFailed : AppError :=
  .database "FOREIGN KEY constraint failed"

namespace BoardDb

def hasBoard (db : BoardDb) (boardId : String) : Bool :=
  db.boards.rows.any (·.id == boardId)

def isMember (db : BoardDb) (email : String) : Bool :=
  db.members.rows.any (·.email == email)

def hasTask (db : BoardDb) (taskId : String) : Bool :=
  db.tasks.rows.any (·.id == taskId)

variable {db : BoardDb}

theorem hasBoard_iff {boardId : String} :
    db.hasBoard boardId = true ↔ ∃ board ∈ db.boards, board.id = boardId := by
  simp [hasBoard]

theorem isMember_iff {email : String} :
    db.isMember email = true ↔ ∃ member ∈ db.members, member.email = email := by
  simp [isMember]

theorem hasTask_iff {taskId : String} :
    db.hasTask taskId = true ↔ ∃ task ∈ db.tasks, task.id = taskId := by
  simp [hasTask]

/-- The tables of a new file. -/
def empty : BoardDb where
  boards := .empty
  members := .empty
  tasks := .empty
  taskEvents := []
  eventSequence := 0
  rolePermissions := []
  taskSeq := []
  enrolled := fun _ absent => (List.not_mem_nil absent).elim
  owned := fun _ absent => (List.not_mem_nil absent).elim
  assigned := fun _ absent => (List.not_mem_nil absent).elim
  recorded := fun _ absent => (List.not_mem_nil absent).elim

/-! ## Boards -/

/-- The row `INSERT INTO boards` names. -/
def insertedBoard (board : BoardRecord) : BoardRecord :=
  { board with
    outputTaskId := none
    planVersion := none
    planText := none
    planConfirmedAt := none
    criteriaVersion := none
    criteriaText := none
    criteriaConfirmedAt := none
    completedAt := none }

/-- The collision of ids is checked before the row is inserted. -/
def createBoard (db : BoardDb) (board : BoardRecord) : Except AppError BoardDb :=
  if db.hasBoard board.id then
    .error (.validation ("board '" ++ board.id ++
      "' already exists (short id '" ++ board.shortId ++ "')"))
  else
    match inserted : db.boards.insert? (insertedBoard board) with
    | some boards =>
        .ok { db with
          boards
          enrolled := fun member there => by
            rcases db.enrolled member there with ⟨row, known, same⟩
            exact ⟨row, (Table.mem_of_insert? inserted).mpr (Or.inl known), same⟩
          owned := fun task there => by
            rcases db.owned task there with ⟨row, known, same⟩
            exact ⟨row, (Table.mem_of_insert? inserted).mpr (Or.inl known), same⟩ }
    | none => .error (.database "UNIQUE constraint failed: boards.short_id")

/-- A change of the columns of a board that are no key. -/
def boardSet (boardId : String) (change : BoardRecord → BoardRecord)
    (row : BoardRecord) : BoardRecord :=
  if row.id = boardId then
    { change row with
      id := row.id
      shortId := row.shortId
      boardEmail := row.boardEmail }
  else row

@[simp] theorem boardSet_id (boardId : String)
    (change : BoardRecord → BoardRecord) (row : BoardRecord) :
    (boardSet boardId change row).id = row.id := by
  rw [boardSet]
  split
  · rfl
  · rfl

@[simp] theorem boardSet_shortId (boardId : String)
    (change : BoardRecord → BoardRecord) (row : BoardRecord) :
    (boardSet boardId change row).shortId = row.shortId := by
  rw [boardSet]
  split
  · rfl
  · rfl

/-- `UPDATE boards SET … WHERE id = ?`. -/
def setBoard (db : BoardDb) (boardId : String)
    (change : BoardRecord → BoardRecord) : BoardDb :=
  { db with
    boards := db.boards.mapRows (boardSet boardId change) fun first second => by
      simp only [BoardRecord.conflict, boardSet_id, boardSet_shortId]
    enrolled := fun member enrolled => by
      rcases db.enrolled member enrolled with ⟨row, known, same⟩
      exact ⟨boardSet boardId change row,
        Table.mem_mapRows.mpr ⟨row, known, rfl⟩,
        (boardSet_id boardId change row).trans same⟩
    owned := fun task created => by
      rcases db.owned task created with ⟨row, known, same⟩
      exact ⟨boardSet boardId change row,
        Table.mem_mapRows.mpr ⟨row, known, rfl⟩,
        (boardSet_id boardId change row).trans same⟩ }

/-- The columns an update of a board sets. -/
def boardChange (board row : BoardRecord) : BoardRecord :=
  if row.id = board.id then
    { board with
      id := row.id
      shortId := row.shortId
      boardEmail := row.boardEmail
      createdAt := row.createdAt }
  else row

@[simp] theorem boardChange_id (board row : BoardRecord) :
    (boardChange board row).id = row.id := by
  rw [boardChange]
  split
  · rfl
  · rfl

@[simp] theorem boardChange_shortId (board row : BoardRecord) :
    (boardChange board row).shortId = row.shortId := by
  rw [boardChange]
  split
  · rfl
  · rfl

def updateBoard (db : BoardDb) (board : BoardRecord) : BoardDb :=
  { db with
    boards := db.boards.mapRows (boardChange board) fun first second => by
      simp only [BoardRecord.conflict, boardChange_id, boardChange_shortId]
    enrolled := fun member enrolled => by
      rcases db.enrolled member enrolled with ⟨row, known, same⟩
      exact ⟨boardChange board row, Table.mem_mapRows.mpr ⟨row, known, rfl⟩,
        (boardChange_id board row).trans same⟩
    owned := fun task created => by
      rcases db.owned task created with ⟨row, known, same⟩
      exact ⟨boardChange board row, Table.mem_mapRows.mpr ⟨row, known, rfl⟩,
        (boardChange_id board row).trans same⟩ }

/-! ## Members -/

/-- `ON CONFLICT(email) DO UPDATE SET …`: the token columns stay. -/
def memberChange (member row : Member) : Member :=
  if row.email = member.email then
    { row with
      role := member.role
      displayName := member.displayName
      boardId := member.boardId
      joinedAt := member.joinedAt
      domains := member.domains }
  else row

@[simp] theorem memberChange_email (member row : Member) :
    (memberChange member row).email = row.email := by
  rw [memberChange]
  split
  · rfl
  · rfl

/-- The row `INSERT INTO board_members` names. -/
def insertedMember (member : Member) : Member :=
  { member with capabilitySnapshot := none }

private theorem free_of_not_isMember {email : String}
    (absent : ¬ db.isMember email = true) :
    ∀ other ∈ db.members.rows, (other.email == email) = false := by
  rw [isMember, List.any_eq_true] at absent
  intro other member
  rw [Bool.eq_false_iff]
  exact fun same => absent ⟨other, member, same⟩

def upsertMember (db : BoardDb) (member : Member) : Except AppError BoardDb :=
  if known : db.hasBoard member.boardId = true then
    if absent : db.isMember member.email = true then
      .ok { db with
        members := db.members.mapRows (memberChange member)
          fun first second => by
            simp only [Member.conflict, memberChange_email]
        enrolled := fun row changed => by
          rcases Table.mem_mapRows.mp changed with ⟨before, there, equal⟩
          subst equal
          by_cases same : before.email = member.email
          · rw [memberChange, if_pos same]
            exact hasBoard_iff.mp known
          · rw [memberChange, if_neg same]
            exact db.enrolled before there
        assigned := fun task created => by
          rcases db.assigned task created with ⟨before, there, same⟩
          exact ⟨memberChange member before,
            Table.mem_mapRows.mpr ⟨before, there, rfl⟩,
            (memberChange_email member before).trans same⟩ }
    else
      .ok { db with
        members := db.members.insert (insertedMember member)
          (free_of_not_isMember absent)
        enrolled := fun row inserted => by
          rcases Table.mem_insert.mp inserted with there | equal
          · exact db.enrolled row there
          · subst equal
            exact hasBoard_iff.mp known
        assigned := fun task created => by
          rcases db.assigned task created with ⟨before, there, same⟩
          exact ⟨before, Table.mem_insert.mpr (Or.inl there), same⟩ }
  else .error foreignKeyFailed

def tokenChange (boardId email hashed salt : String) (row : Member) : Member :=
  if row.boardId = boardId ∧ row.email = email then
    { row with boardToken := some hashed, boardTokenSalt := some salt }
  else row

@[simp] theorem tokenChange_email (boardId email hashed salt : String)
    (row : Member) : (tokenChange boardId email hashed salt row).email =
      row.email := by
  rw [tokenChange]
  split
  · rfl
  · rfl

@[simp] theorem tokenChange_boardId (boardId email hashed salt : String)
    (row : Member) : (tokenChange boardId email hashed salt row).boardId =
      row.boardId := by
  rw [tokenChange]
  split
  · rfl
  · rfl

def migrateToken (db : BoardDb) (boardId email hashed salt : String) : BoardDb :=
  { db with
    members := db.members.mapRows (tokenChange boardId email hashed salt)
      fun first second => by
        simp only [Member.conflict, tokenChange_email]
    enrolled := fun row changed => by
      rcases Table.mem_mapRows.mp changed with ⟨before, there, equal⟩
      subst equal
      rw [tokenChange_boardId]
      exact db.enrolled before there
    assigned := fun task created => by
      rcases db.assigned task created with ⟨before, there, same⟩
      exact ⟨tokenChange boardId email hashed salt before,
        Table.mem_mapRows.mpr ⟨before, there, rfl⟩,
        (tokenChange_email boardId email hashed salt before).trans same⟩ }

/-! ## Tasks -/

/-- The row `INSERT INTO tasks` names. -/
def insertedTask (task : Task) : Task :=
  { task with completedAt := none, cancelledAt := none, deadline := none }

private theorem free_of_not_hasTask {taskId : String}
    (absent : ¬ db.hasTask taskId = true) :
    ∀ other ∈ db.tasks.rows, (other.id == taskId) = false := by
  rw [hasTask, List.any_eq_true] at absent
  intro other member
  rw [Bool.eq_false_iff]
  exact fun same => absent ⟨other, member, same⟩

def insertTask (db : BoardDb) (task : Task) : Except AppError BoardDb :=
  if absent : db.hasTask task.id = true then
    .error (.database "UNIQUE constraint failed: tasks.id")
  else if known : db.hasBoard task.boardId = true ∧
      db.isMember task.assignee = true then
    .ok { db with
      tasks := db.tasks.insert (insertedTask task) (free_of_not_hasTask absent)
      owned := fun row inserted => by
        rcases Table.mem_insert.mp inserted with there | equal
        · exact db.owned row there
        · subst equal
          exact hasBoard_iff.mp known.1
      assigned := fun row inserted => by
        rcases Table.mem_insert.mp inserted with there | equal
        · exact db.assigned row there
        · subst equal
          exact isMember_iff.mp known.2
      recorded := fun event logged => by
        rcases db.recorded event logged with ⟨row, there, same⟩
        exact ⟨row, Table.mem_insert.mpr (Or.inl there), same⟩ }
  else .error foreignKeyFailed

/-- The columns an update of a task sets. -/
def taskChange (task row : Task) : Task :=
  if row.id = task.id then
    { task with
      id := row.id
      shortId := row.shortId
      boardId := row.boardId
      createdBy := row.createdBy
      createdAt := row.createdAt }
  else row

@[simp] theorem taskChange_id (task row : Task) :
    (taskChange task row).id = row.id := by
  rw [taskChange]
  split
  · rfl
  · rfl

@[simp] theorem taskChange_boardId (task row : Task) :
    (taskChange task row).boardId = row.boardId := by
  rw [taskChange]
  split
  · rfl
  · rfl

def changeTasks (db : BoardDb) (change : Task → Task)
    (keepsId : ∀ row, (change row).id = row.id)
    (keepsBoard : ∀ row, (change row).boardId = row.boardId)
    (assigns : ∀ row ∈ db.tasks, ∃ member ∈ db.members,
      member.email = (change row).assignee) : BoardDb :=
  { db with
    tasks := db.tasks.mapRows change fun first second => by
      simp only [Task.conflict, keepsId]
    owned := fun row changed => by
      rcases Table.mem_mapRows.mp changed with ⟨before, there, equal⟩
      subst equal
      rw [keepsBoard]
      exact db.owned before there
    assigned := fun row changed => by
      rcases Table.mem_mapRows.mp changed with ⟨before, there, equal⟩
      subst equal
      exact assigns before there
    recorded := fun event logged => by
      rcases db.recorded event logged with ⟨row, there, same⟩
      exact ⟨change row, Table.mem_mapRows.mpr ⟨row, there, rfl⟩,
        (keepsId row).trans same⟩ }

private theorem taskChange_assigns {task : Task}
    (known : db.isMember task.assignee = true) :
    ∀ row ∈ db.tasks, ∃ member ∈ db.members,
      member.email = (taskChange task row).assignee := by
  intro row there
  by_cases same : row.id = task.id
  · rw [taskChange, if_pos same]
    exact isMember_iff.mp known
  · rw [taskChange, if_neg same]
    exact db.assigned row there

/-- The reference of the assignee is checked when there is a row to change. -/
def updateTask (db : BoardDb) (task : Task) : Except AppError BoardDb :=
  if db.hasTask task.id then
    if known : db.isMember task.assignee = true then
      .ok (db.changeTasks (taskChange task) (taskChange_id task)
        (taskChange_boardId task) (taskChange_assigns known))
    else .error foreignKeyFailed
  else .ok db

def touchChange (taskId now : String) (row : Task) : Task :=
  if row.id = taskId then { row with updatedAt := now } else row

@[simp] theorem touchChange_id (taskId now : String) (row : Task) :
    (touchChange taskId now row).id = row.id := by
  rw [touchChange]
  split
  · rfl
  · rfl

@[simp] theorem touchChange_boardId (taskId now : String) (row : Task) :
    (touchChange taskId now row).boardId = row.boardId := by
  rw [touchChange]
  split
  · rfl
  · rfl

@[simp] theorem touchChange_assignee (taskId now : String) (row : Task) :
    (touchChange taskId now row).assignee = row.assignee := by
  rw [touchChange]
  split
  · rfl
  · rfl

def touchTask (db : BoardDb) (taskId now : String) : BoardDb :=
  db.changeTasks (touchChange taskId now) (touchChange_id taskId now)
    (touchChange_boardId taskId now) fun row there => by
      rw [touchChange_assignee]
      exact db.assigned row there

/-! ## Events -/

def insertedEvent (db : BoardDb) (event : TaskEvent) : TaskEvent :=
  { event with id := db.eventSequence + 1 }

def insertEvent (db : BoardDb) (event : TaskEvent) : Except AppError BoardDb :=
  if known : db.hasTask event.taskId = true then
    .ok { db with
      taskEvents := db.taskEvents ++ [db.insertedEvent event]
      eventSequence := db.eventSequence + 1
      recorded := fun row logged => by
        rcases List.mem_append.mp logged with there | inserted
        · exact db.recorded row there
        · rw [List.mem_singleton.mp inserted]
          exact hasTask_iff.mp known }
  else .error foreignKeyFailed

/-! ## Permissions and short ids -/

/-- `INSERT OR IGNORE` and `INSERT OR REPLACE` leave the same rows. -/
def addRolePermission (db : BoardDb) (role verb : String) : BoardDb :=
  if (role, verb) ∈ db.rolePermissions then db
  else { db with rolePermissions := db.rolePermissions ++ [(role, verb)] }

def nextTaskSeq (db : BoardDb) (boardId : String) : Nat :=
  (db.taskSeq.lookup boardId).getD 0 + 1

def bumpTaskSeq (db : BoardDb) (boardId : String) : BoardDb :=
  { db with
    taskSeq := (boardId, db.nextTaskSeq boardId) ::
      db.taskSeq.filter (·.1 != boardId) }

end BoardDb

end AimailGateway.Board
