import AimailGateway.Errors
import AimailGateway.Library.Json
import AimailGateway.Library.Table
import AimailGateway.Library.Text

/-! # Rows of a board database

Each board has a database of its own. Its tables refer to one another: a member
and a task to their board, a task to the member it is assigned to, an event to
its task. A value of `BoardDb` keeps these references intact.
-/

namespace AimailGateway.Board

open Library

inductive BoardStatus where
  | active
  | awaitingOwner
  | completed
  | archived
  /-- Service suspended. -/
  | frozen
  deriving DecidableEq, Repr

namespace BoardStatus

def toText : BoardStatus → String
  | active => "active"
  | awaitingOwner => "awaiting_owner"
  | completed => "completed"
  | archived => "archived"
  | frozen => "frozen"

end BoardStatus

structure BoardRecord where
  id : String
  shortId : String
  boardEmail : String
  goal : Option String
  status : BoardStatus
  outputTaskId : Option String
  planVersion : Option String
  planText : Option String
  planConfirmedAt : Option String
  criteriaVersion : Option String
  criteriaText : Option String
  criteriaConfirmedAt : Option String
  createdAt : String
  completedAt : Option String
  systemId : Option String
  deriving DecidableEq, Repr

/-- `id TEXT PRIMARY KEY`, `short_id TEXT UNIQUE NOT NULL`. -/
def BoardRecord.conflict (first second : BoardRecord) : Bool :=
  first.id == second.id || first.shortId == second.shortId

structure Member where
  email : String
  role : String
  displayName : String
  boardId : String
  boardToken : Option String
  /-- The salt of a stored `sha256(token | salt)`. -/
  boardTokenSalt : Option String
  joinedAt : Option String
  domains : Option (List String)
  capabilitySnapshot : Option String
  deriving DecidableEq, Repr

/-- `email TEXT PRIMARY KEY`. -/
def Member.conflict (first second : Member) : Bool :=
  first.email == second.email

inductive TaskStatus where
  | triage
  | todo
  | ready
  | running
  | reviewing
  | done
  | blocked
  | cancelled
  | archived
  deriving DecidableEq, Repr

namespace TaskStatus

def toText : TaskStatus → String
  | triage => "triage"
  | todo => "todo"
  | ready => "ready"
  | running => "running"
  | reviewing => "reviewing"
  | done => "done"
  | blocked => "blocked"
  | cancelled => "cancelled"
  | archived => "archived"

end TaskStatus

/-- `parse_task_status`: what is not listed reads as `todo`. -/
def parseTaskStatus (text : String) : TaskStatus :=
  if text = "ready" then .ready
  else if text = "running" then .running
  else if text = "reviewing" then .reviewing
  else if text = "done" then .done
  else if text = "blocked" then .blocked
  else if text = "cancelled" then .cancelled
  else .todo

structure Task where
  id : String
  shortId : String
  boardId : String
  title : String
  body : String
  status : TaskStatus
  assignee : String
  reviewer : Option String
  parentIds : List String
  tags : List String
  summary : String
  metadata : Option String
  createdBy : String
  createdAt : String
  updatedAt : String
  completedAt : Option String
  cancelledAt : Option String
  deadline : Option String
  deriving DecidableEq, Repr

/-- `id TEXT PRIMARY KEY`. -/
def Task.conflict (first second : Task) : Bool :=
  first.id == second.id

/-- An event of a task. Every payload is an object of texts. -/
structure TaskEvent where
  id : Int
  taskId : String
  eventType : String
  actor : String
  payload : Option (List (String × String))
  createdAt : String
  deriving DecidableEq, Repr

structure A2aCommand where
  verb : String
  taskId : Option String
  params : Option Json

structure CommandResponse where
  status : String
  task : Option Task
  data : Option Json
  error : Option String

abbrev BoardTable := Table BoardRecord BoardRecord.conflict
abbrev Members := Table Member Member.conflict
abbrev Tasks := Table Task Task.conflict

structure BoardDb where
  boards : BoardTable
  members : Members
  tasks : Tasks
  taskEvents : List TaskEvent
  eventSequence : Int
  /-- The rows `(role, verb)`. -/
  rolePermissions : List (String × String)
  /-- The rows `(board_id, next_val)`. -/
  taskSeq : List (String × Nat)
  /-- `board_members.board_id REFERENCES boards(id)`. -/
  enrolled : ∀ member ∈ members, ∃ board ∈ boards, board.id = member.boardId
  /-- `tasks.board_id REFERENCES boards(id)`. -/
  owned : ∀ task ∈ tasks, ∃ board ∈ boards, board.id = task.boardId
  /-- `tasks.assignee REFERENCES board_members(email)`. -/
  assigned : ∀ task ∈ tasks, ∃ member ∈ members, member.email = task.assignee
  /-- `task_events.task_id REFERENCES tasks(id)`. -/
  recorded : ∀ event ∈ taskEvents, ∃ task ∈ tasks, task.id = event.taskId

/-! ## What a row is read as -/

@[simp] theorem parseTaskStatus_toText (status : TaskStatus) :
    parseTaskStatus status.toText =
      if status = .triage ∨ status = .archived then .todo else status := by
  cases status <;> decide

/-- `task_from_row`. -/
def taskFromRow (row : Task) : Task :=
  { row with status := parseTaskStatus row.status.toText }

/-! ## Keys of the tables -/

theorem Member.conflict_comm (first second : Member) :
    conflict first second = conflict second first := by
  simp only [conflict, Bool.beq_comm]

theorem Task.conflict_comm (first second : Task) :
    conflict first second = conflict second first := by
  simp only [conflict, Bool.beq_comm]

theorem Members.eq_of_email {members : Members} {first second : Member}
    (firstMember : first ∈ members) (secondMember : second ∈ members)
    (same : first.email = second.email) : first = second :=
  Table.eq_of_conflict Member.conflict_comm firstMember secondMember
    (by simp [Member.conflict, same])

theorem Tasks.eq_of_id {tasks : Tasks} {first second : Task}
    (firstMember : first ∈ tasks) (secondMember : second ∈ tasks)
    (same : first.id = second.id) : first = second :=
  Table.eq_of_conflict Task.conflict_comm firstMember secondMember
    (by simp [Task.conflict, same])

end AimailGateway.Board
