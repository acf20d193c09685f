import AimailGateway.Board.Store

/-! # Board awareness

What an agent asks of a board to decide its next action, shared by the email
commands and the HTTP interface.
-/

namespace AimailGateway.Board

open Library Fallible

namespace Awareness

def taskStatuses : List String :=
  ["triage", "todo", "ready", "running", "reviewing", "done", "blocked",
    "cancelled", "archived"]

def pipelineGroup (tasks : List Task) (status : String) : String × Json :=
  let group := tasks.filter (·.status.toText == status)
  (status, .object
    [("count", .number (toString group.length)),
      ("tasks", .array (group.map fun task => .object
        [("short_id", .string task.shortId),
          ("assignee", .string task.assignee)]))])

/-- A board's goal and its tasks by state. -/
def boardStatus (boardId : String) : Command Json := do
  let board ← Store.getBoard boardId
  let tasks ← Store.listTasks boardId none none
  return .object
    [("board", .object
        [("id", .string board.id),
          ("short_id", .string board.shortId),
          ("status", .string board.status.toText),
          ("goal", .ofStr? board.goal),
          ("plan_version", .ofStr? board.planVersion),
          ("plan_confirmed_at", .ofStr? board.planConfirmedAt),
          ("output_task_id", .ofStr? board.outputTaskId)]),
      ("pipeline", .object (taskStatuses.map (pipelineGroup tasks)))]

def listTasks (boardId : String) (status assignee : Option String) :
    Command (List Task) :=
  Store.listTasks boardId status assignee

def parentSummaries (task : Task) : List String → Command (List Json)
  | [] => return []
  | parent :: rest => do
      let tasks ← Store.listTasks task.boardId none none
      let found := (tasks.find? (·.shortId == parent)).map fun row =>
        Json.object
          [("short_id", .string row.shortId), ("title", .string row.title),
            ("summary", .string row.summary)]
      let later ← parentSummaries task rest
      return found.toList ++ later

def getTask (taskId : String) : Command (Task × List Json) := do
  let task ← Store.getTask taskId
  let summaries ← parentSummaries task task.parentIds
  return (task, summaries)

def listMembers (boardId : String) (email : Option String) :
    Command (List Member) := do
  let members ← Store.listMembers boardId
  return members.filter fun row => email.all (· == row.email)

/-- `ORDER BY role, verb`. -/
def roleVerbLe (first second : String × String) : Bool :=
  decide (first.1 < second.1) ||
    (first.1 == second.1 && decide (first.2 ≤ second.2))

/-- The permitted verbs of each role. -/
def listRoles : Command (List (String × List String)) := do
  let rows ← Store.selectRolePermissions
  let sorted := rows.mergeSort roleVerbLe
  return (sorted.map (·.1)).eraseDups.map fun role =>
    (role, (sorted.filter (·.1 == role)).map (·.2))

/-- A ready task starts to run, a running one goes on. -/
def start (task : Task) : Command Unit :=
  if task.status = .ready then
    Store.updateTask { task with status := .running }
  else if task.status ≠ .running then
    fail (.badRequest
      ("heartbeat invalid for task status: " ++ task.status.toText))
  else return ()

/-- Report liveness for a task. -/
def heartbeat (taskRef actor : String) : Command Unit := do
  let task ← Store.getTask taskRef
  if task.assignee ≠ actor then
    fail (.forbidden "only assignee can heartbeat")
  else
    start task
    Store.touchTask task.id
    let createdAt ← Store.utcNow
    Store.insertEvent
      { id := 0
        taskId := task.id
        eventType := "heartbeat"
        actor
        payload := none
        createdAt }

end Awareness

end AimailGateway.Board
