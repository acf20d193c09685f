import AimailGateway.Board.Awareness

/-! # The commands of a board

The handlers of the verbs and the dispatch to them. Notifications are left out:
they send mail and change no table of the board.
-/

namespace AimailGateway.Board

open Library Fallible

/-- The board a command was sent to. -/
structure Notifier where
  boardId : String
  boardShortId : String
  boardEmail : String

namespace Commands

/-! ## Authorisation -/

def notMember (sender : String) : AppError :=
  .forbidden ("sender not a board member: " ++ sender)

def notPermitted (role verb : String) : AppError :=
  .forbidden
    ("role '" ++ role ++ "' not permitted for verb '" ++ verb ++ "'")

def requireRole (boardId sender verb : String) : Command Unit := do
  match ← Store.getMember boardId sender with
  | some member =>
      if ← Store.checkRolePermission member.role verb then return ()
      else fail (notPermitted member.role verb)
  | none => fail (notMember sender)

def requireAssignee (task : Task) (sender : String) : Command Unit :=
  if task.assignee = sender then return ()
  else
    fail (.forbidden ("only assignee can perform this action: " ++ sender))

def requireMember (boardId sender : String) : Command Unit := do
  match ← Store.getMember boardId sender with
  | some _ => return ()
  | none => fail (notMember sender)

def requireReviewer (task : Task) (sender : String) : Command Unit :=
  if task.reviewer = some sender then return ()
  else
    fail (.forbidden
      ("only the assigned reviewer can perform this action: " ++ sender))

/-! ## Parameters and responses -/

def strParam (cmd : A2aCommand) (key : String) : Option String :=
  cmd.params.bind (·.getStr? key)

def required (value : Option α) (message : String) : Command α :=
  match value with
  | some value => return value
  | none => fail (.badRequest message)

def extractTaskId (cmd : A2aCommand) : Command String :=
  required cmd.taskId "task_id required"

def okResponse (task : Option Task) : CommandResponse where
  status := "ok"
  task := task
  data := none
  error := none

def dataResponse (data : Json) : CommandResponse where
  status := "ok"
  task := none
  data := some data
  error := none

def newEvent (taskId eventType actor : String)
    (payload : Option (List (String × String))) (createdAt : String) :
    TaskEvent where
  id := 0
  taskId := taskId
  eventType := eventType
  actor := actor
  payload := payload
  createdAt := createdAt

/-! ## Children -/

/-- A task that waits for `parent` and for nothing that is not done. -/
def isReleased (tasks : List Task) (parent child : Task) : Bool :=
  let done := (tasks.filter (·.status = .done)).map (·.shortId)
  child.parentIds.contains parent.shortId &&
    child.parentIds.all done.contains && child.status = .todo

/-- Make ready what waited for the parent. -/
def promoteChildren (parent : Task) : Command Unit := do
  let tasks ← Store.listTasks parent.boardId none none
  forEach (tasks.filter (isReleased tasks parent)) fun child =>
    ignore (Store.updateTask { child with status := .ready })

/-- A task without a reviewer is done once it is completed. -/
def releaseChildren (task : Task) : Command Unit :=
  if task.reviewer.isSome then return () else promoteChildren task

/-! ## Verbs on a task -/

def doComplete (taskId sender : String) (summary : Option String) :
    Command Task := do
  let task ← Store.getTask taskId
  requireAssignee task sender
  let task := { task with summary := summary.getD task.summary }
  let ts ← Store.utcNow
  let task :=
    if task.reviewer.isSome then { task with status := .reviewing }
    else { task with status := .done, completedAt := some ts }
  let task := { task with updatedAt := ts }
  Store.updateTask task
  Store.insertEvent (newEvent task.id "completed" sender none ts)
  releaseChildren task
  return task

def handleComplete (cmd : A2aCommand) (sender : String) :
    Command CommandResponse := do
  let taskId ← extractTaskId cmd
  let task ← doComplete taskId sender (strParam cmd "summary")
  return okResponse (some task)

def handleReview (cmd : A2aCommand) (sender : String) :
    Command CommandResponse := do
  let taskId ← extractTaskId cmd
  let reviewer ← required (strParam cmd "reviewer") "reviewer required"
  let task ← Store.getTask taskId
  requireRole task.boardId sender "review"
  let now ← Store.utcNow
  let task :=
    { task with
      reviewer := some reviewer
      status := .reviewing
      updatedAt := now }
  Store.updateTask task
  return okResponse (some task)

def handleApprove (cmd : A2aCommand) (sender : String) :
    Command CommandResponse := do
  let taskId ← extractTaskId cmd
  let task ← Store.getTask taskId
  requireReviewer task sender
  if task.status ≠ .reviewing then
    fail (.badRequest
      ("approve invalid for task status: " ++ task.status.toText))
  else
    let ts ← Store.utcNow
    let task :=
      { task with
        status := .done
        completedAt := some ts
        updatedAt := ts }
    Store.updateTask task
    Store.insertEvent (newEvent task.id "approved" sender none ts)
    promoteChildren task
    return okResponse (some task)

def handleReject (cmd : A2aCommand) (sender : String) :
    Command CommandResponse := do
  let taskId ← extractTaskId cmd
  let task ← Store.getTask taskId
  requireReviewer task sender
  if task.status ≠ .reviewing then
    fail (.badRequest
      ("reject invalid for task status: " ++ task.status.toText))
  else
    let reason := (strParam cmd "reason").getD ""
    let ts ← Store.utcNow
    let task := { task with status := .running, updatedAt := ts }
    Store.updateTask task
    Store.insertEvent
      (newEvent task.id "rejected" sender (some [("reason", reason)]) ts)
    return okResponse (some task)

/-- A worker can block its own tasks, a permitted role any. -/
def requireBlocker (task : Task) (sender : String) : Command Unit :=
  if sender ≠ task.assignee then requireRole task.boardId sender "block"
  else return ()

def handleBlock (cmd : A2aCommand) (sender : String) :
    Command CommandResponse := do
  let taskId ← extractTaskId cmd
  let task ← Store.getTask taskId
  requireBlocker task sender
  let ts ← Store.utcNow
  let task := { task with status := .blocked, updatedAt := ts }
  Store.updateTask task
  Store.insertEvent (newEvent task.id "blocked" sender none ts)
  return okResponse (some task)

def handleUnblock (cmd : A2aCommand) (sender : String) :
    Command CommandResponse := do
  let taskId ← extractTaskId cmd
  let task ← Store.getTask taskId
  requireRole task.boardId sender "unblock"
  let ts ← Store.utcNow
  let task := { task with status := .running, updatedAt := ts }
  Store.updateTask task
  Store.insertEvent (newEvent task.id "unblocked" sender none ts)
  return okResponse (some task)

def handleHeartbeat (cmd : A2aCommand) (sender : String) :
    Command CommandResponse := do
  let taskId ← extractTaskId cmd
  Awareness.heartbeat taskId sender
  return okResponse none

def handleComment (cmd : A2aCommand) (sender : String) :
    Command CommandResponse := do
  let taskId ← extractTaskId cmd
  let comment := (strParam cmd "text").getD ""
  let task ← Store.getTask taskId
  requireRole task.boardId sender "comment"
  let ts ← Store.utcNow
  Store.insertEvent
    (newEvent taskId "comment" sender (some [("text", comment)]) ts)
  return okResponse none

def handleContinue (cmd : A2aCommand) (sender : String) :
    Command CommandResponse := do
  let taskId ← extractTaskId cmd
  let task ← Store.getTask taskId
  requireRole task.boardId sender "continue"
  requireAssignee task sender
  let progress := (strParam cmd "progress").getD ""
  if progress = "" then
    fail (.badRequest "continue: progress is required")
  else
    let note := (strParam cmd "note").getD ""
    let ts ← Store.utcNow
    let task := { task with summary := progress, updatedAt := ts }
    Store.updateTask task
    Store.insertEvent
      (newEvent taskId "continue_request" sender
        (some [("progress", progress), ("note", note)]) ts)
    return okResponse (some task)

def handleCancel (cmd : A2aCommand) (sender : String) :
    Command CommandResponse := do
  let taskId ← extractTaskId cmd
  let task ← Store.getTask taskId
  requireRole task.boardId sender "cancel"
  if task.status ≠ .blocked then
    fail (.badRequest "cancel only allowed for blocked tasks")
  else
    let ts ← Store.utcNow
    let task :=
      { task with
        status := .cancelled
        cancelledAt := some ts
        updatedAt := ts }
    Store.updateTask task
    Store.insertEvent (newEvent task.id "cancelled" sender none ts)
    return okResponse (some task)

/-- The handler of both `assign` and `reassign`. -/
def handleReassign (cmd : A2aCommand) (sender : String) :
    Command CommandResponse := do
  let taskId ← extractTaskId cmd
  let task ← Store.getTask taskId
  requireRole task.boardId sender "reassign"
  let newAssignee := (strParam cmd "assignee").getD ""
  if newAssignee = "" then fail (.badRequest "assignee required")
  else
    match ← Store.getMember task.boardId newAssignee with
    | none =>
        fail (.badRequest ("assignee not a board member: " ++ newAssignee))
    | some _ =>
        let now ← Store.utcNow
        let task := { task with assignee := newAssignee, updatedAt := now }
        Store.updateTask task
        return okResponse (some task)

def handleEdit (cmd : A2aCommand) (sender : String) :
    Command CommandResponse := do
  let taskId ← extractTaskId cmd
  let task ← Store.getTask taskId
  requireRole task.boardId sender "edit"
  let now ← Store.utcNow
  let task :=
    { task with
      title := (strParam cmd "title").getD task.title
      body := (strParam cmd "body").getD task.body
      updatedAt := now }
  Store.updateTask task
  return okResponse (some task)

def handleDeadline (host : Host) (cmd : A2aCommand) (sender : String) :
    Command CommandResponse := do
  let taskId ← extractTaskId cmd
  let task ← Store.getTask taskId
  requireRole task.boardId sender "deadline"
  let deadline := (strParam cmd "deadline").getD ""
  if deadline = "" then fail (.badRequest "deadline required")
  else if host.isRfc3339 deadline = false then
    fail (.badRequest ("deadline must be RFC3339, got: " ++ deadline))
  else
    let now ← Store.utcNow
    let task := { task with deadline := some deadline, updatedAt := now }
    Store.updateTask task
    return okResponse (some task)

def handleOutput (cmd : A2aCommand) (sender : String) :
    Command CommandResponse := do
  let taskId ← extractTaskId cmd
  let task ← Store.getTask taskId
  requireRole task.boardId sender "output"
  if task.status ≠ .done then
    fail (.badRequest "output task is not done yet")
  else
    let issues ← Store.verifyPipelineIntegrity task.boardId
    if issues ≠ [] then
      fail (.badRequest
        ("pipeline issues: " ++ String.intercalate ", " issues))
    else
      let ts ← Store.utcNow
      Store.insertEvent (newEvent task.id "output" sender none ts)
      let board ← Store.getBoard task.boardId
      Store.updateBoard
        { board with
          outputTaskId := some task.id
          status := .awaitingOwner }
      return okResponse (some task)

/-! ## Queries -/

def handleShow (cmd : A2aCommand) (sender : String) :
    Command CommandResponse := do
  let taskId ← extractTaskId cmd
  let (task, summaries) ← Awareness.getTask taskId
  requireMember task.boardId sender
  if summaries.isEmpty then return okResponse (some task)
  else
    return { okResponse (some task) with
      data := some (.object [("parent_summaries", .array summaries)]) }

def listedTask (task : Task) : Json :=
  .object
    [("id", .string task.id), ("short_id", .string task.shortId),
      ("title", .string task.title), ("status", .string task.status.toText),
      ("assignee", .string task.assignee), ("reviewer", .ofStr? task.reviewer),
      ("parent_ids", .array (task.parentIds.map .string))]

def handleList (cmd : A2aCommand) (sender : String) :
    Command CommandResponse := do
  let boardId := (strParam cmd "board_id").getD ""
  requireMember boardId sender
  let tasks ← Awareness.listTasks boardId (strParam cmd "status")
    (strParam cmd "assignee")
  return dataResponse (.object [("tasks", .array (tasks.map listedTask))])

def handleRoles (cmd : A2aCommand) (sender : String) :
    Command CommandResponse := do
  let boardId := (strParam cmd "board_id").getD ""
  requireMember boardId sender
  let roles ← Awareness.listRoles
  return dataResponse (.object
    [("roles", .object (roles.map fun entry =>
      (entry.1, .array (entry.2.map .string))))])

def handleBoardStatus (cmd : A2aCommand) (sender : String) :
    Command CommandResponse := do
  let boardId ← required (strParam cmd "board_id") "board_id required"
  requireMember boardId sender
  let status ← Awareness.boardStatus boardId
  return dataResponse status

def handleMembers (cmd : A2aCommand) (sender : String) :
    Command CommandResponse := do
  let boardId := (strParam cmd "board_id").getD ""
  requireMember boardId sender
  let members ← Awareness.listMembers boardId none
  return dataResponse (.object
    [("members", .array (members.map fun member => .object
      [("email", .string member.email), ("role", .string member.role),
        ("display_name", .string member.displayName)]))])

def handleGatewayInfo : Command CommandResponse :=
  return okResponse none

/-! ## Verbs on a board -/

/-- The addressee of an entry must be a member, if one is named. -/
def requireListed (boardId address role : String) : Command Unit := do
  if address = "" then return ()
  else
    match ← Store.getMember boardId address with
    | some _ => return ()
    | none =>
        fail (.badRequest (role ++ " not a board member: " ++ address))

def assigneeOf (entry : Json) : String := (entry.getStr? "assignee").getD ""

def newTask (host : Host) (boardId sender shortId ts : String) (entry : Json) :
    Task where
  id := Store.makeTaskId boardId shortId
  shortId := shortId
  boardId := boardId
  title := (entry.getStr? "title").getD ""
  body := (entry.getStr? "body").getD ""
  status := if assigneeOf entry = "" then .triage else .ready
  assignee := assigneeOf entry
  reviewer := entry.getStr? "reviewer"
  parentIds := (entry.getStrs? "parents").getD []
  tags := (entry.getStrs? "tags").getD []
  summary := ""
  metadata := (entry.get? "metadata").map host.toText
  createdBy := sender
  createdAt := ts
  updatedAt := ts
  completedAt := none
  cancelledAt := none
  deadline := none

def requireReviewerListed (boardId : String) (entry : Json) : Command Unit :=
  match entry.getStr? "reviewer" with
  | some reviewer => requireListed boardId reviewer "reviewer"
  | none => return ()

def createEntry (host : Host) (boardId sender : String) (entry : Json) :
    Command Unit := do
  requireListed boardId (assigneeOf entry) "assignee"
  requireReviewerListed boardId entry
  let shortId ← Store.nextShortId boardId
  let ts ← Store.utcNow
  Store.createTask (newTask host boardId sender shortId ts entry)

def handleCreate (host : Host) (cmd : A2aCommand) (sender : String) :
    Command CommandResponse := do
  let boardId ← required (strParam cmd "board_id") "board_id required"
  requireRole boardId sender "create"
  forEach ((cmd.params.bind (·.getArray? "tasks")).getD [])
    (createEntry host boardId sender)
  return okResponse none

/-- The stored token and salt of each member that has a token. -/
def existingCreds (members : List Member) :
    List (String × String × Option String) :=
  members.filterMap fun row =>
    row.boardToken.map fun token => (row.email, token, row.boardTokenSalt)

def knownRole (role note : String) : Command Unit :=
  if Store.knownRoles.contains role then return ()
  else
    fail (.badRequest ("unknown role '" ++ role ++ "'" ++ note ++
      " — known roles: " ++ String.intercalate ", " Store.knownRoles))

/-- The stored credential of a member, or a new raw token. -/
def credential (creds : List (String × String × Option String))
    (email : String) : Command (String × Option String) :=
  match creds.lookup email with
  | some stored => return stored
  | none => do
      let token ← Store.generateBoardToken
      return (token, none)

def refreshMember (host : Host) (boardId ts : String)
    (creds : List (String × String × Option String)) (entry : Json) :
    Command Unit := do
  let email := (entry.getStr? "email").getD ""
  let role := (entry.getStr? "role").getD "worker"
  knownRole role ""
  if email = "" then return ()
  else
    let cred ← credential creds email
    Store.addMember host
      { email
        role
        displayName := (entry.getStr? "display_name").getD email
        boardId
        boardToken := some cred.1
        boardTokenSalt := cred.2
        joinedAt := some ts
        domains := none
        capabilitySnapshot := none }

/-- The role and the verbs of an entry that has both. -/
def permissionEntry (entry : Json) : Option (String × List String) := do
  let role ← entry.getStr? "role"
  let verbs ← entry.getStrs? "verbs"
  return (role, verbs)

def knownVerb (role verb : String) : Command Unit :=
  if Store.knownVerbs.contains verb then return ()
  else
    fail (.badRequest ("unknown verb '" ++ verb ++ "' for role '" ++ role ++
      "' — known verbs: " ++ String.intercalate ", " Store.knownVerbs))

def knownPermission (entry : String × List String) : Command Unit := do
  knownRole entry.1 " in role_permissions"
  forEach entry.2 (knownVerb entry.1)

/-- The overrides of the permissions, all checked before the first is
written. -/
def overridePermissions (entries : Option (List Json)) : Command Unit :=
  match entries with
  | some entries => do
      let permissions := entries.filterMap permissionEntry
      forEach permissions knownPermission
      Store.insertRolePermissions permissions
  | none => return ()

/-- The owner's update of a board. The group whitelist it also writes is no
table of this database; that statement fails and its error is dropped. -/
def handleRefresh (host : Host) (notifier : Notifier) (cmd : A2aCommand)
    (sender : String) : Command CommandResponse := do
  let ts ← Store.utcNow
  let member ← Store.getMember notifier.boardId sender
  if member.all (·.role != "owner") then
    fail (.forbidden "only human can refresh board")
  else
    match ← Store.selectBoard notifier.boardId with
    | none =>
        fail (.notFound ("board " ++ notifier.boardId ++
          " not found — refresh requires an existing board " ++
          "(use [A2A] new to create)"))
    | some board =>
        Store.updateBoard
          { board with
            goal := (strParam cmd "description").or board.goal
            status := .active }
        let entries ← required (cmd.params.bind (·.getArray? "members"))
          "members array required"
        let members ← Store.listMembers notifier.boardId
        forEach entries
          (refreshMember host notifier.boardId ts (existingCreds members))
        Store.seedDefaultRolePermissions
        overridePermissions (cmd.params.bind (·.getArray? "role_permissions"))
        return okResponse none

/-- Where a task goes when its board is reopened, if it moves. -/
def reopenedStatus (reopened : List String) (task : Task) : Option TaskStatus :=
  if task.status = .done then some .running
  else if task.status = .ready && task.parentIds.any reopened.contains then
    some .todo
  else none

def reopenTask (reopened : List String) (task : Task) : Command Unit := do
  match reopenedStatus reopened task with
  | some status =>
      let now ← Store.utcNow
      Store.updateTask { task with status, updatedAt := now }
  | none => pure ()

def handleReopen (cmd : A2aCommand) (sender : String) :
    Command CommandResponse := do
  let boardId ← required (strParam cmd "board_id") "board_id required"
  requireRole boardId sender "reopen"
  let board ← Store.getBoard boardId
  if board.status ≠ .awaitingOwner then
    fail (.badRequest "board is not awaiting owner review")
  else
    let tasks ← Store.listTasks boardId none none
    let reopened := (tasks.filter (·.status = .done)).map (·.shortId)
    forEach tasks (reopenTask reopened)
    Store.updateBoard
      { board with
        status := .active
        planVersion := none
        criteriaVersion := none }
    return okResponse none

/-- The task a dispute is about, if it is found. -/
def arbitratedTask (taskId : String) : Command (Option Task) := do
  if taskId = "" then return none
  else
    match ← attempt (Store.resolveTaskId taskId) with
    | .error _ => return none
    | .ok full =>
        match ← attempt (Store.getTask full) with
        | .ok task => return some task
        | .error _ => return none

def handleArbitrate (cmd : A2aCommand) (sender : String) :
    Command CommandResponse := do
  let task ← arbitratedTask (cmd.taskId.getD "")
  let boardId := (task.map (·.boardId)).getD ""
  let member ← Store.getMember boardId sender
  let role := (member.map (·.role)).getD ""
  if role ≠ "orchestrator" ∧ role ≠ "verifier" then
    fail (.forbidden "only orchestrator or verifier can arbitrate")
  else return okResponse none

/-! ## Dispatch -/

def taskScoped : List String :=
  ["complete", "continue", "approve", "verify", "reject", "block", "unblock",
    "heartbeat", "comment", "cancel", "assign", "reassign", "edit", "deadline",
    "reopen", "output", "show"]

/-- A short id is replaced by the full one, for the verbs on a task. -/
def resolveReference (cmd : A2aCommand) : Command A2aCommand :=
  match cmd.taskId with
  | some raw =>
      if raw ≠ "" ∧ taskScoped.contains cmd.verb then do
        let taskId ← Store.resolveTaskId raw
        return { cmd with taskId := some taskId }
      else return cmd
  | none => return cmd

def unknownVerb (verb : String) : CommandResponse where
  status := "error"
  task := none
  data := none
  error := some ("unknown verb: " ++ verb)

def dispatch (host : Host) (notifier : Notifier) (cmd : A2aCommand)
    (sender : String) : Command CommandResponse :=
  match cmd.verb with
  | "complete" => handleComplete cmd sender
  | "continue" => handleContinue cmd sender
  | "approve" => handleApprove cmd sender
  | "review" => handleReview cmd sender
  | "verify" => handleApprove cmd sender
  | "reject" => handleReject cmd sender
  | "block" => handleBlock cmd sender
  | "unblock" => handleUnblock cmd sender
  | "heartbeat" => handleHeartbeat cmd sender
  | "comment" => handleComment cmd sender
  | "cancel" => handleCancel cmd sender
  | "assign" => handleReassign cmd sender
  | "reassign" => handleReassign cmd sender
  | "edit" => handleEdit cmd sender
  | "deadline" => handleDeadline host cmd sender
  | "reopen" => handleReopen cmd sender
  | "output" => handleOutput cmd sender
  | "show" => handleShow cmd sender
  | "list" => handleList cmd sender
  | "members" => handleMembers cmd sender
  | "roles" => handleRoles cmd sender
  | "status" => handleBoardStatus cmd sender
  | "gateway-info" => handleGatewayInfo
  | "create" => handleCreate host cmd sender
  | "refresh" => handleRefresh host notifier cmd sender
  | "arbitrate" => handleArbitrate cmd sender
  | verb => return unknownVerb verb

def executeCommand (host : Host) (notifier : Notifier) (cmd : A2aCommand)
    (sender : String) : Command CommandResponse := do
  let resolved ← resolveReference cmd
  dispatch host notifier resolved sender

end Commands

end AimailGateway.Board
