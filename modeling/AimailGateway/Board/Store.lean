import AimailGateway.Board.Tables
import AimailGateway.Library.Fallible

/-! # Access to a board database

The statements a command sends over its connection, each one atomic and
committed at once, and the functions that send them. A statement fails only
when it breaks a constraint.
-/

namespace AimailGateway.Board

open Library

/-- What a command takes from around it: the clock and the random numbers at
each moment, and functions of other libraries. -/
structure Host where
  now : Nat → String
  /-- `thread_rng().gen::<[u8; 16]>()` -/
  randomBytes : Nat → Fin 16 → UInt8
  /-- The digest of a text. -/
  sha256 : String → List UInt8
  /-- The text of a JSON value. -/
  toText : Json → String
  /-- `DateTime::parse_from_rfc3339` accepts the text. -/
  isRfc3339 : String → Bool

def generateBoardToken (bytes : Fin 16 → UInt8) : String :=
  "bdt_" ++ Text.hexEncode (List.ofFn bytes)

def generateBoardTokenSalt (bytes : Fin 16 → UInt8) : String :=
  Text.hexEncode (List.ofFn bytes)

/-- The only form a token is stored in. -/
def Host.boardTokenHash (host : Host) (raw salt : String) : String :=
  Text.hexEncode (host.sha256 (raw ++ "|" ++ salt))

structure BoardWorld where
  db : BoardDb
  tick : Nat

inductive Statement where
  | utcNow
  | generateBoardToken
  | generateBoardTokenSalt
  | selectBoard (boardId : String)
  | createBoard (board : BoardRecord)
  | updateBoard (board : BoardRecord)
  | setBoard (boardId : String) (change : BoardRecord → BoardRecord)
  | selectMember (boardId email : String)
  | selectMembers (boardId : String)
  /-- With the token as it is stored. -/
  | upsertMember (member : Member)
  | migrateToken (boardId email hashed salt : String)
  | countRole (role : String)
  | countRoleVerb (role verb : String)
  | selectRolePermissions
  | addRolePermission (role verb : String)
  | selectTaskById (taskId : String)
  | selectTaskByShortId (shortId : String)
  | selectTasks (boardId : String) (status assignee : Option String)
  | insertTask (task : Task)
  | updateTask (task : Task)
  | touchTask (taskId now : String)
  | insertEvent (event : TaskEvent)
  | selectUnfinished (boardId : String)
  | nextTaskSeq (boardId : String)

abbrev Statement.Answer : Statement → Type
  | .utcNow => String
  | .generateBoardToken => String
  | .generateBoardTokenSalt => String
  | .selectBoard _ => Option BoardRecord
  | .createBoard _ => Except AppError Unit
  | .updateBoard _ => Unit
  | .setBoard _ _ => Unit
  | .selectMember _ _ => Option Member
  | .selectMembers _ => List Member
  | .upsertMember _ => Except AppError Unit
  | .migrateToken _ _ _ _ => Unit
  | .countRole _ => Nat
  | .countRoleVerb _ _ => Nat
  | .selectRolePermissions => List (String × String)
  | .addRolePermission _ _ => Unit
  | .selectTaskById _ => Option Task
  | .selectTaskByShortId _ => Option Task
  | .selectTasks _ _ _ => List Task
  | .insertTask _ => Except AppError Unit
  | .updateTask _ => Except AppError Unit
  | .touchTask _ _ => Unit
  | .insertEvent _ => Except AppError Unit
  | .selectUnfinished _ => List (String × String)
  | .nextTaskSeq _ => Nat

namespace BoardDb

def findBoard (db : BoardDb) (boardId : String) : Option BoardRecord :=
  db.boards.find? (·.id == boardId)

def findMember (db : BoardDb) (boardId email : String) : Option Member :=
  db.members.find? fun row => row.boardId == boardId && row.email == email

def findTask (db : BoardDb) (taskId : String) : Option Task :=
  (db.tasks.find? (·.id == taskId)).map taskFromRow

def findTaskByShortId (db : BoardDb) (shortId : String) : Option Task :=
  (db.tasks.find? (·.shortId == shortId)).map taskFromRow

def listTasks (db : BoardDb) (boardId : String)
    (status assignee : Option String) : List Task :=
  (db.tasks.select fun row =>
    row.boardId == boardId && status.all (· == row.status.toText) &&
      assignee.all (· == row.assignee)).map taskFromRow

/-- The short ids and states of the tasks of a board that still need work. -/
def unfinished (db : BoardDb) (boardId : String) : List (String × String) :=
  (db.tasks.select fun row =>
    row.boardId == boardId &&
      !(["done", "cancelled", "triage", "archived"].contains row.status.toText)).map
    fun row => (row.shortId, row.status.toText)

end BoardDb

namespace BoardWorld

def commit (world : BoardWorld) (outcome : Except AppError BoardDb) :
    Except AppError Unit × BoardWorld :=
  match outcome with
  | .ok db => (.ok (), { world with db })
  | .error error => (.error error, world)

def tock (world : BoardWorld) : BoardWorld :=
  { world with tick := world.tick + 1 }

end BoardWorld

/-- What a statement answers and leaves behind. -/
def perform (host : Host) : (statement : Statement) → BoardWorld →
    statement.Answer × BoardWorld
  | .utcNow, world => (host.now world.tick, world.tock)
  | .generateBoardToken, world =>
      (generateBoardToken (host.randomBytes world.tick), world.tock)
  | .generateBoardTokenSalt, world =>
      (generateBoardTokenSalt (host.randomBytes world.tick), world.tock)
  | .selectBoard boardId, world => (world.db.findBoard boardId, world)
  | .createBoard board, world => world.commit (world.db.createBoard board)
  | .updateBoard board, world =>
      ((), { world with db := world.db.updateBoard board })
  | .setBoard boardId change, world =>
      ((), { world with db := world.db.setBoard boardId change })
  | .selectMember boardId email, world =>
      (world.db.findMember boardId email, world)
  | .selectMembers boardId, world =>
      (world.db.members.select (·.boardId == boardId), world)
  | .upsertMember member, world => world.commit (world.db.upsertMember member)
  | .migrateToken boardId email hashed salt, world =>
      ((), { world with db := world.db.migrateToken boardId email hashed salt })
  | .countRole role, world =>
      (world.db.rolePermissions.countP (·.1 == role), world)
  | .countRoleVerb role verb, world =>
      (world.db.rolePermissions.countP (· == (role, verb)), world)
  | .selectRolePermissions, world => (world.db.rolePermissions, world)
  | .addRolePermission role verb, world =>
      ((), { world with db := world.db.addRolePermission role verb })
  | .selectTaskById taskId, world => (world.db.findTask taskId, world)
  | .selectTaskByShortId shortId, world =>
      (world.db.findTaskByShortId shortId, world)
  | .selectTasks boardId status assignee, world =>
      (world.db.listTasks boardId status assignee, world)
  | .insertTask task, world => world.commit (world.db.insertTask task)
  | .updateTask task, world => world.commit (world.db.updateTask task)
  | .touchTask taskId now, world =>
      ((), { world with db := world.db.touchTask taskId now })
  | .insertEvent event, world => world.commit (world.db.insertEvent event)
  | .selectUnfinished boardId, world => (world.db.unfinished boardId, world)
  | .nextTaskSeq boardId, world =>
      (world.db.nextTaskSeq boardId,
        { world with db := world.db.bumpTaskSeq boardId })

/-- A function that works over a connection to a board database. -/
abbrev Command (α : Type) : Type :=
  Fallible Statement Statement.Answer AppError α

def Command.run (host : Host) (command : Command α) :
    Action BoardWorld AppError α :=
  Fallible.toAction (perform host) command

open Fallible

namespace Store

def send (statement : Statement) : Command statement.Answer :=
  ask statement

def utcNow : Command String := send .utcNow

/-! ## Boards and members -/

def selectBoard (boardId : String) : Command (Option BoardRecord) :=
  send (.selectBoard boardId)

def getBoard (boardId : String) : Command BoardRecord := do
  match ← selectBoard boardId with
  | some board => return board
  | none => fail noRows

def createBoard (board : BoardRecord) : Command Unit := do
  check (← send (.createBoard board))

def updateBoard (board : BoardRecord) : Command Unit :=
  send (.updateBoard board)

def archiveBoard (boardId : String) : Command Unit := do
  let now ← utcNow
  send (.setBoard boardId fun row =>
    { row with status := .archived, completedAt := some now })

def getMember (boardId email : String) : Command (Option Member) :=
  send (.selectMember boardId email)

def listMembers (boardId : String) : Command (List Member) :=
  send (.selectMembers boardId)

def generateBoardToken : Command String := send .generateBoardToken

def generateBoardTokenSalt : Command String := send .generateBoardTokenSalt

def upsertMember (member : Member) : Command Unit := do
  check (← send (.upsertMember member))

/-- A raw token is stored as its hash with a fresh salt, a stored one as it
is. -/
def addMember (host : Host) (member : Member) : Command Unit := do
  match member.boardToken, member.boardTokenSalt with
  | some raw, none =>
      let salt ← generateBoardTokenSalt
      upsertMember { member with
        boardToken := some (host.boardTokenHash raw salt)
        boardTokenSalt := some salt }
  | some _, some _ => upsertMember member
  | none, _ => upsertMember { member with boardTokenSalt := none }

/-- Verify a member's token. A token that is stored as it is, where that is
still allowed, is replaced by its hash. -/
def verifyMemberTokenCfg (host : Host) (boardId token memberEmail : String)
    (allowPlaintext : Bool) : Command (Option String) := do
  if memberEmail = "" ∨ token = "" then return none
  else
    match ← getMember boardId memberEmail with
    | none => return none
    | some row =>
        match row.boardToken, row.boardTokenSalt with
        | none, _ => return none
        | some stored, some salt =>
            if host.boardTokenHash token salt = stored then
              return some row.email
            else return none
        | some stored, none =>
            if allowPlaintext = true ∧ token = stored then
              let salt ← generateBoardTokenSalt
              send (.migrateToken boardId memberEmail
                (host.boardTokenHash token salt) salt)
              return some row.email
            else return none

/-! ## Permissions -/

def knownRoles : List String := ["orchestrator", "verifier", "worker", "owner"]

def knownVerbs : List String :=
  ["tasks", "create", "assign", "review", "block", "unblock", "cancel",
    "reassign", "edit", "deadline", "output", "notify", "members", "roles",
    "config", "arbitrate", "comment", "list", "show", "status", "heartbeat",
    "verify", "approve", "reject", "complete", "continue", "commit", "reopen"]

def defaults : List (String × List String) :=
  [("orchestrator",
      ["tasks", "create", "assign", "review", "block", "unblock", "cancel",
        "reassign", "edit", "deadline", "output", "notify", "members", "roles",
        "config", "arbitrate", "continue", "comment", "list", "show", "status",
        "heartbeat"]),
    ("verifier",
      ["verify", "approve", "reject", "output", "continue", "comment", "list",
        "show", "roles", "members", "status", "heartbeat"]),
    ("worker",
      ["complete", "commit", "block", "heartbeat", "continue", "comment",
        "list", "show", "roles", "members", "status"]),
    ("owner",
      ["create", "tasks", "unblock", "reassign", "reopen", "continue",
        "comment", "list", "show", "status", "members", "roles",
        "heartbeat"])]

def countRole (role : String) : Command Nat := send (.countRole role)

def countRoleVerb (role verb : String) : Command Nat :=
  send (.countRoleVerb role verb)

def selectRolePermissions : Command (List (String × String)) :=
  send .selectRolePermissions

def addRolePermission (role verb : String) : Command Unit :=
  send (.addRolePermission role verb)

def addRolePermissions (permissions : List (String × List String)) :
    Command Unit :=
  forEach permissions fun entry =>
    forEach entry.2 fun verb => addRolePermission entry.1 verb

def insertRolePermissions (permissions : List (String × List String)) :
    Command Unit :=
  addRolePermissions permissions

def seedDefaultRolePermissions : Command Unit := addRolePermissions defaults

/-- Known roles are seeded on their first check; unknown roles are denied. -/
def checkRolePermission (role verb : String) : Command Bool := do
  let count ← countRole role
  if count = 0 then
    if knownRoles.contains role then
      seedDefaultRolePermissions
      let allowed ← countRoleVerb role verb
      return decide (0 < allowed)
    else
      return false
  else
    let allowed ← countRoleVerb role verb
    return decide (0 < allowed)

/-! ## Tasks -/

def selectTaskById (taskId : String) : Command (Option Task) :=
  send (.selectTaskById taskId)

def selectTaskByShortId (shortId : String) : Command (Option Task) :=
  send (.selectTaskByShortId shortId)

/-- By full id or, failing that, by short id. -/
def getTask (taskRef : String) : Command Task := do
  match ← selectTaskById taskRef with
  | some task => return task
  | none =>
      match ← selectTaskByShortId taskRef with
      | some task => return task
      | none => fail noRows

def resolveTaskId (taskRef : String) : Command String := do
  let task ← getTask taskRef
  return task.id

def listTasks (boardId : String) (statusFilter assigneeFilter : Option String) :
    Command (List Task) :=
  send (.selectTasks boardId statusFilter assigneeFilter)

def createTask (task : Task) : Command Unit := do
  check (← send (.insertTask task))

def updateTask (task : Task) : Command Unit := do
  check (← send (.updateTask task))

def touchTask (taskId : String) : Command Unit := do
  let now ← utcNow
  send (.touchTask taskId now)

def insertEvent (event : TaskEvent) : Command Unit := do
  check (← send (.insertEvent event))

/-- One line for each task that is not done. -/
def verifyPipelineIntegrity (boardId : String) : Command (List String) := do
  let rows ← send (.selectUnfinished boardId)
  return rows.map fun row => row.1 ++ " status=" ++ row.2

def nextShortId (boardId : String) : Command String := do
  let next ← send (.nextTaskSeq boardId)
  return "T" ++ toString next

def makeTaskId (boardId shortId : String) : String :=
  "t_" ++ shortId ++ "_" ++ String.ofList (boardId.toList.take 8)

end Store

end AimailGateway.Board
