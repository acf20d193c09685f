import AimailGateway.Board.Awareness
import AimailGateway.Board.Gateway

/-! # The HTTP interface and the periodic scans

A request authenticates with the token of a member and either reads the board
or reports a heartbeat. The scans look after stale tasks and old boards; the
one that only warns is left out.
-/

namespace AimailGateway.Board

open Library Fallible

namespace Handlers

inductive Request where
  | listTasks (status assignee : Option String)
  | listMembers
  | listRoles
  | getTask (taskId : String)
  | postHeartbeat (taskId : String)
  | boardStatus

def Request.verb : Request → String
  | .listTasks _ _ => "list"
  | .listMembers => "members"
  | .listRoles => "roles"
  | .getTask _ => "show"
  | .postHeartbeat _ => "heartbeat"
  | .boardStatus => "status"

def resolveBoardPathSegment (settings : Settings) (segment : String) : String :=
  if Text.containsChar '@' segment then deriveBoardId settings segment
  else segment

/-- The member, if the token is valid and the role permits the verb. -/
def authorize (settings : Settings) (boardId token memberEmail verb : String) :
    Command (Option String) := do
  match ← Store.verifyMemberTokenCfg settings.host boardId token memberEmail
    settings.allowPlaintext with
  | none => return none
  | some email =>
      match ← Store.getMember boardId email with
      | none => return none
      | some member =>
          if ← Store.checkRolePermission member.role verb then
            return some email
          else return none

def answer (boardId member : String) : Request → Command Unit
  | .listTasks status assignee => do
      let _ ← Awareness.listTasks boardId status assignee
      return ()
  | .listMembers => do
      let _ ← Awareness.listMembers boardId (some member)
      return ()
  | .listRoles => do
      let _ ← Awareness.listRoles
      return ()
  | .getTask taskId => do
      let _ ← Awareness.getTask taskId
      return ()
  | .postHeartbeat taskId => Awareness.heartbeat taskId member
  | .boardStatus => do
      let _ ← Awareness.boardStatus boardId
      return ()

def unauthorized : AppError := .forbidden "invalid token or role"

def serve (settings : Settings) (boardId memberEmail token : String)
    (request : Request) : Command Unit := do
  match ← authorize settings boardId token memberEmail request.verb with
  | some member => answer boardId member request
  | none => fail unauthorized

def handle (settings : Settings) (segment memberEmail token : String)
    (request : Request) : Action Gateway AppError Unit :=
  let boardId := resolveBoardPathSegment settings segment
  onBoard settings boardId (serve settings boardId memberEmail token request)

end Handlers

namespace Sweeper

/-- More seconds have passed since a time than allowed. -/
def isStale (settings : Settings) (tick : Nat) (threshold : Int)
    (time : String) : Bool :=
  (settings.elapsed tick time).any fun seconds =>
    decide (threshold < seconds) && decide (0 ≤ seconds)

/-- Block the running tasks of a board without a recent heartbeat. -/
def blockStale (settings : Settings) (tick : Nat) (boardId : String) :
    Command Unit := do
  let tasks ← Store.listTasks boardId (some "running") none
  forEach (tasks.filter fun task =>
      isStale settings tick settings.heartbeatStale task.updatedAt)
    fun task => ignore (Store.updateTask { task with status := .blocked })

def scanStaleHeartbeats (settings : Settings) (boards : List String)
    (tick : Nat) : Action Gateway AppError Unit :=
  match boards with
  | [] => pure ()
  | boardId :: rest => do
      onBoard settings boardId (blockStale settings tick boardId)
      scanStaleHeartbeats settings rest tick

def archiveCompleted (settings : Settings) (tick : Nat) (boardId : String) :
    Command Unit := do
  match ← Store.selectBoard boardId with
  | some board =>
      if board.status = .completed ∧
          board.completedAt.any (isOld tick) = true then
        Store.archiveBoard boardId
      else return ()
  | none => return ()
where
  isOld (tick : Nat) (time : String) : Bool :=
    (settings.elapsed tick time).any fun seconds =>
      decide (settings.archiveAfter < seconds)

def scanCompletedBoards (settings : Settings) (boards : List String)
    (tick : Nat) : Action Gateway AppError Unit :=
  match boards with
  | [] => pure ()
  | boardId :: rest => do
      onBoard settings boardId (archiveCompleted settings tick boardId)
      scanCompletedBoards settings rest tick

end Sweeper

end AimailGateway.Board
