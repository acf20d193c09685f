import AimailGateway.Board.Runs

/-! # Connections to a board

Mails are delivered in parallel, beside requests and scans. What each of them
does over a connection to the file of a board is a job that sends one statement
after the other, without a transaction, so the statements of different jobs
alternate in any order and one can fail while the others go on.
-/

namespace AimailGateway.Board

open Library Fallible

/-- What a mail, a request or a scan does over one connection. -/
inductive Job where
  | command (notifier : Notifier) (cmd : A2aCommand) (sender : String)
  | lookUp
  | found (shortId boardEmail description system : String)
  | enroll (members : List Json)
  | permit (given : Option (List (String × List String)))
  | confirm (sender body : String) (kind : Interceptor.ConfirmType)
      (after : Option String)
  | request (memberEmail token : String) (request : Handlers.Request)
  | scanHeartbeats (tick : Nat)
  | scanCompleted (tick : Nat)

/-- A command whose value is not used. -/
def discard (command : Command α) : Command Unit := do
  let _ ← command
  return ()

namespace Job

def program (settings : Settings) (boardId : String) : Job → Command Unit
  | .command notifier cmd sender =>
      discard (Commands.executeCommand settings.host notifier cmd sender)
  | .lookUp => discard (Store.selectBoard boardId)
  | .found shortId boardEmail description system =>
      Interceptor.insertBoard boardId shortId boardEmail description system
  | .enroll members =>
      discard (Interceptor.registerMembers settings.host boardId members)
  | .permit given => Interceptor.initPermissions given
  | .confirm sender body kind after =>
      Interceptor.confirmAs boardId sender body kind after
  | .request memberEmail token asked =>
      Handlers.serve settings boardId memberEmail token asked
  | .scanHeartbeats tick => Sweeper.blockStale settings tick boardId
  | .scanCompleted tick => Sweeper.archiveCompleted settings tick boardId

/-- Who approves a task by the job, if it is an approval. -/
def approver : Job → Option String
  | .command _ cmd sender =>
      if cmd.verb ∈ ["approve", "verify"] then some sender else none
  | _ => none

end Job

/-- A job under way: what it has still to do, and the task it read last. -/
structure Connection where
  job : Job
  rest : Command Unit
  read : Option Task

/-- The task a job has at hand after an answer. -/
def seen : (statement : Statement) → statement.Answer → Option Task →
    Option Task
  | .selectTaskById _, answer, read => answer.or read
  | .selectTaskByShortId _, answer, read => answer.or read
  | _, _, read => read

def locked : AppError := .database "database is locked"

/-- The answer of a statement that fails, where the job goes on with it. The
error of any other statement ends the job. -/
def lockedAnswer : (statement : Statement) → Option statement.Answer
  | .createBoard _ => some (.error locked)
  | .upsertMember _ => some (.error locked)
  | .insertTask _ => some (.error locked)
  | .updateTask _ => some (.error locked)
  | .insertEvent _ => some (.error locked)
  | _ => none

namespace Connection

def opened (settings : Settings) (boardId : String) (job : Job) :
    Connection where
  job := job
  rest := job.program settings boardId
  read := none

def send (host : Host) (connection : Connection) (world : BoardWorld) :
    Connection × BoardWorld :=
  match connection.rest with
  | .done _ => (connection, world)
  | .request statement next =>
      let outcome := perform host statement world
      ({ connection with
          rest := next outcome.1
          read := seen statement outcome.1 connection.read },
        outcome.2)

/-- The next statement fails, because of a lock or of the disk. -/
def fail (connection : Connection) : Connection :=
  match connection.rest with
  | .done _ => connection
  | .request statement next =>
      { connection with
        rest := (lockedAnswer statement).elim (.done (.error locked)) next }

end Connection

/-- The file of a board and the jobs on it. -/
structure Floor where
  world : BoardWorld
  connections : List Connection

inductive Move where
  | opens (job : Job)
  | sends (index : Nat)
  | fails (index : Nat)
  /-- The batch that renames an address. -/
  | renames (old new : String)

namespace Floor

def start (db : BoardDb) : Floor where
  world := ⟨db, 0⟩
  connections := []

/-- The rows of the board. -/
abbrev db (floor : Floor) : BoardDb := floor.world.db

def sends (host : Host) (index : Nat) (floor : Floor) : Floor :=
  match floor.connections[index]? with
  | none => floor
  | some connection =>
      let outcome := connection.send host floor.world
      { world := outcome.2
        connections := floor.connections.set index outcome.1 }

def fails (index : Nat) (floor : Floor) : Floor :=
  match floor.connections[index]? with
  | none => floor
  | some connection =>
      { floor with
        connections := floor.connections.set index connection.fail }

def renames (settings : Settings) (old new : String) (floor : Floor) : Floor :=
  { floor with
    world := { floor.world with
      db := renamedFile settings old new floor.world.db } }

def advance (settings : Settings) (boardId : String) (move : Move)
    (floor : Floor) : Floor :=
  match move with
  | .opens job =>
      { floor with
        connections :=
          floor.connections ++ [Connection.opened settings boardId job] }
  | .sends index => floor.sends settings.host index
  | .fails index => floor.fails index
  | .renames old new => floor.renames settings old new

def Step (settings : Settings) (boardId : String) (floor : Floor) (move : Move)
    (next : Floor) : Prop :=
  floor.advance settings boardId move = next

end Floor

/-! ## One job alone -/

theorem Floor.sends_of_get {host : Host} {floor : Floor} {index : Nat}
    {connection : Connection}
    (there : floor.connections[index]? = some connection) :
    floor.sends host index =
      { world := (connection.send host floor.world).2
        connections :=
          floor.connections.set index (connection.send host floor.world).1 } := by
  rw [sends, there]

theorem Floor.sends_alone {settings : Settings} {boardId : String}
    {index : Nat} {rest : Command Unit} {floor : Floor}
    {connection : Connection}
    (there : floor.connections[index]? = some connection)
    (begins : connection.rest = rest) :
    ∃ count last ended,
      Run (Step settings boardId) floor (List.replicate count (.sends index))
        last ∧
      last.connections[index]? = some ended ∧
      ended.rest = .done (Command.run settings.host rest floor.world).1 ∧
      last.world = (Command.run settings.host rest floor.world).2 := by
  induction rest generalizing floor connection with
  | done outcome =>
      exact ⟨0, floor, connection, .nil floor, there, begins, rfl⟩
  | request statement next induction =>
      have sent : connection.send settings.host floor.world =
          ({ connection with
              rest := next (perform settings.host statement floor.world).1
              read := seen statement
                (perform settings.host statement floor.world).1
                connection.read },
            (perform settings.host statement floor.world).2) := by
        rw [Connection.send, begins]
      have inside : index < floor.connections.length :=
        (List.getElem?_eq_some_iff.mp there).1
      have moved := @Floor.sends_of_get settings.host _ _ _ there
      rw [sent] at moved
      rcases @induction _ (floor.sends settings.host index) _
        (by rw [moved]; exact List.getElem?_set_self inside) rfl with
        ⟨count, last, ended, run, stays, done, world⟩
      rw [moved] at done world
      exact ⟨count + 1, last, ended, .cons rfl run, stays, done, world⟩

end AimailGateway.Board
