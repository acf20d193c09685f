import AimailGateway.Board.Address
import AimailGateway.Board.Effects
import AimailGateway.Board.Rename
import AimailGateway.Storage.Call

/-! # The boards of a gateway

A gateway keeps one database file for each board, next to its main database.
Work on a board goes over a connection to its file, which opening creates.
-/

namespace AimailGateway.Board

open Library

/-- The configuration of the gateway and what it takes from around it. -/
structure Settings where
  host : Host
  env : Surroundings
  /-- `serde_json::from_str`. -/
  parseJson : String → Option Json
  /-- The first ten bytes of the SHA-256 of a text, in hexadecimal. -/
  digest : String → String
  /-- `rand::random::<u8>() % 36`. -/
  random : Nat → Nat
  /-- The hook that limits the boards of a system. -/
  admitBoard : Nat → String → Bool
  /-- The seconds since an RFC 3339 time. -/
  elapsed : Nat → String → Option Int
  /-- `board.allow_plaintext_board_tokens`. -/
  allowPlaintext : Bool
  /-- `board.heartbeat_stale_seconds`. -/
  heartbeatStale : Int
  archiveAfter : Int
  /-- What SQLite makes of the rename batch for a board when the text of an
  address that is pasted into it contains an apostrophe. -/
  quotedRename : String → String → (db : BoardDb) →
    { after : BoardDb // Relabelled db after }

structure Gateway where
  /-- The database of each board id, empty where there is no file. -/
  files : String → BoardDb
  main : World
  tick : Nat

namespace Gateway

/-- A gateway without boards. -/
def start (main : World) : Gateway where
  files := fun _ => .empty
  main := main
  tick := 0

def boardWorld (gateway : Gateway) (boardId : String) : BoardWorld :=
  ⟨gateway.files boardId, gateway.tick⟩

def withBoard (gateway : Gateway) (boardId : String) (world : BoardWorld) :
    Gateway :=
  { gateway with
    files := Function.update gateway.files boardId world.db
    tick := world.tick }

end Gateway

def onBoard (settings : Settings) (boardId : String) (command : Command α) :
    Action Gateway AppError α :=
  fun gateway =>
    let outcome := Command.run settings.host command (gateway.boardWorld boardId)
    (outcome.1, gateway.withBoard boardId outcome.2)

def onMain (storage : Storage α) : Action Gateway AppError α :=
  fun gateway =>
    let outcome := storage gateway.main
    (outcome.1, { gateway with main := outcome.2 })

/-- `derive_board_id`. -/
def deriveBoardId (settings : Settings) (boardEmail : String) : String :=
  settings.digest (settings.env.tables.toLowercase boardEmail)

/-- The id in what `parse_board_email` makes of an address. -/
def boardIdOf (settings : Settings) (addr : String) : Option String :=
  (parseBoardEmail addr).map fun _ => deriveBoardId settings addr

/-! ## Rules -/

namespace Gateway

@[simp] theorem withBoard_own (gateway : Gateway) (boardId : String)
    (world : BoardWorld) :
    (gateway.withBoard boardId world).files boardId = world.db := by
  simp [withBoard]

@[simp] theorem withBoard_other (gateway : Gateway) {boardId other : String}
    (world : BoardWorld) (different : other ≠ boardId) :
    (gateway.withBoard boardId world).files other = gateway.files other := by
  simp [withBoard, different]

@[simp] theorem withBoard_self (gateway : Gateway) (boardId : String) :
    gateway.withBoard boardId (gateway.boardWorld boardId) = gateway := by
  simp [withBoard, boardWorld]

@[simp] theorem boardWorld_db (gateway : Gateway) (boardId : String) :
    (gateway.boardWorld boardId).db = gateway.files boardId :=
  rfl

end Gateway

variable {settings : Settings} {gateway : Gateway}

@[simp] theorem ends_onBoard {boardId : String} {command : Command α}
    {ok : α → Gateway → Prop} {failed : AppError → Gateway → Prop} :
    (onBoard settings boardId command).Ends ok failed gateway ↔
      (Command.run settings.host command).Ends
        (fun value world => ok value (gateway.withBoard boardId world))
        (fun error world => failed error (gateway.withBoard boardId world))
        (gateway.boardWorld boardId) := by
  rw [Action.Ends, Action.Ends, onBoard]
  rcases Command.run settings.host command (gateway.boardWorld boardId) with
    ⟨_ | _, _⟩
  · rfl
  · rfl

theorem onMain_ends {storage : Storage α} {ok : α → Gateway → Prop}
    {failed : AppError → Gateway → Prop}
    (succeeds : ∀ value main, storage gateway.main = (.ok value, main) →
      ok value { gateway with main })
    (fails : ∀ error main, storage gateway.main = (.error error, main) →
      failed error { gateway with main }) :
    (onMain storage).Ends ok failed gateway := by
  rw [Action.Ends, onMain]
  rcases outcome : storage gateway.main with ⟨error | value, main⟩
  · exact fails error main outcome
  · exact succeeds value main outcome

end AimailGateway.Board
