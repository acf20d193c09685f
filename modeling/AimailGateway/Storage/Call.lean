import AimailGateway.Errors
import AimailGateway.Library.Action
import AimailGateway.Library.Text
import AimailGateway.Storage.Records

/-! # Storage calls

Every use of the database goes through `Database::call`, which runs one
statement or one transaction and may fail. What the program does not decide
(which call fails, what the clock shows, what a generator draws) is read from
`Surroundings`, at the number of the question asked.
-/

namespace AimailGateway

open Library

/-- Why a storage call ends before it changes anything: no connection, or an
error SQLite reports. -/
inductive StorageFault where
  | pool (message : String)
  | statement (message : String)
  deriving DecidableEq, Repr

def StorageFault.error : StorageFault → AppError
  | .pool message => .internal ("Pool error: " ++ message)
  | .statement message => .database message

structure Surroundings where
  /-- The fault a storage call ends with. -/
  fault : Nat → Option StorageFault
  clock : Nat → Timestamp
  uuid : Nat → String
  /-- `last_insert_rowid()` of the pooled connection the call runs on, before
  the call. -/
  lastInsertRowid : Nat → Int
  /-- The order in which a query without `ORDER BY` answers. -/
  listed : Nat → List WhitelistRecord → List WhitelistRecord
  listed_perm : ∀ tick rows, (listed tick rows).Perm rows
  /-- Why the host of a webhook URL cannot be delivered to, if so. -/
  webhookTarget : Nat → String → Option String
  /-- What SQLite makes of the rename batch when the text of an address that
  is pasted into it contains an apostrophe. -/
  quotedBatch : String → String → Database → Except AppError Database
  tables : CaseTables

/-- No storage call fails. -/
def Surroundings.Calm (env : Surroundings) : Prop :=
  ∀ tick, env.fault tick = none

/-- Surroundings in which nothing fails, with constant answers. -/
def Surroundings.steady (clock : Timestamp) (uuid : String) : Surroundings where
  fault := fun _ => none
  clock := fun _ => clock
  uuid := fun _ => uuid
  lastInsertRowid := fun _ => 0
  listed := fun _ rows => rows
  listed_perm := fun _ rows => List.Perm.refl rows
  webhookTarget := fun _ _ => none
  quotedBatch := fun _ _ _ => .error (.database "syntax error")
  tables := Text.asciiTables

theorem Surroundings.steady_calm (clock : Timestamp) (uuid : String) :
    (steady clock uuid).Calm :=
  fun _ => rfl

structure World where
  db : Database
  tick : Nat

def World.start (db : Database) : World := ⟨db, 0⟩

def World.later (world : World) : World :=
  { world with tick := world.tick + 1 }

/-- Any failure that leaves the database as it is may happen. -/
def AllowsFailure (failed : ε → World → Prop) (world : World) : Prop :=
  ∀ error later, later.db = world.db → failed error later

def World.withDb (world : World) (db : Database) : World := ⟨db, world.tick + 1⟩

@[simp] theorem World.later_db (world : World) : world.later.db = world.db := rfl

@[simp] theorem World.withDb_db (world : World) (db : Database) :
    (world.withDb db).db = db := rfl

abbrev Storage := Action World AppError

abbrev Handler := Action World HttpError

/-- `Database::call`. A statement that fails leaves the database as it was. -/
def call (env : Surroundings)
    (statement : Database → Except AppError (α × Database)) : Storage α :=
  fun world =>
    match env.fault world.tick with
    | some fault => (.error fault.error, world.later)
    | none =>
        match statement world.db with
        | .ok (value, db) => (.ok value, world.withDb db)
        | .error error => (.error error, world.later)

/-- A call that only reads. -/
def query (env : Surroundings) (read : Database → α) : Storage α :=
  call env fun db => .ok (read db, db)

/-- `Utc::now`. -/
def now (env : Surroundings) : Action World ε Timestamp :=
  fun world => (.ok (env.clock world.tick), world.later)

/-- `Uuid::new_v4`, without hyphens. -/
def newUuid (env : Surroundings) : Action World ε String :=
  fun world => (.ok (env.uuid world.tick), world.later)

/-- `last_insert_rowid` of the connection, when the statement inserts nothing. -/
def staleRowid (env : Surroundings) : Action World ε Int :=
  fun world => (.ok (env.lastInsertRowid world.tick), world.later)

def webhookCheck (env : Surroundings) (url : String) :
    Action World AppError Unit :=
  fun world =>
    match env.webhookTarget world.tick url with
    | some reason => (.error (.validation reason), world.later)
    | none => (.ok (), world.later)

/-- The error of a statement that breaks a `PRIMARY KEY` or `UNIQUE`
constraint. -/
def constraintFailed : AppError := .database "UNIQUE constraint failed"

/-- Answer a failed storage call with 500 and the error's text. -/
def orDatabaseError (storage : Storage α) : Handler α :=
  storage.mapError databaseError

section Ends

open Action

variable {env : Surroundings} {world : World}
  {failed : AppError → World → Prop}

theorem ends_call {statement : Database → Except AppError (α × Database)}
    {ok : α → World → Prop} :
    (call env statement).Ends ok failed world ↔
      (∀ fault, env.fault world.tick = some fault →
        failed fault.error world.later) ∧
        (env.fault world.tick = none →
          (∀ error, statement world.db = .error error →
            failed error world.later) ∧
          ∀ value db, statement world.db = .ok (value, db) →
            ok value (world.withDb db)) := by
  unfold Ends call
  cases env.fault world.tick with
  | some fault => simp
  | none =>
      rcases statement world.db with error | ⟨value, db⟩ <;> simp

theorem webhookCheck_ends {url : String} {ok : Unit → World → Prop}
    (refused : ∀ reason, failed (.validation reason) world.later)
    (passed : ok () world.later) :
    (webhookCheck env url).Ends ok failed world := by
  rw [Ends, webhookCheck]
  cases env.webhookTarget world.tick url with
  | some reason => exact refused _
  | none => exact passed

theorem ends_query {read : Database → α} {ok : α → World → Prop} :
    (query env read).Ends ok failed world ↔
      (∀ fault, env.fault world.tick = some fault →
        failed fault.error world.later) ∧
        (env.fault world.tick = none → ok (read world.db) world.later) := by
  rw [query, ends_call]
  simp [World.withDb, World.later]

theorem Surroundings.Calm.ends_query (calm : env.Calm) {read : Database → α}
    {ok : α → World → Prop} :
    (query env read).Ends ok failed world ↔ ok (read world.db) world.later := by
  simp [AimailGateway.ends_query, calm world.tick]

theorem query_ends {read : Database → α} {ok : α → World → Prop}
    (fault : ∀ error, failed error world.later)
    (answer : ok (read world.db) world.later) :
    (query env read).Ends ok failed world :=
  ends_query.mpr ⟨fun _ _ => fault _, fun _ => answer⟩

theorem find_ends {Row : Type} {conflict : Row → Row → Bool}
    {rows : Database → Table Row conflict} {selected : Row → Bool}
    {ok : Option Row → World → Prop} (fault : ∀ error, failed error world.later)
    (missing : (∀ row ∈ rows world.db, selected row = false) →
      ok none world.later)
    (found : ∀ row ∈ rows world.db, selected row = true →
      ok (some row) world.later) :
    (query env fun db => (rows db).find? selected).Ends ok failed world := by
  apply query_ends fault
  cases search : (rows world.db).find? selected with
  | none => exact missing (Table.find?_eq_none.mp search)
  | some row =>
      rcases Table.mem_of_find? search with ⟨member, chosen⟩
      exact found row member chosen

theorem call_ends {statement : Database → Except AppError (α × Database)}
    {ok : α → World → Prop} (fault : ∀ error, failed error world.later)
    (answer : ∀ value db, statement world.db = .ok (value, db) →
      ok value (world.withDb db)) :
    (call env statement).Ends ok failed world :=
  ends_call.mpr
    ⟨fun _ _ => fault _, fun _ => ⟨fun error _ => fault error, answer⟩⟩

theorem Surroundings.Calm.ends_call (calm : env.Calm)
    {statement : Database → Except AppError (α × Database)}
    {value : α} {db : Database}
    (executed : statement world.db = .ok (value, db)) {ok : α → World → Prop} :
    (call env statement).Ends ok failed world ↔ ok value (world.withDb db) := by
  simp [AimailGateway.ends_call, calm world.tick, executed]

@[simp] theorem ends_now {ok : Timestamp → World → Prop}
    {failed : ε → World → Prop} :
    (now env).Ends ok failed world ↔ ok (env.clock world.tick) world.later :=
  Iff.rfl

@[simp] theorem ends_newUuid {ok : String → World → Prop}
    {failed : ε → World → Prop} :
    (newUuid env).Ends ok failed world ↔ ok (env.uuid world.tick) world.later :=
  Iff.rfl

@[simp] theorem ends_staleRowid {ok : Int → World → Prop}
    {failed : ε → World → Prop} :
    (staleRowid env).Ends ok failed world ↔
      ok (env.lastInsertRowid world.tick) world.later :=
  Iff.rfl

@[simp] theorem ends_orDatabaseError {storage : Storage α}
    {ok : α → World → Prop} {failed : HttpError → World → Prop} :
    (orDatabaseError storage).Ends ok failed world ↔
      storage.Ends ok (fun error => failed (databaseError error)) world :=
  ends_mapError

end Ends

/-! ## Errors of storage calls -/

section Fails

open Action

variable {env : Surroundings}

/-- A conflict is never a storage error: only the factory answers one. -/
def AppError.notConflict : AppError → Prop
  | .conflict _ => False
  | _ => True

theorem StorageFault.notConflict (fault : StorageFault) :
    fault.error.notConflict := by
  cases fault with
  | pool message => trivial
  | statement message => trivial

theorem fails_call {statement : Database → Except AppError (α × Database)}
    (fits : ∀ db error, statement db = .error error → error.notConflict) :
    (call env statement).Fails AppError.notConflict :=
  fun world => ends_call.mpr ⟨fun fault _ => fault.notConflict,
    fun _ => ⟨fun error refused => fits world.db error refused,
      fun _ _ _ => trivial⟩⟩

theorem fails_query {read : Database → α} :
    (query env read).Fails AppError.notConflict := by
  apply fails_call
  intro db error refused
  cases refused

theorem fails_now : (now env).Fails AppError.notConflict :=
  fun _ => trivial

end Fails

/-! ## Calls that keep part of the database -/

section Moves

open Action

variable {env : Surroundings} {relation : Database → Database → Prop}

/-- A relation between databases, as a relation between worlds. -/
def OnDb (relation : Database → Database → Prop) (before after : World) : Prop :=
  relation before.db after.db

theorem moves_call {statement : Database → Except AppError (α × Database)}
    (reflexive : ∀ db, relation db db)
    (executed : ∀ db value after, statement db = .ok (value, after) →
      relation db after) :
    (call env statement).Moves (OnDb relation) := by
  rw [moves_iff_ends]
  intro world
  exact call_ends (fun _ => reflexive world.db)
    (fun value db outcome => executed world.db value db outcome)

theorem moves_query {read : Database → α} (reflexive : ∀ db, relation db db) :
    (query env read).Moves (OnDb relation) := by
  apply moves_call reflexive
  intro db value after outcome
  cases outcome
  exact reflexive db

theorem moves_now (reflexive : ∀ db, relation db db) :
    (now env : Action World ε Timestamp).Moves (OnDb relation) :=
  fun world => reflexive world.db

theorem moves_newUuid (reflexive : ∀ db, relation db db) :
    (newUuid env : Action World ε String).Moves (OnDb relation) :=
  fun world => reflexive world.db

end Moves

end AimailGateway
