import AimailGateway.Storage.Call
import AimailGateway.Whitelist

/-! # Statements on `whitelists` -/

namespace AimailGateway

open Library

/-- A direction the table's `CHECK` admits. -/
def WhitelistDirection.parse (text : String) : Option WhitelistDirection :=
  match text with
  | "from" => some .dirFrom
  | "to" => some .dirTo
  | "all" => some .dirAll
  | _ => none

/-- The error of a statement that breaks the `CHECK` on `direction`. -/
def checkFailed : AppError := .database "CHECK constraint failed: direction"

namespace Storage

def nextWhitelistId (db : Database) : Int :=
  nextRowid db.whitelistSequence (db.whitelists.rows.map (·.id))

theorem lt_nextWhitelistId {db : Database} {row : WhitelistRecord}
    (member : row ∈ db.whitelists) : row.id < nextWhitelistId db :=
  lt_nextRowid (List.mem_map_of_mem member)

/-- The row `insert_whitelist` proposes to a database. -/
def newWhitelist (db : Database) (systemId domainAddr : String)
    (direction : WhitelistDirection) (value category : String)
    (apiKeyId : Option Int) (description : Option String)
    (createdAt : Timestamp) : WhitelistRecord where
  id := nextWhitelistId db
  systemId := systemId
  domainAddr := domainAddr
  direction := direction
  value := value
  description := description
  isActive := true
  createdAt := createdAt
  category := category
  apiKeyId := apiKeyId

/-- `DO UPDATE SET direction=excluded.direction, is_active=1, description=…`:
what the upsert makes of a row that already holds the rule. -/
def overwriteWhitelist (excluded row : WhitelistRecord) : WhitelistRecord :=
  { row with
    direction := excluded.direction
    isActive := true
    description := excluded.description <|> row.description }

/-- `INSERT ... ON CONFLICT(system_id, domain_addr, value) DO UPDATE` and
`last_insert_rowid`, on a connection that inserted `lastRowid` before. -/
def upsertWhitelist (record : WhitelistRecord) (lastRowid : Int)
    (db : Database) : Except AppError (WhitelistRecord × Database) :=
  match db.whitelists.find? (·.rule == record.rule) with
  | some _ =>
      match db.whitelists.update? (·.rule == record.rule)
          (overwriteWhitelist record) with
      | some whitelists =>
          .ok ({ record with id := lastRowid }, { db with whitelists })
      | none => .error constraintFailed
  | none =>
      match db.whitelists.insert? record with
      | some whitelists =>
          .ok (record, { db with whitelists, whitelistSequence := record.id })
      | none => .error constraintFailed

section Statements

variable (env : Surroundings)

/-- Insert a rule, or overwrite the row that holds it. The record answered is
the proposed one, with the rowid the connection inserted last. -/
def insertWhitelist (systemId domainAddr direction value category : String)
    (apiKeyId : Option Int) (description : Option String) :
    Storage WhitelistRecord := do
  let createdAt ← now env
  let lastRowid ← staleRowid env
  call env fun db =>
    match WhitelistDirection.parse direction with
    | none => .error checkFailed
    | some direction =>
        upsertWhitelist (newWhitelist db systemId domainAddr direction value
          category apiKeyId description createdAt) lastRowid db

def getWhitelistById (id : Int) : Storage (Option WhitelistRecord) :=
  query env fun db => db.whitelists.find? (·.id == id)

/-- The rows of a system, in the order the query happens to answer. -/
def listWhitelists (systemId : String) : Storage (List WhitelistRecord) :=
  fun world =>
    query env (fun db =>
      env.listed world.tick (db.whitelists.select (·.systemId == systemId)))
      world

/-- What `update_whitelist` makes of a row. -/
def changeWhitelist (isActive : Option Bool)
    (direction : Option WhitelistDirection) (row : WhitelistRecord) :
    WhitelistRecord :=
  { row with
    isActive := isActive.getD row.isActive
    direction := direction.getD row.direction }

def updateWhitelist (id : Int) (isActive : Option Bool)
    (direction : Option String) : Storage (Option WhitelistRecord) :=
  call env fun db =>
    match db.whitelists.find? (·.id == id) with
    | none => .ok (none, db)
    | some row =>
        match direction, direction.bind WhitelistDirection.parse with
        | some _, none => .error checkFailed
        | _, direction =>
            match db.whitelists.update? (·.id == row.id)
                (changeWhitelist isActive direction) with
            | some whitelists =>
                .ok (some (changeWhitelist isActive direction row),
                  { db with whitelists })
            | none => .error constraintFailed

def deleteWhitelist (id : Int) : Storage Unit :=
  call env fun db =>
    .ok ((), { db with whitelists := db.whitelists.delete (·.id == id) })

def deleteWhitelistByDomainAndValue (domainAddr value : String) :
    Storage Unit :=
  call env fun db =>
    .ok ((), { db with
      whitelists := db.whitelists.delete fun row =>
        row.domainAddr == domainAddr && row.value == value })

/-- The active rules of an address in a system, in the given directions. -/
def countWhitelistEntries (systemId domain : String)
    (directions : List WhitelistDirection) : Storage Nat :=
  query env fun db =>
    (db.whitelists.select fun row =>
      row.systemId == systemId && row.domainAddr == domain &&
        directions.contains row.direction && row.isActive).length

/-- The value passes an active rule of the address in the given direction, or
one for every direction. -/
def isWhitelisted (systemId domainAddr value direction : String) :
    Storage Bool :=
  query env fun db =>
    let patterns := db.whitelists.select fun row =>
      row.systemId == systemId && row.domainAddr == domainAddr &&
        (some row.direction == WhitelistDirection.parse direction ||
          row.direction == .dirAll) && row.isActive
    isWhitelistedWildcard env.tables (patterns.map (·.value)) value

def isBoardMember (boardEmail memberAddr : String) : Storage Bool :=
  query env fun db => db.boardWhitelists.contains (boardEmail, memberAddr)

def replaceBoardMembers (boardEmail : String) (members : List String) :
    Storage Unit :=
  call env fun db =>
    .ok ((), { db with
      boardWhitelists := db.boardWhitelists.filter (·.1 != boardEmail) ++
        (members.map fun member => (boardEmail, member)).eraseDups })

end Statements

/-! ## What the statements do to the table -/

open Action

variable {env : Surroundings} {world : World}
  {failed : AppError → World → Prop}
  {ok : Option WhitelistRecord → World → Prop}

theorem upsertWhitelist_ok {record answer : WhitelistRecord} {lastRowid : Int}
    {db after : Database}
    (executed : upsertWhitelist record lastRowid db = .ok (answer, after)) :
    (answer = record ∧ (∀ row ∈ db.whitelists, row.rule ≠ record.rule) ∧
      ∃ whitelists, db.whitelists.insert? record = some whitelists ∧
        after = { db with whitelists, whitelistSequence := record.id }) ∨
    (answer = { record with id := lastRowid } ∧
      ∃ existing ∈ db.whitelists, existing.rule = record.rule ∧
      ∃ whitelists, db.whitelists.update? (·.rule == record.rule)
          (overwriteWhitelist record) = some whitelists ∧
        after = { db with whitelists }) := by
  rw [upsertWhitelist] at executed
  cases search : db.whitelists.find? (·.rule == record.rule) with
  | none =>
      simp only [search] at executed
      split at executed
      · next whitelists insertion =>
          cases executed
          refine Or.inl ⟨rfl, ?_, whitelists, insertion, rfl⟩
          intro row member same
          have unselected := Table.find?_eq_none.mp search row member
          simp [same] at unselected
      · cases executed
  | some existing =>
      rcases Table.mem_of_find? search with ⟨member, selected⟩
      simp only [search] at executed
      split at executed
      · next whitelists updated =>
          cases executed
          exact Or.inr ⟨rfl, existing, member, by simpa using selected,
            whitelists, updated, rfl⟩
      · cases executed

theorem insertWhitelist_ends
    {systemId domainAddr direction value category : String}
    {apiKeyId : Option Int} {description : Option String}
    {ok : WhitelistRecord → World → Prop} (fault : AllowsFailure failed world)
    (executed : ∀ parsed createdAt answer later,
      WhitelistDirection.parse direction = some parsed →
      upsertWhitelist (newWhitelist world.db systemId domainAddr parsed value
        category apiKeyId description createdAt)
        (env.lastInsertRowid (world.tick + 1)) world.db =
          .ok (answer, later.db) →
      ok answer later) :
    (insertWhitelist env systemId domainAddr direction value category apiKeyId
      description).Ends ok failed world := by
  rw [insertWhitelist]
  simp only [ends_bind, ends_now, ends_staleRowid]
  apply call_ends
  · exact fun error => fault error _ rfl
  · intro answer db outcome
    simp only [World.later_db] at outcome
    split at outcome
    · cases outcome
    · next parsed parsing => exact executed parsed _ answer _ parsing outcome

theorem getWhitelistById_ends {id : Int}
    (fault : ∀ error, failed error world.later) (missing : ok none world.later)
    (found : ∀ row ∈ world.db.whitelists, row.id = id →
      ok (some row) world.later) :
    (getWhitelistById env id).Ends ok failed world := by
  apply find_ends fault
  · exact fun _ => missing
  · exact fun row member chosen => found row member (by simpa using chosen)

theorem listWhitelists_ends {systemId : String}
    {ok : List WhitelistRecord → World → Prop}
    (fault : ∀ error, failed error world.later)
    (listed : ∀ rows,
      (∀ row, row ∈ rows ↔
        row ∈ world.db.whitelists ∧ row.systemId = systemId) →
      ok rows world.later) :
    (listWhitelists env systemId).Ends ok failed world := by
  apply query_ends fault
  apply listed
  intro row
  rw [(env.listed_perm _ _).mem_iff]
  simp

/-- The given direction, if any, is one the table admits. -/
def DirectionFits (direction : Option String) : Prop :=
  ∀ text ∈ direction, (WhitelistDirection.parse text).isSome

theorem updateWhitelist_ends {id : Int} {isActive : Option Bool}
    {direction : Option String} (fault : AllowsFailure failed world)
    (missing : ∀ later, later.db = world.db → ok none later)
    (changed : DirectionFits direction →
      ∀ row ∈ world.db.whitelists, row.id = id →
      ∀ parsed whitelists later,
      world.db.whitelists.update? (·.id == row.id)
        (changeWhitelist isActive parsed) = some whitelists →
      later.db = { world.db with whitelists } →
      ok (some (changeWhitelist isActive parsed row)) later) :
    (updateWhitelist env id isActive direction).Ends ok failed world := by
  apply call_ends
  · exact fun error => fault error _ rfl
  · intro answer db outcome
    split at outcome
    · cases outcome
      exact missing _ rfl
    · next row search =>
        rcases Table.mem_of_find? search with ⟨member, selected⟩
        split at outcome
        · cases outcome
        · next given _ _ valid =>
            have fits : DirectionFits given := by
              intro text equal
              rw [Option.mem_def] at equal
              rw [Option.isSome_iff_ne_none]
              intro unparsed
              refine valid text equal ?_
              rw [equal]
              exact unparsed
            split at outcome
            · next whitelists updated =>
                cases outcome
                exact changed fits row member (by simpa using selected) _
                  whitelists _ updated rfl
            · cases outcome

theorem deleteWhitelist_ends {id : Int} {ok : Unit → World → Prop}
    (fault : AllowsFailure failed world)
    (deleted : ∀ later,
      later.db = { world.db with
        whitelists := world.db.whitelists.delete (·.id == id) } →
      ok () later) :
    (deleteWhitelist env id).Ends ok failed world := by
  apply call_ends
  · exact fun error => fault error _ rfl
  · intro answer db outcome
    cases outcome
    exact deleted _ rfl

end Storage

end AimailGateway
