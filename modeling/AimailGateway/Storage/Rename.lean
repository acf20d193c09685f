import AimailGateway.Library.Sql
import AimailGateway.Storage.Whitelists

/-! # Renaming an agent address

`rename_agent_address_refs`: one batch that re-keys every reference to an
address in the main database. The boards, which live in other database files,
are left out.
-/

namespace AimailGateway

open Library

namespace Storage

/-- A byte the batch admits in an address. -/
def isSafeByte (byte : UInt8) : Bool :=
  (0x30 ≤ byte && byte ≤ 0x39) || (0x41 ≤ byte && byte ≤ 0x5A) ||
    (0x61 ≤ byte && byte ≤ 0x7A) ||
    (Text.bytes "@.-_+#$%&'*/=?^\x60\x7b|\x7d~!").contains byte

def isSafe (addr : String) : Bool :=
  addr != "" && Text.byteLength addr ≤ 255 &&
    (Text.bytes addr).all isSafeByte

/-- `INSERT OR IGNORE` of a row with the next rowid. -/
def insertOrIgnoreWhitelist (db : Database) (row : WhitelistRecord) : Database :=
  let record := { row with id := nextWhitelistId db }
  match db.whitelists.insert? record with
  | some whitelists => { db with whitelists, whitelistSequence := record.id }
  | none => db

/-- `INSERT OR IGNORE INTO whitelists SELECT …`: copy the selected rows with a
change. -/
def copyWhitelists (order : List WhitelistRecord → List WhitelistRecord)
    (selected : WhitelistRecord → Bool)
    (change : WhitelistRecord → WhitelistRecord) (db : Database) : Database :=
  ((order (db.whitelists.select selected)).map change).foldl
    insertOrIgnoreWhitelist db

def deleteWhitelists (selected : WhitelistRecord → Bool) (db : Database) :
    Database :=
  { db with whitelists := db.whitelists.delete selected }

def insertOrIgnoreState (db : Database) (row : AgentStateRecord) : Database :=
  match db.agentState.insert? row with
  | some agentState => { db with agentState }
  | none => db

/-- A state key that mentions the address, as `LIKE '%old%'` sees it. -/
def mentions (old stateKey : String) : Bool :=
  Sql.like ('%' :: old.toList ++ ['%']) stateKey.toList

/-- The `agent_state` statements: copy the rows of the address and those whose
key mentions it, then drop the originals. -/
def renameAgentState (old new : String) (db : Database) : Database :=
  let copies := (db.agentState.select fun row =>
    row.agentAddr == old || mentions old row.stateKey).map fun row =>
      { row with
        agentAddr := if row.agentAddr = old then new else row.agentAddr
        stateKey := Sql.replace row.stateKey old new }
  let copied := copies.foldl insertOrIgnoreState db
  { copied with
    agentState := (copied.agentState.delete (·.agentAddr == old)).delete
      fun row => row.agentAddr != old && mentions old row.stateKey }

/-- The `whitelists` statements before the last one: copy the rows of the
address and drop them, then the rows of others that point at it. -/
def renameWhitelists (order : List WhitelistRecord → List WhitelistRecord)
    (old new : String) (db : Database) : Database :=
  let ofAddress (row : WhitelistRecord) : Bool := row.domainAddr == old
  let toAddress (row : WhitelistRecord) : Bool :=
    row.value == old && row.domainAddr != old
  deleteWhitelists toAddress
    (copyWhitelists order toAddress (fun row => { row with value := new })
      (deleteWhitelists ofAddress
        (copyWhitelists order ofAddress
          (fun row => { row with domainAddr := new }) db)))

/-- The statements of the batch in order. A statement that breaks a constraint
rolls everything back. -/
def renameBatch (order : List WhitelistRecord → List WhitelistRecord)
    (old new : String) (db : Database) : Option Database := do
  let domainAddrMeta ← db.domainAddrMeta.update? (·.emailAddress == old)
    fun row => { row with emailAddress := new }
  let apiKeys ← db.apiKeys.update? (·.emailAddress == old)
    fun row => { row with emailAddress := new }
  let systemDomains ← db.systemDomains.update? (·.domain == old)
    fun row => { row with domain := new }
  let copied := renameWhitelists order old new
    { db with domainAddrMeta, apiKeys, systemDomains }
  let whitelists ← copied.whitelists.update?
    (fun row => row.domainAddr == new && row.value == old)
    fun row => { row with value := new }
  return renameAgentState old new { copied with whitelists }

/-- The text of an address ends the string literal it is pasted into. -/
def breaksLiteral (addr : String) : Bool := Text.containsChar '\'' addr

/-- A failed assertion ends the request; it is an error like any other
here. -/
def unsafeAddress : AppError :=
  .internal "rename addresses must be bounded atext/no-quote strings"

def renameAgentAddressRefs (env : Surroundings) (old new : String) :
    Storage Unit :=
  fun world =>
    if isSafe old && isSafe new then
      call env (fun db =>
        if breaksLiteral old || breaksLiteral new then
          (env.quotedBatch old new db).map fun after => ((), after)
        else
          match renameBatch (env.listed world.tick) old new db with
          | some after => .ok ((), after)
          | none => .error constraintFailed) world
    else
      (.error unsafeAddress, world)

/-! ## The registrations -/

variable {order : List WhitelistRecord → List WhitelistRecord}
  {old new : String} {db after : Database}

theorem foldl_systemDomains {insert : Database → α → Database}
    (keeps : ∀ db row, (insert db row).systemDomains = db.systemDomains)
    (rows : List α) :
    (rows.foldl insert db).systemDomains = db.systemDomains := by
  induction rows generalizing db with
  | nil => rfl
  | cons row rest induction => rw [List.foldl_cons, induction, keeps]

theorem renameWhitelists_systemDomains :
    (renameWhitelists order old new db).systemDomains = db.systemDomains := by
  have inserted (db : Database) (row : WhitelistRecord) :
      (insertOrIgnoreWhitelist db row).systemDomains = db.systemDomains := by
    rw [insertOrIgnoreWhitelist]
    split
    · rfl
    · rfl
  simp only [renameWhitelists, deleteWhitelists, copyWhitelists,
    foldl_systemDomains inserted]

theorem renameAgentState_systemDomains :
    (renameAgentState old new db).systemDomains = db.systemDomains := by
  refine foldl_systemDomains (fun db row => ?_) _
  rw [insertOrIgnoreState]
  split
  · rfl
  · rfl

theorem renameBatch_systemDomains
    (batch : renameBatch order old new db = some after) :
    db.systemDomains.update? (·.domain == old)
      (fun row => { row with domain := new }) = some after.systemDomains := by
  simp only [renameBatch, Option.bind_eq_bind, Option.bind_eq_some_iff] at batch
  rcases batch with ⟨domainAddrMeta, metaUpdate, apiKeys, keyUpdate,
    systemDomains, domainUpdate, whitelists, ruleUpdate, last⟩
  cases last
  rw [renameAgentState_systemDomains]
  simp only [renameWhitelists_systemDomains]
  exact domainUpdate

end Storage

end AimailGateway
