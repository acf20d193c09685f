import AimailGateway.Board.Address
import AimailGateway.Storage.ApiKeys
import AimailGateway.Storage.Domains
import AimailGateway.Storage.Whitelists

/-! # The environment factory

The layer between the handlers and the storage statements: registration of
domains, resolution of an address to the system that owns it, and the whitelist
operations of the two.
-/

namespace AimailGateway

open Library Action

namespace EnvFactory

section Operations

variable (env : Surroundings)

def validateWebhookUrl (webhookUrl : Option String) : Storage Unit :=
  match (webhookUrl.map Text.trim).filter (· != "") with
  | some url => webhookCheck env url
  | none => return ()

/-! ## Domains -/

def notFoundDomain (domain : String) : AppError :=
  .notFound ("domain not found: " ++ domain)

def resolveSystemIdFromDomain (domain : String) : Storage String := do
  match ← Storage.getSystemDomainByName env domain with
  | some record => return record.systemId
  | none => fail (notFoundDomain domain)

/-- The agent metadata of an address registration; its outcome is ignored. -/
def syncDomainMeta (domain systemId : String) (managerAddress : Option String) :
    Storage Unit := do
  if Text.containsChar '@' domain then
    (Storage.upsertDomainAddrMeta env domain systemId managerAddress none
      none).ignore
  else
    return ()

/-- Register a domain. A second registration within the same system refreshes
the row, one from another system is refused. -/
def createDomain (id systemId domain : String)
    (webhookUrl webhookSecret managerAddress : Option String) :
    Storage SystemDomainRecord := do
  validateWebhookUrl env webhookUrl
  match ← Storage.getSystemDomainByName env domain with
  | some existing =>
      if existing.systemId ≠ systemId then
        fail (.conflict
          ("Domain '" ++ domain ++ "' already exists (owned by another system)"))
      else
        match ← Storage.updateSystemDomain env existing.id webhookUrl
            webhookSecret (some true) with
        | some updated =>
            syncDomainMeta env domain systemId managerAddress
            return updated
        | none =>
            fail (.internal
              ("update_system_domain returned no rows for existing domain '" ++
                domain ++ "'"))
  | none =>
      let record ← Storage.insertSystemDomain env id systemId domain webhookUrl
        webhookSecret
      syncDomainMeta env domain systemId managerAddress
      return record

def updateDomain (id : String) (webhookUrl webhookSecret : Option String)
    (isActive : Option Bool) : Storage (Option SystemDomainRecord) := do
  validateWebhookUrl env webhookUrl
  Storage.updateSystemDomain env id webhookUrl webhookSecret isActive

/-- The system of the active row registered as `domainAddr`. -/
def activeOwner (domainAddr : String) : Action World ε (Option String) := do
  match ← (Storage.getActiveSystemDomainByDomain env domainAddr).attempt with
  | .ok (some row) => return some row.systemId
  | _ => return none

/-- The system an address or a bare domain belongs to: that of the address's
key, else that of the active registration. Lookup errors count as "none". -/
def owningSystemOf (domainAddr : String) : Action World ε (Option String) := do
  if Text.containsChar '@' domainAddr then
    match ← (Storage.getApiKeyByEmail env domainAddr).attempt with
    | .ok (some key) => return some key.systemId
    | _ => activeOwner env domainAddr
  else
    activeOwner env domainAddr

/-! ## Whitelists -/

/-- Create a rule in the system of the row registered as `domainAddr`. -/
def createWhitelistEntryFull (domainAddr direction value category : String)
    (apiKeyId : Option Int) (description : Option String) :
    Storage WhitelistRecord := do
  let systemId ← resolveSystemIdFromDomain env domainAddr
  Storage.insertWhitelist env systemId domainAddr direction value category
    apiKeyId description

def createWhitelistEntry (domainAddr direction value : String)
    (description : Option String) : Storage WhitelistRecord :=
  createWhitelistEntryFull env domainAddr direction value "system" none
    description

/-- All rules of the system that owns the domain; none if nothing does. -/
def listWhitelistEntries (domain : String) : Storage (List WhitelistRecord) := do
  match ← (resolveSystemIdFromDomain env domain).attempt with
  | .ok systemId => Storage.listWhitelists env systemId
  | .error _ => return []

/-- Delete a rule; the row is read first for the pattern cache. -/
def deleteWhitelistEntry (id : Int) : Storage Unit := do
  let _ ← Storage.getWhitelistById env id
  Storage.deleteWhitelist env id

/-- The active rules of a registered address in the given directions. -/
def countWhitelistEntries (domain : String)
    (directions : List WhitelistDirection) : Storage Nat := do
  let systemId ← resolveSystemIdFromDomain env domain
  Storage.countWhitelistEntries env systemId domain directions

/-- A board address answers for its members; a registered address for the
values its rules match and, when the value is a board, for its membership. -/
@[irreducible] def checkWhitelisted (domainAddr value direction : String) : Storage Bool := do
  if Board.isBoardAddress domainAddr then
    Storage.isBoardMember env domainAddr value
  else
    let systemId ← resolveSystemIdFromDomain env domainAddr
    if ← Storage.isWhitelisted env systemId domainAddr value direction then
      return true
    else if Board.isBoardAddress value then
      Storage.isBoardMember env value domainAddr
    else
      return false

/-- What the database says of a value: the verdict of the check, when nothing
fails. -/
def whitelistVerdict (db : Database) (domainAddr value direction : String) :
    Bool :=
  if Board.isBoardAddress domainAddr then
    db.boardWhitelists.contains (domainAddr, value)
  else
    match db.systemDomains.find? (·.domain == domainAddr) with
    | none => false
    | some row =>
        isWhitelistedWildcard env.tables
          ((db.whitelists.select fun rule =>
            rule.systemId == row.systemId && rule.domainAddr == domainAddr &&
              (some rule.direction == WhitelistDirection.parse direction ||
                rule.direction == .dirAll) && rule.isActive).map (·.value))
          value ||
        (Board.isBoardAddress value &&
          db.boardWhitelists.contains (value, domainAddr))

end Operations

/-! ## What the operations do -/

section Specifications

variable {env : Surroundings} {world : World}
  {failed : AppError → World → Prop} {ok : Unit → World → Prop}
  {managerAddress : Option String} {description : Option String}

/-- How a registration writes `system_domains`: it refreshes the row the same
system has, or inserts one for a free name. -/
inductive DomainWrite (db : Database) (id systemId domain : String)
    (record : SystemDomainRecord) (systemDomains : SystemDomains) : Prop where
  | refreshed {webhookUrl webhookSecret : Option String} {updatedAt : Timestamp}
      (existing : SystemDomainRecord) (member : existing ∈ db.systemDomains)
      (named : existing.domain = domain) (owned : existing.systemId = systemId)
      (updated : db.systemDomains.update? (·.id == existing.id)
        (Storage.changeSystemDomain webhookUrl webhookSecret (some true)
          updatedAt) = some systemDomains)
      (answer : record = Storage.changeSystemDomain webhookUrl webhookSecret
        (some true) updatedAt existing)
  | inserted {webhookUrl webhookSecret : Option String} {createdAt : Timestamp}
      (free : ∀ row ∈ db.systemDomains, row.domain ≠ domain)
      (insertion : db.systemDomains.insert? record = some systemDomains)
      (answer : record = Storage.newSystemDomain id systemId domain webhookUrl
        webhookSecret createdAt)

/-- A write of the agent metadata of an address, whose failure goes
unnoticed. -/
inductive MetaWrite (tables : CaseTables) (email systemId : String)
    (before after : Database) : Prop where
  | skipped (same : after = before)
  | written (record : DomainAddrMetaRecord) (domainAddrMeta : DomainAddrMeta)
      (named : record.emailAddress = tables.toLowercase email)
      (owned : record.systemId = systemId)
      (upserted : before.domainAddrMeta.upsert?
        (·.emailAddress == record.emailAddress)
        (Storage.overwriteMeta record) record = some domainAddrMeta)
      (changed : after = { before with domainAddrMeta })

theorem validateWebhookUrl_ends {webhookUrl : Option String}
    (refused : ∀ error, error.notConflict →
      ∀ later, later.db = world.db → failed error later)
    (passed : ∀ later, later.db = world.db → ok () later) :
    (validateWebhookUrl env webhookUrl).Ends ok failed world := by
  rw [validateWebhookUrl]
  split
  · exact webhookCheck_ends
      (fun reason => refused (.validation reason) trivial _ rfl) (passed _ rfl)
  · exact passed world rfl

theorem upsertMeta_ends {email systemId : String} {failed : ε → World → Prop}
    (synced : ∀ later,
      MetaWrite env.tables email systemId world.db later.db → ok () later) :
    ((Storage.upsertDomainAddrMeta env email systemId managerAddress none
      none).ignore : Action World ε Unit).Ends ok failed world := by
  rw [ends_ignore]
  apply Storage.upsertDomainAddrMeta_ends
  · exact fun _ later same => synced later (.skipped same)
  · intro record domainAddrMeta later named owned upserted changed
    exact synced later
      (.written record domainAddrMeta named owned upserted changed)

theorem syncDomainMeta_ends {domain systemId : String}
    (synced : ∀ later, MetaWrite env.tables domain systemId world.db later.db →
      (Text.containsChar '@' domain = false → later.db = world.db) →
      ok () later) :
    (syncDomainMeta env domain systemId managerAddress).Ends ok failed world := by
  rw [syncDomainMeta]
  split
  · next isAddress =>
      apply upsertMeta_ends
      intro later written
      refine synced later written fun bare => ?_
      rw [isAddress] at bare
      cases bare
  · exact synced world (.skipped rfl) fun _ => rfl

theorem createDomain_ends {id systemId domain : String}
    {webhookUrl webhookSecret managerAddress : Option String}
    {ok : SystemDomainRecord → World → Prop}
    (refused : ∀ error, error.notConflict →
      ∀ later, later.db = world.db → failed error later)
    (conflicts : ∀ existing ∈ world.db.systemDomains,
      existing.domain = domain → existing.systemId ≠ systemId →
      ∀ error later, later.db = world.db → failed error later)
    (written : ∀ record systemDomains later,
      DomainWrite world.db id systemId domain record systemDomains →
      MetaWrite env.tables domain systemId { world.db with systemDomains }
        later.db →
      (Text.containsChar '@' domain = false →
        later.db = { world.db with systemDomains }) →
      ok record later) :
    (createDomain env id systemId domain webhookUrl webhookSecret
      managerAddress).Ends ok failed world := by
  rw [createDomain, ends_bind]
  apply validateWebhookUrl_ends
  · exact refused
  intro checked checkedDb
  rw [ends_bind]
  apply Storage.fails_getSystemDomainByName.ends
  apply Storage.getSystemDomainByName_ends
  · exact fun error notConflict => refused error notConflict _ checkedDb
  · intro free
    rw [checkedDb] at free
    simp only [ends_bind]
    apply Storage.fails_insertSystemDomain.ends
    apply Storage.insertSystemDomain_ends
    · exact fun error later same notConflict =>
        refused error notConflict later (same.trans checkedDb)
    · intro createdAt systemDomains inserted record insertion changed
      rw [World.later_db, checkedDb] at insertion changed
      apply syncDomainMeta_ends
      intro later synced bare
      rw [changed] at synced bare
      exact written _ systemDomains later (.inserted free insertion rfl) synced
        bare
  · intro existing member named
    rw [checkedDb] at member
    simp only
    by_cases owned : existing.systemId = systemId
    · simp only [ne_eq, owned, not_true_eq_false, if_false, ends_bind]
      apply Storage.fails_updateSystemDomain.ends
      apply Storage.updateSystemDomain_ends
      · exact fun error later same notConflict =>
          refused error notConflict later (same.trans checkedDb)
      · exact fun _ later same =>
          refused (.internal _) trivial later (same.trans checkedDb)
      · intro row rowMember sameId updatedAt systemDomains refreshed change
          updated changed
        rw [World.later_db, checkedDb] at rowMember updated changed
        have equal : row = existing :=
          SystemDomains.eq_of_id rowMember member sameId
        subst equal
        simp only [ends_bind]
        apply syncDomainMeta_ends
        intro later synced bare
        rw [changed] at synced bare
        exact written _ systemDomains later
          (.refreshed row member named owned updated rfl) synced bare
    · simp only [ne_eq, owned, not_false_eq_true, if_true]
      exact conflicts existing member named owned _ _ checkedDb

theorem updateDomain_ends {id : String} {webhookUrl webhookSecret : Option String}
    {isActive : Option Bool}
    {ok : Option SystemDomainRecord → World → Prop}
    (refused : AllowsFailure failed world)
    (missing : ∀ later, later.db = world.db → ok none later)
    (changed : ∀ row ∈ world.db.systemDomains, row.id = id →
      ∀ updatedAt systemDomains later,
      world.db.systemDomains.update? (·.id == id)
        (Storage.changeSystemDomain webhookUrl webhookSecret isActive
          updatedAt) = some systemDomains →
      later.db = { world.db with systemDomains } →
      ok (some (Storage.changeSystemDomain webhookUrl webhookSecret isActive
        updatedAt row)) later) :
    (updateDomain env id webhookUrl webhookSecret isActive).Ends ok failed
      world := by
  rw [updateDomain, ends_bind]
  apply validateWebhookUrl_ends
  · exact fun error _ => refused error
  · intro checked checkedDb
    apply Storage.updateSystemDomain_ends
    · exact fun error later same => refused error later (same.trans checkedDb)
    · exact fun _ later same => missing later (same.trans checkedDb)
    · rw [checkedDb]
      exact changed

theorem resolveSystemIdFromDomain_ends {domain : String}
    {ok : String → World → Prop} (refused : ∀ error, failed error world.later)
    (resolved : ∀ row ∈ world.db.systemDomains, row.domain = domain →
      ok row.systemId world.later) :
    (resolveSystemIdFromDomain env domain).Ends ok failed world := by
  rw [resolveSystemIdFromDomain, ends_bind]
  apply Storage.getSystemDomainByName_ends
  · exact refused
  · exact fun _ => refused _
  · exact resolved

/-- The system holds an active key of the address, or an active registration
of it. -/
def Owns (db : Database) (systemId domainAddr : String) : Prop :=
  (Text.containsChar '@' domainAddr = true ∧ ∃ key ∈ db.apiKeys,
    key.emailAddress = domainAddr ∧ key.isActive = true ∧
      key.systemId = systemId) ∨
    ∃ row ∈ db.systemDomains, row.domain = domainAddr ∧ row.isActive = true ∧
      row.systemId = systemId

theorem owningSystemOf_ends {domainAddr : String}
    {ok : Option String → World → Prop} {failed : ε → World → Prop}
    (answered : ∀ owner later,
      (∀ systemId, owner = some systemId → Owns world.db systemId domainAddr) →
      later.db = world.db → ok owner later) :
    (owningSystemOf env domainAddr : Action World ε _).Ends ok failed world := by
  have fallback (later : World) (same : later.db = world.db) :
      (activeOwner env domainAddr : Action World ε _).Ends ok failed later := by
    rw [activeOwner, ends_bind, ends_attempt]
    apply Storage.getActiveSystemDomainByDomain_ends
    · exact fun _ => answered none _ (by simp) same
    · exact answered none _ (by simp) same
    · intro row member named active
      refine answered (some row.systemId) _ ?_ same
      intro systemId owner
      rw [same] at member
      cases owner
      exact Or.inr ⟨row, member, named, active, rfl⟩
  rw [owningSystemOf]
  split
  · next isAddress =>
      rw [ends_bind, ends_attempt]
      apply find_ends
      · exact fun _ => fallback _ rfl
      · exact fun _ => fallback _ rfl
      · intro key member chosen
        rw [Bool.and_eq_true, beq_iff_eq] at chosen
        refine answered (some key.systemId) _ ?_ rfl
        intro systemId owner
        cases owner
        exact Or.inl ⟨isAddress, key, member, chosen.1, chosen.2, rfl⟩
  · exact fallback world rfl

theorem createWhitelistEntryFull_ends
    {domainAddr direction value category : String} {apiKeyId : Option Int}
    {ok : WhitelistRecord → World → Prop} (refused : AllowsFailure failed world)
    (executed : ∀ row ∈ world.db.systemDomains, row.domain = domainAddr →
      ∀ parsed createdAt answer later,
      WhitelistDirection.parse direction = some parsed →
      Storage.upsertWhitelist (Storage.newWhitelist world.db row.systemId
        domainAddr parsed value category apiKeyId description createdAt)
        (env.lastInsertRowid (world.tick + 2)) world.db =
          .ok (answer, later.db) →
      ok answer later) :
    (createWhitelistEntryFull env domainAddr direction value category apiKeyId
      description).Ends ok failed world := by
  rw [createWhitelistEntryFull, ends_bind]
  apply resolveSystemIdFromDomain_ends
  · exact fun error => refused error _ rfl
  · intro row member named
    apply Storage.insertWhitelist_ends
    · exact refused
    · exact executed row member named

theorem listWhitelistEntries_ends {domain : String}
    {ok : List WhitelistRecord → World → Prop}
    (fault : AllowsFailure failed world)
    (listed : ∀ rows later,
      (∀ entry ∈ rows, entry ∈ world.db.whitelists ∧
        ∃ row ∈ world.db.systemDomains,
          row.domain = domain ∧ row.systemId = entry.systemId) →
      later.db = world.db → ok rows later) :
    (listWhitelistEntries env domain).Ends ok failed world := by
  rw [listWhitelistEntries, ends_bind, ends_attempt]
  apply resolveSystemIdFromDomain_ends
  · intro _
    exact listed [] _ (fun _ listed => absurd listed List.not_mem_nil) rfl
  · intro row member named
    apply Storage.listWhitelists_ends
    · exact fun error => fault error _ rfl
    · intro rows answered
      refine listed rows _ (fun entry shown => ?_) rfl
      rcases (answered entry).mp shown with ⟨stored, system⟩
      exact ⟨stored, row, member, named, system.symm⟩

theorem checkWhitelisted_ends {domainAddr value direction : String}
    {ok : Bool → World → Prop} (refused : AllowsFailure failed world)
    (answered : ∀ later, later.db = world.db →
      ok (whitelistVerdict env world.db domainAddr value direction) later) :
    (checkWhitelisted env domainAddr value direction).Ends ok failed world := by
  rw [checkWhitelisted]
  cases board : Board.isBoardAddress domainAddr with
  | true =>
      have verdict : whitelistVerdict env world.db domainAddr value direction =
          world.db.boardWhitelists.contains (domainAddr, value) := by
        rw [whitelistVerdict, board, if_pos rfl]
      rw [if_pos rfl]
      apply query_ends
      · exact fun _ => refused _ _ rfl
      · rw [← verdict]
        exact answered _ rfl
  | false =>
      rw [if_neg (by simp), ends_bind]
      apply resolveSystemIdFromDomain_ends
      · exact fun _ => refused _ _ rfl
      · intro row member named
        have found : world.db.systemDomains.find? (·.domain == domainAddr) =
            some row :=
          named ▸ SystemDomains.find?_domain member
        rw [ends_bind]
        apply query_ends
        · exact fun _ => refused _ _ rfl
        · split
          · next passes =>
              have verdict : whitelistVerdict env world.db domainAddr value
                  direction = true := by
                rw [whitelistVerdict, board, if_neg (by simp), found]
                simp only [World.later_db] at passes
                simp [passes]
              have ended := answered world.later.later rfl
              rw [verdict] at ended
              exact ended
          · next misses =>
              have verdict : whitelistVerdict env world.db domainAddr value
                  direction = (Board.isBoardAddress value &&
                    world.db.boardWhitelists.contains (value, domainAddr)) := by
                rw [whitelistVerdict, board, if_neg (by simp), found]
                simp only [World.later_db, Bool.not_eq_true] at misses
                simp [misses]
              split
              · next boardValue =>
                  rw [boardValue, Bool.true_and] at verdict
                  apply query_ends
                  · exact fun _ => refused _ _ rfl
                  · have ended := answered world.later.later.later rfl
                    rw [verdict] at ended
                    exact ended
              · next plain =>
                  rw [Bool.eq_false_iff.mpr plain, Bool.false_and] at verdict
                  have ended := answered world.later.later rfl
                  rw [verdict] at ended
                  exact ended

theorem deleteWhitelistEntry_ends {id : Int}
    (fault : AllowsFailure failed world)
    (deleted : ∀ later,
      later.db = { world.db with
        whitelists := world.db.whitelists.delete (·.id == id) } →
      ok () later) :
    (deleteWhitelistEntry env id).Ends ok failed world := by
  have deletes : (Storage.deleteWhitelist env id).Ends ok failed world.later := by
    apply Storage.deleteWhitelist_ends
    · exact fault
    · exact deleted
  rw [deleteWhitelistEntry, ends_bind]
  apply Storage.getWhitelistById_ends
  · exact fun error => fault error _ rfl
  · exact deletes
  · exact fun _ _ _ => deletes

end Specifications

end EnvFactory

end AimailGateway
