import AimailGateway.Api.Auth
import AimailGateway.Api.State
import AimailGateway.Factory

/-! # Whitelist handlers -/

namespace AimailGateway

open Library Action

namespace Api

structure CreateWhitelistRequest where
  systemId : String
  domainAddr : String
  direction : String
  value : String
  description : Option String
  deriving DecidableEq, Repr

structure UpdateWhitelistRequest where
  isActive : Option Bool
  direction : Option String
  deriving DecidableEq, Repr

/-- The query of the two endpoints that name a rule by its parameters. -/
structure WhitelistByParams where
  domainAddr : String
  value : String
  deriving DecidableEq, Repr

structure CheckWhitelistQuery where
  domainAddr : String
  value : String
  direction : String
  deriving DecidableEq, Repr

structure CheckWhitelistResponse where
  whitelisted : Bool
  systemSender : Bool
  query : CheckWhitelistQuery
  deriving DecidableEq, Repr

structure WhitelistResponse where
  id : Int
  systemId : String
  domainAddr : String
  direction : WhitelistDirection
  value : String
  description : Option String
  isActive : Bool
  createdAt : Timestamp
  category : String
  deriving DecidableEq, Repr

/-- `From<WhitelistRecord>`. -/
def WhitelistResponse.ofRecord (record : WhitelistRecord) :
    WhitelistResponse where
  id := record.id
  systemId := record.systemId
  domainAddr := record.domainAddr
  direction := record.direction
  value := record.value
  description := record.description
  isActive := record.isActive
  createdAt := record.createdAt
  category := record.category

def whitelistNotFound : HttpError :=
  ⟨.notFound, "Whitelist entry not found", none⟩

def insufficientScope : HttpError := ⟨.forbidden, "Insufficient scope", none⟩

/-- `category = 'agent'`: the rule belongs to an agent. -/
def isAgentEntry (entry : WhitelistRecord) : Bool := entry.category == "agent"

section Handlers

variable (state : HttpState) (apiKey : ApiKeyRecord)

/-! ## Shared checks -/

/-- An agent admin manages an address when the address's metadata names the
key's own address as its manager. -/
def requireManager (domainAddr : String) : Handler Unit := do
  match ← orDatabaseError (Storage.getDomainAddrMeta state.env domainAddr) with
  | none =>
      fail ⟨.forbidden, "Agent not found",
        some ("No metadata for agent '" ++ domainAddr ++ "'")⟩
  | some agentMeta =>
      if agentMeta.managerAddress ≠ apiKey.emailAddress then
        fail ⟨.forbidden, "Not the manager of this agent",
          some ("You (" ++ apiKey.emailAddress ++ ") are not the manager of '" ++
            domainAddr ++ "'")⟩
      else
        return ()

def requireWhitelistAccess (domainAddr : String) : Handler Unit := do
  let targetSystem ← EnvFactory.owningSystemOf state.env domainAddr
  check (checkWhitelistAccess apiKey domainAddr targetSystem)

/-- The rule an agent or an agent admin names by id must be its own: by the
manager binding of the rule's address, or by the key that created it. -/
def requireOwnEntry (id : Int) : Handler Unit := do
  match ← orDatabaseError (Storage.getWhitelistById state.env id) with
  | none => fail whitelistNotFound
  | some entry =>
      if isAgentAdminScope apiKey then
        requireManager state apiKey entry.domainAddr
        requireWhitelistAccess state apiKey entry.domainAddr
      else if entry.apiKeyId ≠ some apiKey.id then
        fail whitelistNotFound
      else
        requireWhitelistAccess state apiKey entry.domainAddr

/-! ## Creation -/

def bindAgentKey (domainAddr : String) : Handler (Option Int) := do
  if isAgentAdminScope apiKey then
    requireManager state apiKey domainAddr
    let key ← orDatabaseError (Storage.getApiKeyByEmail state.env domainAddr)
    return key.map (·.id)
  else
    requireWhitelistAccess state apiKey domainAddr
    return some apiKey.id

def createWhitelist (req : CreateWhitelistRequest) :
    Handler WhitelistResponse := do
  if isAgentScope apiKey || isAgentAdminScope apiKey then
    let agentKeyId ← bindAgentKey state apiKey req.domainAddr
    let record ← orDatabaseError
      (EnvFactory.createWhitelistEntryFull state.env req.domainAddr
        req.direction req.value "agent" agentKeyId req.description)
    return .ofRecord record
  else if isSystemAdminScope apiKey then
    requireWhitelistAccess state apiKey req.domainAddr
    let record ← orDatabaseError
      (EnvFactory.createWhitelistEntry state.env req.domainAddr req.direction
        req.value req.description)
    return .ofRecord record
  else if isPlatformAdminScope apiKey then
    fail ⟨.forbidden, "Insufficient scope",
      some "PlatformAdmin can only view and toggle whitelist entries"⟩
  else
    fail insufficientScope

/-- The entries of agents the key manages, one metadata lookup for each; a
failed lookup hides the entry. -/
def managedEntries : List WhitelistRecord → Handler (List WhitelistRecord)
  | [] => return []
  | entry :: rest => do
      if isAgentEntry entry then
        match ← (Storage.getDomainAddrMeta state.env entry.domainAddr).attempt with
        | .ok (some agentMeta) =>
            let managed ← managedEntries rest
            if agentMeta.managerAddress = apiKey.emailAddress then
              return entry :: managed
            else
              return managed
        | _ => managedEntries rest
      else
        managedEntries rest

def listWhitelists (domain : Option String) :
    Handler (List WhitelistResponse) := do
  if isAgentScope apiKey && !isAdminScope apiKey then
    let records ← orDatabaseError
      (EnvFactory.listWhitelistEntries state.env (domain.getD ""))
    let own := records.filter fun entry =>
      isAgentEntry entry && entry.apiKeyId == some apiKey.id
    return own.map .ofRecord
  else if isAgentAdminScope apiKey && !isSystemAdminScope apiKey &&
      !isPlatformAdminScope apiKey then
    let records ← orDatabaseError
      (EnvFactory.listWhitelistEntries state.env (domain.getD ""))
    let managed ← managedEntries state apiKey records
    return managed.map .ofRecord
  else if isAdminScope apiKey then
    let records ← orDatabaseError
      (EnvFactory.listWhitelistEntries state.env (domain.getD ""))
    return records.map .ofRecord
  else
    fail insufficientScope

/-- The checks of one scope after another: each scope the key has must
pass. -/
def requireCheckAccess (domainAddr : String) : Handler Unit := do
  if !isPlatformAdminScope apiKey && !isSystemAdminScope apiKey &&
      !isAgentAdminScope apiKey && !isAgentScope apiKey then
    fail ⟨.forbidden, "Insufficient scope",
      some "Whitelist check requires admin, system, agent_admin, or agent scope"⟩
  else
    check (if isSystemAdminScope apiKey then requireDomainMatch apiKey domainAddr
      else .ok ())
    (requireManager state apiKey domainAddr).when (isAgentAdminScope apiKey)
    if isAgentScope apiKey && apiKey.emailAddress != domainAddr then
      fail ⟨.forbidden, "forbidden",
        some "Agent can only check whitelist for their own email address"⟩
    else
      return ()

def checkWhitelist (query : CheckWhitelistQuery) :
    Handler CheckWhitelistResponse := do
  requireCheckAccess state apiKey query.domainAddr
  let tables := state.env.tables
  if tables.toLowercase (Text.trim query.value) =
      tables.toLowercase state.systemSender then
    return ⟨true, true, query⟩
  else
    let whitelisted ← orDatabaseError
      (EnvFactory.checkWhitelisted state.env query.domainAddr query.value
        query.direction)
    return ⟨whitelisted, false, query⟩

/-! ## Update and deletion by id -/

def writeUpdate (id : Int) (req : UpdateWhitelistRequest) :
    Handler WhitelistResponse := do
  match ← orDatabaseError
      (Storage.updateWhitelist state.env id req.isActive req.direction) with
  | some record => return .ofRecord record
  | none => fail whitelistNotFound

def updateWhitelist (id : Int) (req : UpdateWhitelistRequest) :
    Handler WhitelistResponse := do
  if isAgentScope apiKey || isAgentAdminScope apiKey then
    requireOwnEntry state apiKey id
    writeUpdate state id req
  else if isSystemAdminScope apiKey then
    writeUpdate state id req
  else if isPlatformAdminScope apiKey then
    writeUpdate state id req
  else
    fail insufficientScope

def agentEntryRefused (verb : String) : HttpError :=
  ⟨.forbidden, "Admin cannot " ++ verb ++ " agent-category whitelist entries",
    some "Use the agent or agent_admin scope to manage agent whitelists"⟩

/-- A platform or system admin cannot delete an agent's rule by id. -/
def refuseAgentEntry (id : Int) : Handler Unit := do
  if isPlatformAdminScope apiKey || isSystemAdminScope apiKey then
    match ← orDatabaseError (Storage.getWhitelistById state.env id) with
    | none => fail whitelistNotFound
    | some entry =>
        if isAgentEntry entry then fail (agentEntryRefused "delete")
        else return ()
  else
    return ()

def deleteById (id : Int) : Handler Unit := do
  refuseAgentEntry state apiKey id
  orDatabaseError (EnvFactory.deleteWhitelistEntry state.env id)

def deleteWhitelist (id : Int) : Handler Unit := do
  if isAgentScope apiKey || isAgentAdminScope apiKey then
    requireOwnEntry state apiKey id
    deleteById state apiKey id
  else if isSystemAdminScope apiKey then
    match ← orDatabaseError (Storage.getWhitelistById state.env id) with
    | none => fail whitelistNotFound
    | some entry =>
        requireWhitelistAccess state apiKey entry.domainAddr
        deleteById state apiKey id
  else if isPlatformAdminScope apiKey then
    deleteById state apiKey id
  else
    fail insufficientScope

/-! ## Update and deletion by parameters -/

/-- The first of some rules that passes a test. -/
def firstEntry (entries : List WhitelistRecord)
    (test : WhitelistRecord → Bool) : Handler WhitelistRecord :=
  match entries.find? test with
  | some entry => return entry
  | none => fail whitelistNotFound

/-- The rule a by-parameters endpoint acts on: the first rule of the whole
system that has the value and, for an agent, the agent's key. The address of
the query only resolves the system. -/
def findEntry (query : WhitelistByParams) (verb : String) :
    Handler WhitelistRecord := do
  if isAgentScope apiKey || isAgentAdminScope apiKey then
    (requireManager state apiKey query.domainAddr).when (isAgentAdminScope apiKey)
    let entries ← orDatabaseError
      (EnvFactory.listWhitelistEntries state.env query.domainAddr)
    firstEntry entries fun entry => entry.value == query.value &&
      (isAgentAdminScope apiKey || entry.apiKeyId == some apiKey.id)
  else if isSystemAdminScope apiKey || isPlatformAdminScope apiKey then
    requireWhitelistAccess state apiKey query.domainAddr
    let entries ← orDatabaseError
      (EnvFactory.listWhitelistEntries state.env query.domainAddr)
    let entry ← firstEntry entries (·.value == query.value)
    if isAgentEntry entry then fail (agentEntryRefused verb)
    else return entry
  else
    fail insufficientScope

def deleteWhitelistByParams (query : WhitelistByParams) : Handler Unit := do
  let entry ← findEntry state apiKey query "delete"
  orDatabaseError (EnvFactory.deleteWhitelistEntry state.env entry.id)

def updateWhitelistByParams (query : WhitelistByParams)
    (req : UpdateWhitelistRequest) : Handler WhitelistResponse := do
  let entry ← findEntry state apiKey query "update"
  writeUpdate state entry.id req

end Handlers

end Api

end AimailGateway
