import AimailGateway.Api.Auth
import AimailGateway.Api.State
import AimailGateway.Storage.ApiKeys

/-! # API key handlers -/

namespace AimailGateway

open Library Action

namespace Api

structure CreateApiKeyRequest where
  systemId : String
  emailAddress : String
  scopes : List String
  expiresAt : Option String
  category : String
  deriving DecidableEq, Repr

structure UpdateApiKeyRequest where
  scopes : Option (List String)
  isActive : Option Bool
  rotate : Option Bool
  deriving DecidableEq, Repr

structure ApiKeyResponse where
  id : Int
  systemId : String
  emailAddress : String
  keyPrefix : String
  rawKey : Option String
  scopes : List String
  isActive : Bool
  createdAt : Timestamp
  expiresAt : Option String
  lastUsedAt : Option Timestamp
  category : String
  deriving DecidableEq, Repr

/-- `From<ApiKeyRecord>`: a stored record never exposes its raw key. -/
def ApiKeyResponse.ofRecord (record : ApiKeyRecord) : ApiKeyResponse where
  id := record.id
  systemId := record.systemId
  emailAddress := record.emailAddress
  keyPrefix := record.keyPrefix
  rawKey := none
  scopes := record.scopes
  isActive := record.isActive
  createdAt := record.createdAt
  expiresAt := record.expiresAt
  lastUsedAt := record.lastUsedAt
  category := record.category

def ApiKeyResponse.withRawKey (rawKey : String) (record : ApiKeyRecord) :
    ApiKeyResponse :=
  { ofRecord record with rawKey := some rawKey }

def keyNotFound : HttpError := ⟨.notFound, "API key not found", none⟩

/-! ## Creation -/

def invalidCategory (detail : String) : HttpError :=
  ⟨.badRequest, "invalid_category", some detail⟩

/-- The shape of address each category requires. -/
def validateCategory (req : CreateApiKeyRequest) : Except HttpError Unit :=
  match req.category with
  | "platform" =>
      if req.emailAddress = "" then .ok ()
      else .error (invalidCategory
        "platform category requires empty email_address")
  | "system" =>
      if req.emailAddress = "" then .ok ()
      else .error (invalidCategory
        "system category requires empty email_address")
  | "domain" =>
      if req.emailAddress = "" || Text.containsChar '@' req.emailAddress then
        .error (invalidCategory "domain category requires bare domain (no '@)")
      else .ok ()
  | "agent" =>
      if Text.containsChar '@' req.emailAddress then .ok ()
      else .error (invalidCategory
        "agent category requires email address with '@)")
  | "bridge" => .ok ()
  | _ => .error (invalidCategory ("unknown category: " ++ req.category))

/-- The scopes a request asks for; none means `agent`. -/
def requestedScopes (req : CreateApiKeyRequest) : List String :=
  if req.scopes.isEmpty then ["agent"] else req.scopes

def creatorLevel (key : ApiKeyRecord) : Nat :=
  if isPlatformAdminScope key then 3
  else if isSystemAdminScope key then 2
  else 1

/-- The tier of the requested scopes, resolved after trimming. -/
def targetLevel (scopes : List String) : Nat :=
  let parsed := scopes.filterMap fun text => Scope.parseDb (Text.trim text)
  if parsed.any (· == .platformAdmin) then 3
  else if parsed.any (· == .systemAdmin) then 2
  else 1

/-- A system-level key narrowing itself to one domain. -/
def isSystemToDomain (key : ApiKeyRecord) (req : CreateApiKeyRequest) : Bool :=
  key.emailAddress == "" && req.category == "domain" &&
    req.emailAddress != "" && !Text.containsChar '@' req.emailAddress

def checkTier (key : ApiKeyRecord) (req : CreateApiKeyRequest) :
    Except HttpError Unit :=
  if creatorLevel key ≤ targetLevel (requestedScopes req) &&
      !isSystemToDomain key req then
    let role :=
      if isPlatformAdminScope key then "platform"
      else if isSystemAdminScope key then "system"
      else "agent_admin"
    .error ⟨.forbidden, "Cannot create key at or above your privilege level",
      some ("Your max scope is '" ++ role ++ "' (level " ++
        toString (creatorLevel key) ++ "), cannot create scopes at level " ++
        toString (targetLevel (requestedScopes req)) ++ " or above")⟩
  else .ok ()

/-- Scope names reserved for keys without an address, compared literally. -/
def systemScopes : List String := ["platform", "system"]

def checkAddressLevelScopes (req : CreateApiKeyRequest) :
    Except HttpError Unit :=
  if req.emailAddress ≠ "" ∧ req.category ≠ "domain" then
    match (requestedScopes req).find? systemScopes.contains with
    | some scope =>
        .error ⟨.forbidden, "Invalid scope for address-level key",
          some ("Scope '" ++ scope ++ "' is reserved for system-level keys " ++
            "(empty email_address). Address-level keys may only use 'agent' " ++
            "or 'whitelist'.")⟩
    | none => .ok ()
  else .ok ()

def checkCreatorSystem (key : ApiKeyRecord) (req : CreateApiKeyRequest) :
    Except HttpError Unit :=
  if !isPlatformAdminScope key && key.systemId != req.systemId then
    .error ⟨.forbidden, "forbidden",
      some "Cannot create API keys for a different system"⟩
  else .ok ()

/-- The system must exist and the admission gate must pass. -/
def checkAdmission (state : HttpState) (systemId : String) :
    Except HttpError Unit :=
  match state.resolveSystem systemId with
  | .ok (some _) =>
      match state.admitAddress systemId with
      | .ok () => .ok ()
      | .error error =>
          .error ⟨.forbidden, "quota_exceeded", some error.toText⟩
  | .ok none => .error ⟨.notFound, "System not found", none⟩
  | .error error => .error (databaseError error)

def newRawKey (state : HttpState) : Handler (String × String × String) := do
  let rawKey ← newUuid state.env
  return (rawKey, state.storeHash (state.sha256Hex rawKey), Text.take 8 rawKey)

/-- Creating a system key while one exists rotates it instead: the row with an
empty address among the system-category keys of the system. -/
def rotateSystemKey (state : HttpState) (req : CreateApiKeyRequest)
    (keyHash keyPrefix : String) : Handler (Option ApiKeyRecord) := do
  if req.category = "system" then
    match ← (Storage.listApiKeysBySystem state.env req.systemId "system").attempt with
    | .error _ => return none
    | .ok existing =>
        match existing.find? (·.emailAddress == "") with
        | none => return none
        | some row => orDatabaseError (Storage.rotateApiKey state.env row.id keyHash keyPrefix)
  else
    return none

def createApiKey (state : HttpState) (apiKey : ApiKeyRecord)
    (req : CreateApiKeyRequest) : Handler ApiKeyResponse := do
  check (requireScopeAny apiKey ["platform", "system", "agent_admin"])
  check (checkAdmission state req.systemId)
  check (validateCategory req)
  check (requireDomainMatch apiKey req.emailAddress)
  let (rawKey, keyHash, keyPrefix) ← newRawKey state
  check (checkTier apiKey req)
  check (checkAddressLevelScopes req)
  check (checkCreatorSystem apiKey req)
  match ← rotateSystemKey state req keyHash keyPrefix with
  | some record => return .withRawKey rawKey record
  | none =>
      let record ← orDatabaseError
        (Storage.insertApiKey state.env req.systemId req.emailAddress keyHash keyPrefix
          (requestedScopes req) req.expiresAt req.category)
      return .withRawKey rawKey record

/-- The keys `GET /api/v1/api-keys` shows: those of the `email` parameter, or
what the scope of the caller may list. -/
def visibleKeys (state : HttpState) (apiKey : ApiKeyRecord)
    (email : Option String) : Handler (List ApiKeyRecord) := do
  match email with
  | some email =>
      if !isPlatformAdminScope apiKey && !isSystemAdminScope apiKey &&
          !isAgentAdminScope apiKey && isAgentScope apiKey &&
          email != apiKey.emailAddress then
        fail ⟨.forbidden, "Forbidden", none⟩
      else
        match ← orDatabaseError (Storage.getApiKeyByEmail state.env email) with
        | some key =>
            if !isPlatformAdminScope apiKey && key.systemId != apiKey.systemId then
              fail ⟨.forbidden, "forbidden",
                some "cross-system key lookup denied"⟩
            else
              return [key]
        | none => return []
  | none =>
      if isPlatformAdminScope apiKey then
        orDatabaseError (Storage.listApiKeys state.env)
      else if isSystemAdminScope apiKey || isAgentAdminScope apiKey then
        orDatabaseError
          (Storage.listApiKeysBySystem state.env apiKey.systemId "agent")
      else if isAgentScope apiKey then
        let own ← orDatabaseError (Storage.getApiKey state.env apiKey.id)
        return own.toList
      else
        fail ⟨.forbidden, "Insufficient scope", none⟩

def listApiKeys (state : HttpState) (apiKey : ApiKeyRecord)
    (email : Option String) : Handler (List ApiKeyResponse) := do
  let keys ← visibleKeys state apiKey email
  return keys.map ApiKeyResponse.ofRecord

/-- The match a by-id handler makes: the agent check for an agent admin, the
domain check for everyone else. -/
def requireKeyMatch (apiKey : ApiKeyRecord) (target : String) :
    Except HttpError Unit :=
  if isAgentAdminScope apiKey then requireAgentMatch apiKey target
  else requireDomainMatch apiKey target

def getApiKey (state : HttpState) (apiKey : ApiKeyRecord) (id : Int) :
    Handler ApiKeyResponse := do
  check (requireScopeAny apiKey ["platform", "system", "agent_admin"])
  match ← orDatabaseError (Storage.getApiKey state.env id) with
  | some record =>
      check (requireKeyMatch apiKey record.emailAddress)
      return .ofRecord record
  | none => fail keyNotFound

/-! ## Update and deletion -/

def rotateOwnKey (state : HttpState) (id : Int) : Handler ApiKeyResponse := do
  let (rawKey, keyHash, keyPrefix) ← newRawKey state
  match ← orDatabaseError (Storage.rotateApiKey state.env id keyHash keyPrefix) with
  | some record => return .withRawKey rawKey record
  | none => fail keyNotFound

def updateApiKey (state : HttpState) (apiKey : ApiKeyRecord) (id : Int)
    (req : UpdateApiKeyRequest) : Handler ApiKeyResponse := do
  if isAdminScope apiKey then
    if req.rotate.getD false && id == apiKey.id then
      rotateOwnKey state id
    else if req.scopes.isSome then
      fail ⟨.forbidden, "Insufficient scope",
        some "Admin keys can only disable keys or rotate their own"⟩
    else
      match ← orDatabaseError (Storage.getApiKey state.env id) with
      | none => fail keyNotFound
      | some existing =>
          check (if isPlatformAdminScope apiKey then .ok ()
            else requireKeyMatch apiKey existing.emailAddress)
          match ← orDatabaseError (Storage.updateApiKey state.env id none req.isActive) with
          | some record => return .ofRecord record
          | none => fail keyNotFound
  else if isAgentScope apiKey then
    if id != apiKey.id then
      fail ⟨.forbidden, "Agent can only rotate their own key", none⟩
    else if !req.rotate.getD false then
      fail ⟨.forbidden,
        "Agent can only rotate their key, not update other fields", none⟩
    else
      rotateOwnKey state id
  else
    fail ⟨.forbidden, "Insufficient scope", none⟩

def deleteApiKey (state : HttpState) (apiKey : ApiKeyRecord) (id : Int) :
    Handler Unit := do
  check (requireScopeAny apiKey ["platform", "system", "agent_admin"])
  match ← orDatabaseError (Storage.getApiKey state.env id) with
  | none => fail keyNotFound
  | some existing =>
      check (requireKeyMatch apiKey existing.emailAddress)
      orDatabaseError (Storage.deleteApiKey state.env id)

end Api

end AimailGateway
