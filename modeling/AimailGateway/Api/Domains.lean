import AimailGateway.Api.Activation
import AimailGateway.Storage.Rename

/-! # System domain, address and agent metadata handlers -/

namespace AimailGateway

open Library Action

namespace Api

structure RegisterAddressRequest where
  id : String
  email : String
  webhookUrl : Option String
  webhookSecret : Option String
  managerAddress : Option String
  deriving DecidableEq, Repr

structure RenameAddressRequest where
  oldEmail : String
  newEmail : String
  deriving DecidableEq, Repr

structure UpdateAgentMetaRequest where
  managerAddress : Option String
  agentSignature : Option String
  agentPersona : Option String
  deriving DecidableEq, Repr

structure AgentMetaResponse where
  email : String
  managerAddress : String
  agentSignature : String
  agentPersona : String
  deriving DecidableEq, Repr

section Handlers

variable (state : HttpState) (apiKey : ApiKeyRecord)

def checkSystem (admission : String → Except AppError Unit) (systemId : String) :
    Except HttpError SystemRecord :=
  match state.resolveSystem systemId with
  | .error error => .error (databaseError error)
  | .ok none => .error ⟨.notFound, "System not found", none⟩
  | .ok (some system) =>
      match admission systemId with
      | .error error => .error ⟨.forbidden, "quota_exceeded", some error.toText⟩
      | .ok () => .ok system

/-! ## Registration -/

/-- The first non-empty of the explicit manager, the system's and the
configuration's. -/
def resolveEffectiveManager (explicit systemDefault configDefault :
    Option String) : Option String :=
  (([explicit, systemDefault, configDefault].filterMap id).map Text.trim).find?
    (· != "")

def checkSystemExists (tid : String) : Except HttpError SystemRecord :=
  checkSystem state (fun _ => .ok ()) tid

/-- Everything `register_address` checks before it reads the database. -/
def checkRegistration (tid : String) (req : RegisterAddressRequest) :
    Except HttpError SystemRecord := do
  requireScopeAny apiKey ["system", "agent_admin"]
  checkAddressShape tid req.email
  if isAgentAdminScope apiKey then
    requireDomainMatch apiKey (Text.lastPiece '@' req.email)
  else
    .ok ()
  checkSystemExists state tid

def effectiveManager (system : SystemRecord) (req : RegisterAddressRequest) :
    Option String :=
  resolveEffectiveManager req.managerAddress (some system.managerAddress)
    state.managerDefault

/-- The anchor of the address must be registered and active in the system. -/
def requireAnchor (tid email : String) : Handler Unit := do
  let bareDomain := Text.lastPiece '@' email
  let lookupKey := anchorKey tid (localOf email) bareDomain
  match ← orDatabaseError (Storage.getSystemDomainByName state.env lookupKey) with
  | none =>
      if isShared tid then
        fail ⟨.preconditionFailed, "System anchor not found",
          some ("System anchor '" ++ lookupKey ++ "' not found — the " ++
            "shared-domain system must be activated to create it")⟩
      else
        fail ⟨.preconditionFailed, "Bare domain not found",
          some ("Register domain '" ++ bareDomain ++ "' first via POST " ++
            "/api/v1/admin/systems/" ++ tid ++ "/domains")⟩
  | some record =>
      check (if !record.isActive then
          .error ⟨.preconditionFailed, "Domain is inactive", none⟩
        else if record.systemId ≠ tid then
          .error ⟨.forbidden, "forbidden",
            some "Domain does not belong to this system"⟩
        else .ok ())

def checkAdmitAddress (tid : String) : Except HttpError Unit :=
  match state.admitAddress tid with
  | .ok () => .ok ()
  | .error error => .error ⟨.forbidden, "quota_exceeded", some error.toText⟩

/-- The rule between an agent and its manager, both ways. Its failure is only
logged. -/
def createManagerRule (email manager : String) : Action World ε Unit :=
  (EnvFactory.createWhitelistEntry state.env email "all" manager
    (some "Agent <-> Manager (auto-created)")).ignore

structure RegisterAddressResponse where
  domain : SystemDomainRecord
  activationCode : Option String
  deriving DecidableEq, Repr

/-- What follows a registration: the manager's rule and, when asked for, one
activation code bound to the address. -/
def completeRegistration (tid : String) (req : RegisterAddressRequest)
    (generateCode : Bool) (manager : Option String)
    (record : SystemDomainRecord) : Handler RegisterAddressResponse := do
  optionally (createManagerRule state req.email) manager
  if generateCode then
    let codes ← (generateActivationCodes state tid
      (Text.lastPiece '@' req.email) (some req.email) 1).mapError fun error =>
        ⟨.internalServerError, "Failed to generate activation code",
          some error.toText⟩
    match codes with
    | [] =>
        fail ⟨.internalServerError, "Backend returned empty code list", none⟩
    | code :: _ => return ⟨record, some code⟩
  else
    return ⟨record, none⟩

/-- The metadata and the manager's rule of an address another system has
registered. Failures are only logged. -/
def syncForeignAddress (tid email manager : String) : Handler Unit := do
  (Storage.upsertDomainAddrMeta state.env email tid (some manager) none
    none).ignore
  createManagerRule state email manager

/-- The answer to an address another system has registered: it is refused, but
its metadata and its manager's rule are written all the same. -/
def answerConflict (tid : String) (req : RegisterAddressRequest)
    (manager : Option String) (error : AppError) :
    Handler RegisterAddressResponse := do
  optionally (syncForeignAddress state tid req.email) manager
  fail ⟨.conflict, "already_exists", some error.toText⟩

def registerAddress (tid : String) (generateCode : Bool)
    (req : RegisterAddressRequest) : Handler RegisterAddressResponse := do
  let system ← check (checkRegistration state apiKey tid req)
  requireAnchor state tid req.email
  check (checkAdmitAddress state tid)
  let manager := effectiveManager state system req
  match ← (EnvFactory.createDomain state.env req.id tid req.email
      req.webhookUrl req.webhookSecret manager).attempt with
  | .ok record => completeRegistration state tid req generateCode manager record
  | .error (.conflict text) =>
      answerConflict state tid req manager (.conflict text)
  | .error error => fail (databaseError error)

/-! ## Rename -/

def checkRename (tid : String) (req : RenameAddressRequest) (old new : String) :
    Except HttpError Unit := do
  requireScopeAny apiKey ["system"]
  if isAgentAdminScope apiKey && apiKey.emailAddress != req.oldEmail then
    .error ⟨.forbidden, "not_owner",
      some "agent_admin keys may only rename their own address"⟩
  else if old = new then
    .error ⟨.badRequest, "same_address", none⟩
  else if Text.lastPiece '@' old = "" ∨
      Text.lastPiece '@' new ≠ Text.lastPiece '@' old then
    .error ⟨.badRequest, "cross_domain_rename",
      some "rename must stay on the same bare domain"⟩
  else
    let newLocal := Text.firstPiece '@' new
    let legal := newLocal != "" && Text.byteLength newLocal ≤ 64 &&
      (Text.bytes newLocal).all isAtextNoDot &&
      dotCount newLocal == (if isShared tid then 1 else 0)
    if legal then .ok ()
    else
      .error ⟨.badRequest, "invalid_email",
        some ("new local-part must match the system's address format " ++
          "(shared: one dot; non-shared: none), atext-no-dot only")⟩

/-- A row is found; a failed lookup counts as not found. -/
def isFound : Except AppError (Option α) → Bool
  | .ok (some _) => true
  | _ => false

def isRegistered (addr : String) : Handler Bool := do
  let registered ← (Storage.getSystemDomainByName state.env addr).attempt
  if isFound registered then
    return true
  else
    let agentMeta ← (Storage.getDomainAddrMeta state.env addr).attempt
    return isFound agentMeta

/-- The new address must not be registered anywhere. -/
def requireUnregistered (new : String) : Handler Unit := do
  if ← isRegistered state new then
    fail ⟨.conflict, "already_exists",
      some ("'" ++ new ++ "' is already a registered address")⟩
  else
    return ()

/-- The old address must be registered in the system of the path. -/
def requireRegisteredIn (tid old : String) : Handler Unit := do
  match ← orDatabaseError (Storage.getSystemDomainByName state.env old) with
  | none =>
      fail ⟨.notFound, "agent_not_found",
        some ("No registered address '" ++ old ++ "'")⟩
  | some record =>
      if record.systemId ≠ tid then
        fail ⟨.forbidden, "forbidden",
          some "Address does not belong to this system"⟩
      else
        return ()

def normalized (email : String) : String :=
  state.env.tables.toLowercase (Text.trim email)

def renameAgentAddress (tid : String) (req : RenameAddressRequest) :
    Handler Unit := do
  let old := normalized state req.oldEmail
  let new := normalized state req.newEmail
  check (checkRename apiKey tid req old new)
  requireUnregistered state new
  requireRegisteredIn state tid old
  orDatabaseError (Storage.renameAgentAddressRefs state.env old new)

/-! ## Agent metadata -/

/-- A change of manager moves the rule between the agent and its manager. Both
writes may fail unnoticed. -/
def syncManagerRule (email oldManager manager : String) : Handler Unit := do
  (Storage.deleteWhitelistByDomainAndValue state.env email
    oldManager).ignore.when (oldManager != "")
  (EnvFactory.createWhitelistEntry state.env email "all" manager
    (some "Agent ↔ Manager (auto-synced)")).ignore.when (manager != "")

/-- The checks on the metadata row that is to be updated. -/
def checkAgentMeta (email : String) (existing : DomainAddrMetaRecord) :
    Except HttpError Unit :=
  if !isPlatformAdminScope apiKey && existing.systemId != apiKey.systemId then
    .error ⟨.forbidden, "forbidden",
      some ("Agent '" ++ email ++ "' belongs to system '" ++
        existing.systemId ++ "', not '" ++ apiKey.systemId ++ "'")⟩
  else if isAgentAdminScope apiKey &&
      !Text.eqIgnoreAsciiCase existing.managerAddress apiKey.emailAddress then
    .error ⟨.forbidden, "Not the manager of this agent",
      some ("You (" ++ apiKey.emailAddress ++ ") are not the manager of '" ++
        email ++ "'")⟩
  else
    .ok ()

def updateAgentMeta (path : String) (req : UpdateAgentMetaRequest) :
    Handler AgentMetaResponse := do
  check (requireScopeAny apiKey ["system"])
  let email := state.env.tables.toLowercase path
  match ← orDatabaseError (Storage.getDomainAddrMeta state.env email) with
  | none =>
      fail ⟨.notFound, "Agent not found",
        some ("No metadata for agent '" ++ email ++ "' — register the " ++
          "address first via POST /api/v1/admin/systems/\x7bsid\x7d/addresses")⟩
  | some existing => do
      check (checkAgentMeta apiKey email existing)
      let manager := req.managerAddress.getD existing.managerAddress
      let signature := req.agentSignature.getD existing.agentSignature
      let persona := req.agentPersona.getD existing.agentPersona
      let _ ← orDatabaseError (Storage.upsertDomainAddrMeta state.env email
        existing.systemId (some manager) (some signature) (some persona))
      (syncManagerRule state email existing.managerAddress manager).when
        (manager != existing.managerAddress)
      return ⟨email, manager, signature, persona⟩

end Handlers

/-! ## Outcomes -/

section Outcomes

open EnvFactory

variable {state : HttpState} {world : World}
  {failed : HttpError → World → Prop} {ok : Unit → World → Prop}

theorem requireAnchor_ends {tid email : String}
    (refused : AllowsFailure failed world)
    (passed : ∀ row ∈ world.db.systemDomains,
      row.domain = anchorKey tid (localOf email) (Text.lastPiece '@' email) →
      row.isActive = true → row.systemId = tid → ok () world.later) :
    (requireAnchor state tid email).Ends ok failed world := by
  rw [requireAnchor, ends_bind, ends_orDatabaseError]
  apply Storage.getSystemDomainByName_ends
  · exact fun _ => refused _ _ rfl
  · intro _
    simp only
    split
    · exact refused _ _ rfl
    · exact refused _ _ rfl
  · intro row member named
    simp only
    rw [ends_check]
    refine ⟨fun _ checked => ?_, fun error _ => refused error _ rfl⟩
    split at checked
    · cases checked
    · next active =>
        split at checked
        · cases checked
        · next own =>
            rw [Bool.not_eq_true, Bool.not_eq_false'] at active
            exact passed row member named active (not_not.mp own)

end Outcomes

end Api

end AimailGateway
