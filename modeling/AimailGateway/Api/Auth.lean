import AimailGateway.Errors
import AimailGateway.Scope
import AimailGateway.Storage.Records

/-! # Scope guards and address checks of the API -/

namespace AimailGateway

open Library

namespace ApiKeyRecord

/-- The key has an entry that resolves to `scope`. -/
def hasScope (key : ApiKeyRecord) (scope : Scope) : Bool :=
  scope.granted key.scopes

/-- An empty address: the key speaks for its whole system. -/
def systemLevel (key : ApiKeyRecord) : Prop :=
  key.emailAddress = ""

/-- A bare domain in `email_address`. -/
def domainLevel (key : ApiKeyRecord) : Prop :=
  key.emailAddress ≠ "" ∧ Text.containsChar '@' key.emailAddress = false

instance (key : ApiKeyRecord) : Decidable key.domainLevel :=
  inferInstanceAs (Decidable (key.emailAddress ≠ "" ∧
    Text.containsChar '@' key.emailAddress = false))

end ApiKeyRecord

def isAgentScope (key : ApiKeyRecord) : Bool := key.hasScope .agent

def isSystemAdminScope (key : ApiKeyRecord) : Bool := key.hasScope .systemAdmin

def isAgentAdminScope (key : ApiKeyRecord) : Bool := key.hasScope .agentAdmin

def isPlatformAdminScope (key : ApiKeyRecord) : Bool :=
  key.hasScope .platformAdmin

def isAdminScope (key : ApiKeyRecord) : Bool :=
  isPlatformAdminScope key || isSystemAdminScope key || isAgentAdminScope key

/-- A string list in `Debug` form. -/
def debugList (texts : List String) : String :=
  "[" ++ ", ".intercalate (texts.map fun text => "\"" ++ text ++ "\"") ++ "]"

/-- The scope a guard names. Unlike `Scope.parseDb`, no aliases. -/
def requiredScope (name : String) : Option Scope :=
  match name with
  | "platform" => some .platformAdmin
  | "system" => some .systemAdmin
  | "agent_admin" => some .agentAdmin
  | "agent" => some .agent
  | "bridge" => some .bridge
  | _ => none

def requireScope (key : ApiKeyRecord) (name : String) : Except HttpError Unit :=
  match requiredScope name with
  | none => .error ⟨.forbidden, "Unknown scope: " ++ name, none⟩
  | some required =>
      if key.hasScope required then
        .ok ()
      else
        .error ⟨.forbidden, "Insufficient scope: " ++ name,
          some ("Key '" ++ key.keyPrefix ++ "' has scopes: " ++
            debugList key.scopes)⟩

/-- At least one of the named scopes; otherwise the error for the first. -/
def requireScopeAny (key : ApiKeyRecord) (names : List String) :
    Except HttpError Unit :=
  match names with
  | [] =>
      .error ⟨.forbidden, "No valid scopes specified",
        some "require_scope_any called with empty scope list"⟩
  | first :: _ =>
      if names.any (fun name => (requireScope key name).isOk) then
        .ok ()
      else
        requireScope key first

/-- The check behind `requireDomainMatch` and `requireAgentMatch`. Access is
decided by scope and address; the system of the key plays no part. -/
def checkDomainAccess (key : ApiKeyRecord) (target roleLabel : String) :
    Except HttpError Unit :=
  if isPlatformAdminScope key || isSystemAdminScope key then
    .ok ()
  else if key.emailAddress = "" then
    .ok ()
  else if !Text.containsChar '@' key.emailAddress &&
      key.emailAddress == Text.lastPiece '@' target then
    .ok ()
  else if key.emailAddress = target then
    .ok ()
  else
    .error ⟨.forbidden, "forbidden",
      some (roleLabel ++ " email '" ++ key.emailAddress ++
        "' does not match target '" ++ target ++
        "' — cross-address access denied")⟩

def requireDomainMatch (key : ApiKeyRecord) (targetEmail : String) :
    Except HttpError Unit :=
  checkDomainAccess key targetEmail "API key"

def requireAgentMatch (key : ApiKeyRecord) (targetEmail : String) :
    Except HttpError Unit :=
  checkDomainAccess key targetEmail "AgentAdmin"

/-- Whitelist access: admins pass, an agent admin inside its own system, an
agent for its own address. -/
def checkWhitelistAccess (key : ApiKeyRecord) (domainAddr : String)
    (targetSystem : Option String) : Except HttpError Unit :=
  if isPlatformAdminScope key || isSystemAdminScope key then
    .ok ()
  else if isAgentAdminScope key && targetSystem == some key.systemId then
    .ok ()
  else if isAgentScope key && key.emailAddress == domainAddr then
    .ok ()
  else
    .error ⟨.forbidden, "forbidden",
      some "Insufficient scope or email mismatch for whitelist operation"⟩

/-! ## When the guards pass -/

variable {key : ApiKeyRecord}

theorem requireScope_ok {name : String} :
    requireScope key name = .ok () ↔
      ∃ scope, requiredScope name = some scope ∧ key.hasScope scope = true := by
  unfold requireScope
  cases requiredScope name with
  | none => simp
  | some required => simp

theorem requireScopeAny_ok {names : List String} :
    requireScopeAny key names = .ok () ↔
      ∃ name ∈ names, requireScope key name = .ok () := by
  cases names with
  | nil => simp [requireScopeAny]
  | cons first rest =>
      have isOk_iff (name : String) :
          (requireScope key name).isOk = true ↔ requireScope key name = .ok () := by
        cases requireScope key name with
        | error error => simp [Except.isOk, Except.toBool]
        | ok value => simp [Except.isOk, Except.toBool]
      simp only [requireScopeAny]
      split
      · next passes =>
          simpa [isOk_iff] using passes
      · next fails =>
          simp only [List.any_eq_true, isOk_iff] at fails
          constructor
          · intro passes
            exact ⟨first, List.mem_cons_self, passes⟩
          · exact fun passes => absurd passes fails

theorem requireAdmin_ok :
    requireScopeAny key ["platform", "system", "agent_admin"] = .ok () ↔
      isAdminScope key = true := by
  simp [requireScopeAny_ok, requireScope_ok, requiredScope, isAdminScope,
    isPlatformAdminScope, isSystemAdminScope, isAgentAdminScope, or_assoc]

/-- What `checkDomainAccess` decides: an admin scope above agent_admin, a
system-level key, a domain-level key inside its domain, or the very address. -/
def mayAccess (key : ApiKeyRecord) (target : String) : Prop :=
  isPlatformAdminScope key = true ∨ isSystemAdminScope key = true ∨
    key.systemLevel ∨
    (key.domainLevel ∧ key.emailAddress = Text.lastPiece '@' target) ∨
    key.emailAddress = target

theorem checkDomainAccess_ok {target roleLabel : String} :
    checkDomainAccess key target roleLabel = .ok () ↔ mayAccess key target := by
  unfold checkDomainAccess mayAccess
  split
  · next admin =>
      rw [Bool.or_eq_true, or_comm] at admin
      rcases admin with system | platform
      · exact iff_of_true rfl (Or.inr (Or.inl system))
      · exact iff_of_true rfl (Or.inl platform)
  · next notAdmin =>
      rw [Bool.or_eq_true, not_or] at notAdmin
      rw [or_iff_right notAdmin.1, or_iff_right notAdmin.2]
      split
      · next unnamed => exact iff_of_true rfl (Or.inl unnamed)
      · next named =>
          have notSystemLevel : ¬key.systemLevel := named
          rw [or_iff_right notSystemLevel]
          split
          · next inDomain =>
              simp only [Bool.and_eq_true, Bool.not_eq_true', beq_iff_eq]
                at inDomain
              exact iff_of_true rfl (Or.inl ⟨⟨named, inDomain.1⟩, inDomain.2⟩)
          · next outside =>
              simp only [Bool.and_eq_true, Bool.not_eq_true', beq_iff_eq,
                not_and] at outside
              rw [or_iff_right fun inside => outside inside.1.2 inside.2]
              split
              · next same => exact iff_of_true rfl same
              · next different => exact iff_of_false Except.error_ne_ok different

theorem requireDomainMatch_ok {target : String} :
    requireDomainMatch key target = .ok () ↔ mayAccess key target :=
  checkDomainAccess_ok

theorem requireAgentMatch_ok {target : String} :
    requireAgentMatch key target = .ok () ↔ mayAccess key target :=
  checkDomainAccess_ok

theorem checkWhitelistAccess_ok {domainAddr : String}
    {targetSystem : Option String} :
    checkWhitelistAccess key domainAddr targetSystem = .ok () ↔
      isPlatformAdminScope key = true ∨ isSystemAdminScope key = true ∨
      (isAgentAdminScope key = true ∧ targetSystem = some key.systemId) ∨
      (isAgentScope key = true ∧ key.emailAddress = domainAddr) := by
  unfold checkWhitelistAccess
  split
  · next admin =>
      rw [Bool.or_eq_true, or_comm] at admin
      rcases admin with system | platform
      · exact iff_of_true rfl (Or.inr (Or.inl system))
      · exact iff_of_true rfl (Or.inl platform)
  · next notAdmin =>
      rw [Bool.or_eq_true, not_or] at notAdmin
      rw [or_iff_right notAdmin.1, or_iff_right notAdmin.2]
      split
      · next manager =>
          rw [Bool.and_eq_true, beq_iff_eq] at manager
          exact iff_of_true rfl (Or.inl manager)
      · next notManager =>
          rw [Bool.and_eq_true, beq_iff_eq] at notManager
          rw [or_iff_right notManager]
          split
          · next agent =>
              rw [Bool.and_eq_true, beq_iff_eq] at agent
              exact iff_of_true rfl agent
          · next notAgent =>
              rw [Bool.and_eq_true, beq_iff_eq] at notAgent
              exact iff_of_false Except.error_ne_ok notAgent

end AimailGateway
