import AimailGateway.Api.Redemption
import AimailGateway.Library.Execution

/-! # Redemptions of one code side by side

Any number of requests redeem the same code. A request moves from one storage
statement to the next; between two statements of one request the others may
move.
-/

namespace AimailGateway.Api

open Library Action

/-- A request between its statements. -/
inductive Redemption where
  | fresh
  /-- The handler looks up the system of the code. -/
  | resolving (email : String)
  /-- The handler looks up the domain of the address. -/
  | anchoring (email systemId : String)
  | reading (email : String)
  | claiming (email systemId : String)
  | minting (email systemId : String)
  | deleting (key : ApiKeyRecord)
  | activated (key : ApiKeyRecord)
  | refused (error : AppError)
  deriving DecidableEq, Repr

section Statements

variable (state : HttpState) (code : String)

def domainOf (email : String) : String := Text.lastPiece '@' email

/-- A statement whose error ends the request. -/
def orRefused (statement : Storage Redemption) : Storage Redemption := do
  match ← statement.attempt with
  | .ok next => return next
  | .error error => return .refused error

/-- `activate_address_handler`, before `activate_address_code`. -/
def startRedemption (email : String) : Redemption :=
  if domainOf email = "" then .reading email else .resolving email

def resolveCode (email : String) : Storage Redemption := do
  let found ← (Storage.lookupActivationCode state.env
    (state.sha256Hex code)).attempt
  match found with
  | .ok (some (systemId, _)) => return .anchoring email systemId
  | _ => return .anchoring email ""

def resolveAnchor (email systemId : String) : Storage Redemption := do
  let lookupKey :=
    anchorKey systemId (Text.firstPiece '@' email) (domainOf email)
  match ← (Storage.getSystemDomainByName state.env lookupKey).attempt with
  | .ok (some _) => return .reading email
  | _ => return .refused (.badRequest "Domain not registered")

def readCode (email : String) : Storage Redemption := do
  match ← Storage.lookupActivationCode state.env (state.sha256Hex code) with
  | none =>
      return .refused
        (.activationCodeGone "invalid or expired activation code")
  | some (systemId, boundEmail) =>
      if boundEmail ≠ "" ∧
          Text.eqIgnoreAsciiCase email boundEmail = false then
        return .refused
          (.forbidden "activation code is bound to a different address")
      else
        return .claiming email systemId

def claimCode (email systemId : String) : Storage Redemption := do
  if ← noted "claim code"
      (Storage.claimActivationCode state.env (state.sha256Hex code) email) then
    return .minting email systemId
  else
    return .refused
      (.activationCodeGone "activation code already redeemed")

def mintKey (email systemId : String) : Storage Redemption := do
  let rawKey ← newUuid state.env
  let record ← noted "create key" (Storage.insertApiKey state.env systemId
    email (state.sha256Hex rawKey) (Text.take 8 rawKey) ["agent"] none "agent")
  return .deleting record

def deleteCode (key : ApiKeyRecord) : Storage Redemption := do
  Storage.deleteActivationCode state.env (state.sha256Hex code)
  return .activated key

def Redemption.statement : Redemption → Option (Storage Redemption)
  | .resolving email => some (resolveCode state code email)
  | .anchoring email systemId => some (resolveAnchor state email systemId)
  | .reading email => some (orRefused (readCode state code email))
  | .claiming email systemId =>
      some (orRefused (claimCode state code email systemId))
  | .minting email systemId => some (orRefused (mintKey state email systemId))
  | .deleting key => some (orRefused (deleteCode state code key))
  | .fresh | .activated _ | .refused _ => none

/-! ### A request alone -/

/-- `activate_address_code`, put together from its statements. -/
def redeemAlone (email : String) : Storage Int := do
  match ← readCode state code email with
  | .claiming email systemId => do
      match ← claimCode state code email systemId with
      | .minting email systemId => do
          match ← mintKey state email systemId with
          | .deleting key => do
              let _ ← deleteCode state code key
              return key.id
          | _ => fail (.internal "")
      | .refused error => fail error
      | _ => fail (.internal "")
  | .refused error => fail error
  | _ => fail (.internal "")

/-- The statements of one request, one after the other, are
`activate_address_code`. -/
theorem ends_redeemAlone {email : String} {world : World}
    {ok : Int → World → Prop} {failed : AppError → World → Prop} :
    (redeemAlone state code email).Ends ok failed world ↔
      (activateAddressCode state code email).Ends
        (fun activated later => ok activated.2 later) failed world := by
  simp only [redeemAlone, activateAddressCode, readCode, ends_bind]
  apply iff_of_eq
  congr 1
  funext found later
  cases found with
  | none => rfl
  | some issued =>
      by_cases differs : issued.2 ≠ "" ∧
          Text.eqIgnoreAsciiCase email issued.2 = false
      · simp only [if_pos differs]
        rfl
      · simp only [if_neg differs, ends_pure, ends_check_ok, claimCode,
          ends_bind]
        congr 1
        funext claimed next
        cases claimed with
        | false => rfl
        | true =>
            simp only [if_true, ends_pure, ends_check_ok, mintKey, deleteCode,
              ends_bind]

/-- The database and every request for the code. -/
structure Redemptions where
  world : World
  requests : Nat → Redemption

def Redemptions.start (db : Database) : Redemptions where
  world := .start db
  requests := fun _ => .fresh

inductive RedemptionEvent where
  | arrived (id : Nat) (email : String)
  | moved (id : Nat)
  deriving DecidableEq, Repr

/-- A request arrives, or one runs its next statement. -/
inductive RedemptionStep :
    Redemptions → RedemptionEvent → Redemptions → Prop where
  | arrived (before : Redemptions) (id : Nat) (email : String)
      (stage : before.requests id = .fresh) :
      RedemptionStep before (.arrived id email)
        { before with requests :=
            Function.update before.requests id (startRedemption email) }
  | moved (before : Redemptions) (id : Nat)
      (statement : Storage Redemption) (next : Redemption) (world : World)
      (stage : (before.requests id).statement state code = some statement)
      (ran : statement.run before.world = (.ok next, world)) :
      RedemptionStep before (.moved id)
        ⟨world, Function.update before.requests id next⟩

end Statements

/-! ## What one statement does -/

/-- Codes only get claimed or deleted, and the rest stays. -/
structure Settles (codeHash : String) (before after : Database) : Prop where
  domains : after.systemDomains = before.systemDomains
  keys : after.apiKeys = before.apiKeys
  codes : ∀ row ∈ after.activationCodes, ∃ old ∈ before.activationCodes,
    row.codeHash = old.codeHash ∧ row.systemId = old.systemId ∧
      row.emailAddress = old.emailAddress
  burned : Burned codeHash before → Burned codeHash after

theorem Settles.refl (codeHash : String) (db : Database) :
    Settles codeHash db db :=
  ⟨rfl, rfl, fun row member => ⟨row, member, rfl, rfl, rfl⟩, id⟩

theorem Settles.of_same {codeHash : String} {before after : Database}
    (same : after = before) : Settles codeHash before after :=
  same ▸ .refl codeHash before

/-- The row that anchors an address in the lookup for a system. -/
def Anchors (email systemId : String) (row : SystemDomainRecord) : Prop :=
  row.domain = anchorKey systemId (Text.firstPiece '@' email) (domainOf email)

/-- The effect of a request's next statement, by the request before and
after. -/
inductive RedemptionEffect (codeHash : String) (before after : Database) :
    Redemption → Redemption → Prop where
  | refused (request : Redemption) (error : AppError)
      (settles : Settles codeHash before after) :
      RedemptionEffect codeHash before after request (.refused error)
  | resolved (email systemId : String) (same : after = before) :
      RedemptionEffect codeHash before after (.resolving email)
        (.anchoring email systemId)
  | anchored (email systemId : String) (row : SystemDomainRecord)
      (member : row ∈ before.systemDomains)
      (anchors : Anchors email systemId row) (same : after = before) :
      RedemptionEffect codeHash before after (.anchoring email systemId)
        (.reading email)
  | read (email : String) (row : ActivationCodeRecord)
      (member : row ∈ before.activationCodes) (hash : row.codeHash = codeHash)
      (bound : boundTo email row = true) (same : after = before) :
      RedemptionEffect codeHash before after (.reading email)
        (.claiming email row.systemId)
  | claimed (email systemId : String) (unclaimed : ¬Burned codeHash before)
      (settles : Settles codeHash before after)
      (burned : Burned codeHash after) :
      RedemptionEffect codeHash before after (.claiming email systemId)
        (.minting email systemId)
  | minted (email systemId : String) (key : ApiKeyRecord)
      (scopes : key.scopes = ["agent"]) (system : key.systemId = systemId)
      (address : key.emailAddress = email) (new : key ∉ before.apiKeys)
      (domains : after.systemDomains = before.systemDomains)
      (codes : after.activationCodes = before.activationCodes)
      (keys : ∀ row, row ∈ after.apiKeys ↔ row ∈ before.apiKeys ∨ row = key) :
      RedemptionEffect codeHash before after (.minting email systemId)
        (.deleting key)
  | deleted (key : ApiKeyRecord) (settles : Settles codeHash before after) :
      RedemptionEffect codeHash before after (.deleting key) (.activated key)

section Effects

variable {state : HttpState} {code : String} {world : World}

theorem ends_orRefused {statement : Storage Redemption}
    {ok : Redemption → World → Prop} {failed : AppError → World → Prop} :
    (orRefused statement).Ends ok failed world ↔
      statement.Ends ok (fun error later => ok (.refused error) later)
        world := by
  rw [orRefused, ends_bind, ends_attempt]
  rfl

theorem resolveCode_ends (email : String) :
    (resolveCode state code email).Ends
      (fun next later => RedemptionEffect (state.sha256Hex code) world.db
        later.db (.resolving email) next)
      (fun _ _ => False) world := by
  rw [resolveCode, ends_bind, ends_attempt]
  apply Storage.lookupActivationCode_ends
  · exact fun _ _ same => .resolved email "" same
  · exact fun _ same => .resolved email "" same
  · exact fun row _ _ _ same => .resolved email row.systemId same

theorem resolveAnchor_ends (email systemId : String) :
    (resolveAnchor state email systemId).Ends
      (fun next later => RedemptionEffect (state.sha256Hex code) world.db
        later.db (.anchoring email systemId) next)
      (fun _ _ => False) world := by
  rw [resolveAnchor, ends_bind, ends_attempt]
  apply find_ends
  · exact fun _ => .refused _ _ (.refl _ _)
  · exact fun _ => .refused _ _ (.refl _ _)
  · intro row member chosen
    exact .anchored email systemId row member (beq_iff_eq.mp chosen) rfl

theorem readCode_ends (email : String) :
    (orRefused (readCode state code email)).Ends
      (fun next later => RedemptionEffect (state.sha256Hex code) world.db
        later.db (.reading email) next)
      (fun _ _ => False) world := by
  rw [ends_orRefused, readCode, ends_bind]
  apply Storage.lookupActivationCode_ends
  · exact fun _ _ same => .refused _ _ (.of_same same)
  · exact fun _ same => .refused _ _ (.of_same same)
  · intro row member hash later same
    by_cases differs : row.emailAddress ≠ "" ∧
        Text.eqIgnoreAsciiCase email row.emailAddress = false
    · simp only [if_pos differs]
      exact .refused _ _ (.of_same same)
    · simp only [if_neg differs]
      refine .read email row member hash ?_ same
      by_cases named : row.emailAddress = ""
      · simp [boundTo, named]
      · simpa [boundTo, named] using differs

theorem claimCode_ends (email systemId : String) :
    (orRefused (claimCode state code email systemId)).Ends
      (fun next later => RedemptionEffect (state.sha256Hex code) world.db
        later.db (.claiming email systemId) next)
      (fun _ _ => False) world := by
  rw [ends_orRefused, claimCode, ends_bind, noted, ends_mapError]
  apply claimActivationCode_ends
  · exact fun _ _ _ _ same _ => .refused _ _ (.of_same same)
  · intro _ codes later burned rows changed _
    have settles : Settles (state.sha256Hex code) world.db later.db := by
      rw [changed]
      exact ⟨rfl, rfl, rows, fun _ => burned⟩
    have burned : Burned (state.sha256Hex code) later.db := by
      rw [changed]
      exact burned
    cases unclaimed : world.db.activationCodes.rows.any
        (isUnclaimed (state.sha256Hex code)) with
    | false => exact .refused _ _ settles
    | true =>
        refine .claimed email systemId ?_ settles burned
        intro before
        rcases List.any_eq_true.mp unclaimed with ⟨row, member, chosen⟩
        simp only [isUnclaimed, Bool.and_eq_true, beq_iff_eq] at chosen
        simp [before row member chosen.1] at chosen

theorem mintKey_ends (email systemId : String) :
    (orRefused (mintKey state email systemId)).Ends
      (fun next later => RedemptionEffect (state.sha256Hex code) world.db
        later.db (.minting email systemId) next)
      (fun _ _ => False) world := by
  rw [ends_orRefused, mintKey, ends_bind, ends_newUuid, ends_bind, noted,
    ends_mapError]
  apply Storage.insertApiKey_ends
  · exact fun _ _ same => .refused _ _ (.of_same same)
  · intro createdAt keys later record insertion changed
    rw [World.later_db] at changed
    refine .minted email systemId record rfl rfl rfl ?_ ?_ ?_ ?_
    · intro member
      have below : record.id < record.id := Storage.lt_nextApiKeyId member
      omega
    · rw [changed]
    · rw [changed]
    · intro row
      rw [changed]
      exact Table.mem_of_insert? insertion

theorem deleteCode_ends (key : ApiKeyRecord) :
    (orRefused (deleteCode state code key)).Ends
      (fun next later => RedemptionEffect (state.sha256Hex code) world.db
        later.db (.deleting key) next)
      (fun _ _ => False) world := by
  rw [ends_orRefused, deleteCode, ends_bind, Storage.deleteActivationCode]
  apply call_ends
  · exact fun _ => .refused _ _ (.refl _ _)
  · intro value db outcome
    cases outcome
    refine .deleted key ⟨rfl, rfl, ?_, ?_⟩
    · intro row member
      exact ⟨row, (Table.mem_delete.mp member).1, rfl, rfl, rfl⟩
    · intro burned row member
      exact burned row (Table.mem_delete.mp member).1

theorem statement_ends (world : World) {request : Redemption}
    {statement : Storage Redemption}
    (stage : request.statement state code = some statement) :
    statement.Ends
      (fun next later => RedemptionEffect (state.sha256Hex code) world.db
        later.db request next)
      (fun _ _ => False) world := by
  cases request with
  | fresh => cases stage
  | resolving email =>
      cases stage
      exact resolveCode_ends email
  | anchoring email systemId =>
      cases stage
      exact resolveAnchor_ends email systemId
  | reading email =>
      cases stage
      exact readCode_ends email
  | claiming email systemId =>
      cases stage
      exact claimCode_ends email systemId
  | minting email systemId =>
      cases stage
      exact mintKey_ends email systemId
  | deleting key =>
      cases stage
      exact deleteCode_ends key
  | activated key => cases stage
  | refused error => cases stage

end Effects

/-! ## One code, one key -/

/-- The system has registered what anchors the address. -/
def Tenant (db : Database) (systemId email : String) : Prop :=
  ∃ row ∈ db.systemDomains, Anchors email systemId row ∧
    row.systemId = systemId

/-- The code was issued by the system, for this address or for any, and the
address is one of the system's. -/
structure Entitled (codeHash : String) (origin : Database)
    (systemId email : String) : Prop where
  issued : ∃ row ∈ origin.activationCodes, row.codeHash = codeHash ∧
    row.systemId = systemId ∧ boundTo email row = true
  tenant : Tenant origin systemId email

/-- At most one request succeeds and at most one key is new: an agent's, of the
system that issued the code, for an address of that system. -/
structure SingleUse (codeHash : String) (origin : Database)
    (current : Redemptions) : Prop where
  success : ∀ first second key other,
    current.requests first = .activated key →
      current.requests second = .activated other → first = second
  minted : ∀ id key, current.requests id = .activated key →
    key ∈ current.world.db.apiKeys ∧ key ∉ origin.apiKeys
  single : ∀ key ∈ current.world.db.apiKeys,
    ∀ other ∈ current.world.db.apiKeys,
      key ∉ origin.apiKeys → other ∉ origin.apiKeys → key = other
  rightful : ∀ key ∈ current.world.db.apiKeys, key ∉ origin.apiKeys →
    key.scopes = ["agent"] ∧
      Entitled codeHash origin key.systemId key.emailAddress

/-- The condition on the steps: the address has a domain, and the registration
that the handler finds for it is one of the system that issued the code. -/
def AnchorOwned (codeHash : String) (current : Redemptions) :
    RedemptionEvent → Prop
  | .arrived _ email => ∀ row ∈ current.world.db.activationCodes,
      row.codeHash = codeHash → domainOf email ≠ ""
  | .moved id => ∀ email systemId,
      current.requests id = .anchoring email systemId →
      ∀ anchor ∈ current.world.db.systemDomains,
        Anchors email systemId anchor →
        ∀ row ∈ current.world.db.activationCodes, row.codeHash = codeHash →
          Anchors email row.systemId anchor ∧ anchor.systemId = row.systemId

/-- Whether a request has claimed the code and not failed since. -/
def Redemption.holds : Redemption → Bool
  | .minting _ _ | .deleting _ | .activated _ => true
  | _ => false

/-- What is known of one request. -/
def Redemption.Sound (codeHash : String) (origin db : Database) :
    Redemption → Prop
  | .reading email => ∀ row ∈ db.activationCodes, row.codeHash = codeHash →
      Tenant origin row.systemId email
  | .claiming email systemId => Entitled codeHash origin systemId email
  | .minting email systemId =>
      Entitled codeHash origin systemId email ∧ Burned codeHash db ∧
        ∀ key ∈ db.apiKeys, key ∈ origin.apiKeys
  | .deleting key | .activated key =>
      Burned codeHash db ∧ key ∈ db.apiKeys ∧ key ∉ origin.apiKeys
  | _ => True

/-- What every reachable state keeps. -/
structure RedemptionInvariant (codeHash : String) (origin : Database)
    (current : Redemptions) : Prop where
  domains : current.world.db.systemDomains = origin.systemDomains
  kept : ∀ key ∈ origin.apiKeys, key ∈ current.world.db.apiKeys
  codes : ∀ row ∈ current.world.db.activationCodes, row.codeHash = codeHash →
    ∃ old ∈ origin.activationCodes, old.codeHash = codeHash ∧
      row.systemId = old.systemId ∧ row.emailAddress = old.emailAddress
  sound : ∀ id,
    (current.requests id).Sound codeHash origin current.world.db
  holder : ∀ first second, (current.requests first).holds = true →
    (current.requests second).holds = true → first = second
  spent : ∀ key ∈ current.world.db.apiKeys, key ∉ origin.apiKeys →
    Burned codeHash current.world.db
  single : ∀ key ∈ current.world.db.apiKeys,
    ∀ other ∈ current.world.db.apiKeys,
      key ∉ origin.apiKeys → other ∉ origin.apiKeys → key = other
  rightful : ∀ key ∈ current.world.db.apiKeys, key ∉ origin.apiKeys →
    key.scopes = ["agent"] ∧
      Entitled codeHash origin key.systemId key.emailAddress

section Runs

variable {codeHash : String} {origin : Database} {current : Redemptions}

theorem Redemption.holds_burned {request : Redemption} {db : Database}
    (sound : request.Sound codeHash origin db) (holds : request.holds = true) :
    Burned codeHash db := by
  cases request with
  | minting email systemId => exact sound.2.1
  | deleting key => exact sound.1
  | activated key => exact sound.1
  | _ => cases holds

theorem Redemption.Sound.settles {request : Redemption}
    {before after : Database} (sound : request.Sound codeHash origin before)
    (settles : Settles codeHash before after) :
    request.Sound codeHash origin after := by
  cases request with
  | reading email =>
      intro row member hash
      rcases settles.codes row member with ⟨old, there, same, system, _⟩
      rw [system]
      exact sound old there (same ▸ hash)
  | minting email systemId =>
      refine ⟨sound.1, settles.burned sound.2.1, ?_⟩
      rw [settles.keys]
      exact sound.2.2
  | deleting key | activated key =>
      refine ⟨settles.burned sound.1, ?_⟩
      rw [settles.keys]
      exact sound.2
  | _ => exact sound

theorem RedemptionInvariant.settle {id : Nat} {next : Redemption}
    {world : World} (invariant : RedemptionInvariant codeHash origin current)
    (settles : Settles codeHash current.world.db world.db)
    (sound : next.Sound codeHash origin world.db)
    (holder : next.holds = true → (current.requests id).holds = true ∨
      ¬Burned codeHash current.world.db) :
    RedemptionInvariant codeHash origin
      ⟨world, Function.update current.requests id next⟩ where
  domains := settles.domains.trans invariant.domains
  kept := by
    rw [settles.keys]
    exact invariant.kept
  codes := by
    intro row member hash
    rcases settles.codes row member with ⟨old, there, same, system, email⟩
    rcases invariant.codes old there (same ▸ hash) with
      ⟨first, begun, kept, equal, bound⟩
    exact ⟨first, begun, kept, system.trans equal, email.trans bound⟩
  sound := by
    intro other
    by_cases same : other = id
    · subst same
      simpa using sound
    · simpa [Function.update_of_ne same] using
        (invariant.sound other).settles settles
  holder := by
    have claims (other : Nat) (different : other ≠ id)
        (claimed : next.holds = true)
        (holds : (current.requests other).holds = true) : False := by
      rcases holder claimed with held | unclaimed
      · exact different (invariant.holder other id holds held)
      · exact unclaimed
          (Redemption.holds_burned (invariant.sound other) holds)
    intro first second firstHolds secondHolds
    by_cases one : first = id
    · by_cases two : second = id
      · exact one.trans two.symm
      · subst one
        simp only [Function.update_self] at firstHolds
        simp only [Function.update_of_ne two] at secondHolds
        exact (claims second two firstHolds secondHolds).elim
    · by_cases two : second = id
      · subst two
        simp only [Function.update_self] at secondHolds
        simp only [Function.update_of_ne one] at firstHolds
        exact (claims first one secondHolds firstHolds).elim
      · simp only [Function.update_of_ne one] at firstHolds
        simp only [Function.update_of_ne two] at secondHolds
        exact invariant.holder first second firstHolds secondHolds
  spent := by
    rw [settles.keys]
    intro key member new
    exact settles.burned (invariant.spent key member new)
  single := by
    rw [settles.keys]
    exact invariant.single
  rightful := by
    rw [settles.keys]
    exact invariant.rightful

theorem RedemptionInvariant.mint {id : Nat} {email systemId : String}
    {key : ApiKeyRecord} {world : World}
    (invariant : RedemptionInvariant codeHash origin current)
    (stage : current.requests id = .minting email systemId)
    (scopes : key.scopes = ["agent"]) (system : key.systemId = systemId)
    (address : key.emailAddress = email)
    (new : key ∉ current.world.db.apiKeys)
    (domains : world.db.systemDomains = current.world.db.systemDomains)
    (codes : world.db.activationCodes = current.world.db.activationCodes)
    (keys : ∀ row, row ∈ world.db.apiKeys ↔
      row ∈ current.world.db.apiKeys ∨ row = key) :
    RedemptionInvariant codeHash origin
      ⟨world, Function.update current.requests id (.deleting key)⟩ := by
  have sound := invariant.sound id
  rw [stage] at sound
  rcases sound with ⟨entitled, burned, none⟩
  have burned : Burned codeHash world.db := by
    unfold Burned
    rw [codes]
    exact burned
  have only : ∀ row ∈ world.db.apiKeys, row ∉ origin.apiKeys → row = key := by
    intro row member foreign
    rcases (keys row).mp member with before | same
    · exact absurd (none row before) foreign
    · exact same
  have foreign : key ∉ origin.apiKeys := fun there =>
    new (invariant.kept key there)
  exact {
    domains := domains.trans invariant.domains
    kept := fun row member => (keys row).mpr (.inl (invariant.kept row member))
    codes := by
      rw [codes]
      exact invariant.codes
    sound := by
      intro other
      by_cases same : other = id
      · subst same
        simpa [Redemption.Sound] using
          And.intro burned ⟨(keys key).mpr (.inr rfl), foreign⟩
      · simp only [Function.update_of_ne same]
        have kept := invariant.sound other
        have idle : (current.requests other).holds ≠ true := fun holds =>
          same (invariant.holder other id holds (by rw [stage]; rfl))
        cases request : current.requests other with
        | reading email =>
            rw [request] at kept
            simp only [Redemption.Sound, codes] at kept ⊢
            exact kept
        | claiming email systemId =>
            rw [request] at kept
            exact kept
        | minting email systemId => exact absurd (by rw [request]; rfl) idle
        | deleting key => exact absurd (by rw [request]; rfl) idle
        | activated key => exact absurd (by rw [request]; rfl) idle
        | _ => trivial
    holder := by
      have holding : (current.requests id).holds = true := by
        rw [stage]
        rfl
      have moved (other : Nat) (holds : (Function.update current.requests id
          (Redemption.deleting key) other).holds = true) : other = id := by
        by_contra different
        rw [Function.update_of_ne different] at holds
        exact different (invariant.holder other id holds holding)
      intro first second firstHolds secondHolds
      exact (moved first firstHolds).trans (moved second secondHolds).symm
    spent := fun _ _ _ => burned
    single := by
      intro row member other there foreign alien
      exact (only row member foreign).trans (only other there alien).symm
    rightful := by
      intro row member foreign
      rw [only row member foreign, system, address]
      exact ⟨scopes, entitled⟩ }

theorem RedemptionInvariant.step {state : HttpState} {code : String}
    {event : RedemptionEvent} {next : Redemptions}
    (invariant : RedemptionInvariant (state.sha256Hex code) origin current)
    (owned : AnchorOwned (state.sha256Hex code) current event)
    (step : RedemptionStep state code current event next) :
    RedemptionInvariant (state.sha256Hex code) origin next := by
  cases step with
  | arrived id email stage =>
      refine invariant.settle (.refl _ _) ?_ ?_
      · unfold startRedemption
        split
        · next bare =>
            intro row member hash
            exact absurd bare (owned row member hash)
        · trivial
      · intro holds
        unfold startRedemption at holds
        split at holds <;> cases holds
  | moved id statement request world stage ran =>
      have sound := invariant.sound id
      have effect := (statement_ends current.world stage).of_ok ran
      have domains := invariant.domains
      generalize now : current.requests id = before at stage sound effect
      cases effect with
      | refused _ error settles =>
          exact invariant.settle settles trivial fun holds => nomatch holds
      | resolved email systemId same =>
          exact invariant.settle (.of_same same) trivial
            fun holds => nomatch holds
      | anchored email systemId anchor member anchors same =>
          refine invariant.settle (.of_same same) ?_ fun holds => nomatch holds
          intro row there hash
          rw [same] at there
          rcases owned email systemId now anchor member anchors row there hash
            with ⟨own, system⟩
          rw [domains] at member
          exact ⟨anchor, member, own, system⟩
      | read email row member hash bound same =>
          refine invariant.settle (.of_same same) ?_ fun holds => nomatch holds
          rcases invariant.codes row member hash with
            ⟨old, begun, kept, system, address⟩
          refine ⟨⟨old, begun, kept, system.symm, ?_⟩, sound row member hash⟩
          unfold boundTo at bound ⊢
          rwa [address] at bound
      | claimed email systemId unclaimed settles burned =>
          refine invariant.settle settles ⟨sound, burned, ?_⟩
            fun _ => .inr unclaimed
          intro key member
          rw [settles.keys] at member
          by_contra new
          exact unclaimed (invariant.spent key member new)
      | minted email systemId key scopes system address new tables codes keys =>
          exact invariant.mint now scopes system address new tables codes keys
      | deleted key settles =>
          have deleting : (Redemption.deleting key).Sound
              (state.sha256Hex code) origin current.world.db := sound
          have kept : (Redemption.activated key).Sound (state.sha256Hex code)
              origin world.db := deleting.settles settles
          exact invariant.settle settles kept fun _ =>
            .inl (by rw [now]; rfl)

theorem RedemptionInvariant.start (codeHash : String) (db : Database) :
    RedemptionInvariant codeHash db (.start db) where
  domains := rfl
  kept := fun _ member => member
  codes := fun row member hash => ⟨row, member, hash, rfl, rfl⟩
  sound := fun _ => trivial
  holder := fun _ _ holds => nomatch holds
  spent := fun _ member new => absurd member new
  single := fun _ member _ _ new => absurd member new
  rightful := fun _ member new => absurd member new

theorem RedemptionInvariant.singleUse
    (invariant : RedemptionInvariant codeHash origin current) :
    SingleUse codeHash origin current where
  success := by
    intro first second key other one two
    exact invariant.holder first second (by rw [one]; rfl) (by rw [two]; rfl)
  minted := by
    intro id key activated
    have sound := invariant.sound id
    rw [activated] at sound
    exact sound.2
  single := invariant.single
  rightful := invariant.rightful

end Runs

/-- In every run whose lookups find registrations of the issuing system, a code
gives one key, to an address of that system. -/
theorem redemptions_singleUse (state : HttpState) (code : String)
    (db : Database) {events : List RedemptionEvent} {last : Redemptions}
    (run : Run (Guarded (AnchorOwned (state.sha256Hex code))
      (RedemptionStep state code)) (.start db) events last) :
    SingleUse (state.sha256Hex code) db last := by
  have preserved : ∀ current event next,
      RedemptionInvariant (state.sha256Hex code) db current →
      Guarded (AnchorOwned (state.sha256Hex code)) (RedemptionStep state code)
        current event next →
      RedemptionInvariant (state.sha256Hex code) db next :=
    fun _ _ _ invariant step => invariant.step step.1 step.2
  exact (run.invariant preserved (.start _ _)).singleUse

/-! ## Runs on samples -/

section Samples

variable (state : HttpState) (code : String)

/-- The state after the next statement of a request. -/
def Redemptions.advance (current : Redemptions) (id : Nat) : Redemptions :=
  match (current.requests id).statement state code with
  | none => current
  | some statement =>
      match statement.run current.world with
      | (.ok next, world) =>
          ⟨world, Function.update current.requests id next⟩
      | (.error _, _) => current

variable {state code}

theorem advance_step {current : Redemptions} {id : Nat}
    (more : ((current.requests id).statement state code).isSome = true) :
    RedemptionStep state code current (.moved id)
      (current.advance state code id) := by
  rcases Option.isSome_iff_exists.mp more with ⟨statement, stage⟩
  have ends := ends_iff_run.mp (statement_ends current.world stage)
  unfold Redemptions.advance
  rw [stage]
  rcases ran : statement.run current.world with ⟨error | next, world⟩
  · exact (ends.2 error world ran).elim
  · simp only [ran]
    exact .moved current id statement next world stage ran

end Samples

/-- A code that system `a` issued for any address, and a domain of `owner`. -/
def openCode (owner : String) : Database :=
  { Database.empty with
    activationCodes := ⟨[Storage.newActivationCode "addr-1" "addr-1" "address"
      "a" "" "" none 0], List.pairwise_singleton _ _⟩
    systemDomains := ⟨[⟨"1", owner, "x.org", none, none, true, 0, 0⟩],
      List.pairwise_singleton _ _⟩ }

/-- One request for an address of the domain, after a number of statements. -/
def soleRequest (owner : String) : Nat → Redemptions
  | 0 => { Redemptions.start (openCode owner) with
      requests := Function.update (fun _ => .fresh) 0
        (startRedemption "bob@x.org") }
  | count + 1 => (soleRequest owner count).advance sampleState "addr-1" 0

theorem advanced_run {taken : Nat → Redemptions} {turn : Nat → Nat}
    {condition : Redemptions → RedemptionEvent → Prop} {length : Nat}
    (moves : ∀ count, taken (count + 1) =
      (taken count).advance sampleState "addr-1" (turn count))
    (more : ∀ count < length, (((taken count).requests (turn count)).statement
      sampleState "addr-1").isSome = true)
    (met : ∀ count < length, condition (taken count) (.moved (turn count))) :
    ∀ count ≤ length, Run (Guarded condition
      (RedemptionStep sampleState "addr-1")) (taken 0)
        ((List.range count).map fun count => .moved (turn count))
        (taken count) := by
  intro count
  induction count with
  | zero => exact fun _ => .nil _
  | succ count induction =>
      intro fits
      rw [List.range_succ, List.map_append, moves]
      refine (induction (by omega)).append (.cons ⟨met count fits, ?_⟩ (.nil _))
      exact advance_step (more count fits)

def Redemptions.newKeys (current : Redemptions) : List (String × String) :=
  current.world.db.apiKeys.rows.map fun key => (key.systemId, key.emailAddress)

/-- A code of one system gives a key for an address of another one's domain. -/
theorem openCode_foreign :
    ¬∀ state code db events last,
      Run (RedemptionStep state code) (.start db) events last →
        SingleUse (state.sha256Hex code) db last := by
  intro all
  have more : ∀ count < 6, (((soleRequest "b" count).requests 0).statement
      sampleState "addr-1").isSome = true := by
    decide +kernel
  let free (_ : Redemptions) (_ : RedemptionEvent) : Prop := True
  have moves : Run (Guarded free _) _ _ _ :=
    advanced_run (fun _ => rfl) more (fun _ _ => True.intro) 6 (by omega)
  have use := all _ _ _ _ _
    (.cons (.arrived (.start (openCode "b")) 0 "bob@x.org" rfl)
      moves.of_guarded)
  have key : ("a", "bob@x.org") ∈ (soleRequest "b" 6).newKeys := by
    decide +kernel
  rcases List.mem_map.mp key with ⟨row, member, same⟩
  rcases (use.rightful row member List.not_mem_nil).2.tenant with
    ⟨anchor, there, _, system⟩
  rcases List.mem_singleton.mp there with rfl
  have other : row.systemId = "a" := congrArg Prod.fst same
  rw [other] at system
  exact absurd system (by decide)

/-- The domain the request looks up next, if it does. -/
def Redemption.lookup : Redemption → Option (String × String)
  | .anchoring email systemId => some (email, systemId)
  | _ => none

/-- Two requests take turns until the second is refused. -/
def contender (count : Nat) : Nat := if count < 8 then count % 2 else 0

/-- Requests for two addresses of the domain, after a number of statements. -/
def contended : Nat → Redemptions
  | 0 => { Redemptions.start (openCode "a") with
      requests := Function.update (Function.update (fun _ => .fresh) 0
        (startRedemption "bob@x.org")) 1 (startRedemption "ann@x.org") }
  | count + 1 =>
      (contended count).advance sampleState "addr-1" (contender count)

/-- The code gives one key, to the request that claims it first, for an address
of the system that issued it. -/
theorem openCode_own :
    SingleUse "addr-1" (openCode "a") (contended 10) ∧
      (contended 10).newKeys = [("a", "bob@x.org")] := by
  have more : ∀ count < 10,
      (((contended count).requests (contender count)).statement sampleState
        "addr-1").isSome = true := by
    decide +kernel
  have lookups : ∀ count < 10,
      ∀ asked ∈ ((contended count).requests (contender count)).lookup,
        asked.2 = "a" := by
    decide +kernel
  have tables : ∀ count < 10,
      (contended count).world.db.systemDomains.rows =
        (openCode "a").systemDomains.rows ∧
      ∀ row ∈ (contended count).world.db.activationCodes.rows,
        row.systemId = "a" := by
    decide +kernel
  have owned : ∀ count < 10, AnchorOwned "addr-1" (contended count)
      (.moved (contender count)) := by
    intro count below email systemId stage anchor member anchors row there _
    have asked : systemId = "a" :=
      lookups count below (email, systemId) (by rw [stage]; rfl)
    subst asked
    rw [← Table.mem_rows, (tables count below).1] at member
    rcases List.mem_singleton.mp member with rfl
    rw [(tables count below).2 row there]
    exact ⟨anchors, rfl⟩
  have bob : AnchorOwned "addr-1" (.start (openCode "a"))
      (.arrived 0 "bob@x.org") := by
    intro _ _ _
    decide
  have ann : ∀ current, AnchorOwned "addr-1" current (.arrived 1 "ann@x.org") := by
    intro _ _ _ _
    decide
  exact ⟨redemptions_singleUse sampleState "addr-1" (openCode "a")
    (.cons ⟨bob, .arrived _ 0 "bob@x.org" rfl⟩
      (.cons ⟨ann _, .arrived _ 1 "ann@x.org" rfl⟩
        (advanced_run (fun _ => rfl) more owned 10 (by omega)))),
    by decide +kernel⟩

end AimailGateway.Api
