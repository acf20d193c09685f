import AimailGateway.Api.KeyIsolation
import AimailGateway.Library.Execution

/-! # The privilege of created keys

What creating a key may hand out, the exact condition under which it does, and
what follows for a principal who keeps creating keys with the keys it holds.
-/

namespace AimailGateway.Api

open Library Action

/-- The key handed out is below its creator, or narrows it to one domain; an
address gets none above agent_admin, a domain-level caller not the system's. -/
structure NoEscalation (caller : ApiKeyRecord) (req : CreateApiKeyRequest)
    (response : ApiKeyResponse) : Prop where
  below : Scope.highest response.scopes < Scope.highest caller.scopes ∨
    (caller.systemLevel ∧ req.category = "domain" ∧
      Scope.highest response.scopes = Scope.systemAdmin.rank ∧
      Scope.highest caller.scopes = Scope.systemAdmin.rank)
  platform : Scope.platformAdmin.granted response.scopes = true →
    isPlatformAdminScope caller = true
  addressLevel : Text.containsChar '@' response.emailAddress = true →
    Scope.platformAdmin.granted response.scopes = false ∧
      Scope.systemAdmin.granted response.scopes = false
  domainLevel : caller.domainLevel → response.emailAddress ≠ ""

/-- Whatever key a creation request hands out, it does not raise privilege. -/
def CreationSafe (state : HttpState) (caller : ApiKeyRecord) (db : Database)
    (req : CreateApiKeyRequest) : Prop :=
  (createApiKey state caller req).Ends
    (fun response _ => NoEscalation caller req response)
    (fun _ _ => True) (World.start db)

/-- No system key at or above the caller waits to be rotated, a domain-level
caller names an address, a narrowing asks for no more, and no address gets the
alias the literal guard misses. -/
def LowersPrivilege (caller : ApiKeyRecord) (db : Database)
    (req : CreateApiKeyRequest) : Prop :=
  CreationAdmitted caller req →
    (req.category = "system" → ∀ row ∈ db.apiKeys,
      row.systemId = req.systemId → row.category = "system" →
      row.emailAddress = "" →
        ¬caller.domainLevel ∧
          Scope.highest row.scopes < Scope.highest caller.scopes) ∧
    ((∀ row ∈ db.apiKeys, row.slot ≠ (req.systemId, req.emailAddress)) →
      (caller.domainLevel → req.emailAddress ≠ "") ∧
      (isSystemToDomain caller req = true →
        Scope.highest (requestedScopes req) < Scope.highest caller.scopes ∨
          (Scope.highest (requestedScopes req) = Scope.systemAdmin.rank ∧
            Scope.highest caller.scopes = Scope.systemAdmin.rank)) ∧
      (Text.containsChar '@' req.emailAddress = true →
        "tenant_admin" ∉ requestedScopes req))

/-! ## Tiers and ranks -/

section Tiers

variable {caller : ApiKeyRecord} {req : CreateApiKeyRequest}
  {scopes : List String}

theorem trim_of_parseDb {text : String} {scope : Scope}
    (resolves : Scope.parseDb text = some scope) : Text.trim text = text := by
  unfold Scope.parseDb at resolves
  split at resolves
  case h_10 => cases resolves
  all_goals decide

theorem highest_le_of_not_platform
    (absent : Scope.platformAdmin.granted scopes = false) :
    Scope.highest scopes ≤ Scope.systemAdmin.rank := by
  by_cases positive : 0 < Scope.highest scopes
  · rcases Scope.exists_granted_of_highest positive with ⟨scope, grant, equal⟩
    rw [equal]
    cases scope with
    | platformAdmin => rw [absent] at grant; cases grant
    | systemAdmin => decide
    | agentAdmin => decide
    | agent => decide
    | bridge => decide
  · omega

theorem highest_le_of_not_admin
    (notPlatform : Scope.platformAdmin.granted scopes = false)
    (notSystem : Scope.systemAdmin.granted scopes = false) :
    Scope.highest scopes ≤ Scope.agentAdmin.rank := by
  by_cases positive : 0 < Scope.highest scopes
  · rcases Scope.exists_granted_of_highest positive with ⟨scope, grant, equal⟩
    rw [equal]
    cases scope with
    | platformAdmin => rw [notPlatform] at grant; cases grant
    | systemAdmin => rw [notSystem] at grant; cases grant
    | agentAdmin => decide
    | agent => decide
    | bridge => decide
  · omega

theorem granted_trimmed {scope : Scope} (grant : scope.granted scopes = true) :
    (scopes.filterMap fun text => Scope.parseDb (Text.trim text)).any
      (· == scope) = true := by
  rcases Scope.granted_iff.mp grant with ⟨text, member, resolves⟩
  rw [List.any_eq_true]
  refine ⟨scope, ?_, by simp⟩
  rw [List.mem_filterMap]
  exact ⟨text, member, by rw [trim_of_parseDb resolves, resolves]⟩

theorem one_le_targetLevel (scopes : List String) : 1 ≤ targetLevel scopes := by
  unfold targetLevel
  simp only
  split
  · omega
  · split <;> omega

theorem not_platform_of_targetLevel (lower : targetLevel scopes < 3) :
    Scope.platformAdmin.granted scopes = false := by
  rw [Bool.eq_false_iff]
  intro grant
  unfold targetLevel at lower
  rw [if_pos (granted_trimmed grant)] at lower
  omega

theorem not_system_of_targetLevel (lower : targetLevel scopes < 2) :
    Scope.systemAdmin.granted scopes = false := by
  rw [Bool.eq_false_iff]
  intro grant
  unfold targetLevel at lower
  simp only [granted_trimmed grant, if_true] at lower
  split at lower <;> omega

theorem highest_lt_of_tier (tier : targetLevel scopes < creatorLevel caller) :
    Scope.highest scopes < Scope.highest caller.scopes := by
  have least := one_le_targetLevel scopes
  unfold creatorLevel at tier
  split at tier
  · next platform =>
      have rank := Scope.rank_le_highest platform
      have bound := highest_le_of_not_platform (not_platform_of_targetLevel tier)
      simp only [Scope.rank] at rank bound
      omega
  · split at tier
    · next system =>
        have rank := Scope.rank_le_highest system
        have bound := highest_le_of_not_admin
          (not_platform_of_targetLevel (by omega)) (not_system_of_targetLevel tier)
        simp only [Scope.rank] at rank bound
        omega
    · omega

theorem creatorLevel_le (caller : ApiKeyRecord) : creatorLevel caller ≤ 3 := by
  unfold creatorLevel
  split
  · omega
  · split <;> omega

/-- A category that admits an address with an `@` is not `domain`. -/
theorem category_of_address (fits : validateCategory req = .ok ())
    (address : Text.containsChar '@' req.emailAddress = true) :
    req.category ≠ "domain" := by
  intro isDomain
  unfold validateCategory at fits
  rw [isDomain] at fits
  simp [address] at fits

theorem ne_empty_of_address
    (address : Text.containsChar '@' req.emailAddress = true) :
    req.emailAddress ≠ "" := by
  intro empty
  rw [empty] at address
  exact absurd address (by decide)

theorem not_systemAdmin_of_address (admitted : CreationAdmitted caller req)
    (address : Text.containsChar '@' req.emailAddress = true)
    (noAlias : "tenant_admin" ∉ requestedScopes req) :
    Scope.systemAdmin.granted (requestedScopes req) = false := by
  rw [Bool.eq_false_iff]
  intro grant
  rcases Scope.granted_iff.mp grant with ⟨text, member, resolves⟩
  have literal := (admitted.addressLevel.resolve_left
    (ne_empty_of_address address)).resolve_left
      (category_of_address admitted.category address) text member
  unfold Scope.parseDb at resolves
  split at resolves
  case h_4 => exact literal (by decide)
  case h_5 => exact noAlias member
  all_goals cases resolves

theorem not_platformAdmin_of_address (admitted : CreationAdmitted caller req)
    (address : Text.containsChar '@' req.emailAddress = true) :
    Scope.platformAdmin.granted (requestedScopes req) = false := by
  apply not_platform_of_targetLevel
  have notNarrowing : isSystemToDomain caller req ≠ true := by
    simp [isSystemToDomain, address]
  have tier := admitted.tier.resolve_right notNarrowing
  have highest := creatorLevel_le caller
  omega

end Tiers

/-! ## One request -/

section Request

variable {state : HttpState} {caller : ApiKeyRecord} {db : Database}
  {req : CreateApiKeyRequest}

theorem highest_le_platform (scopes : List String) :
    Scope.highest scopes ≤ Scope.platformAdmin.rank := by
  by_cases positive : 0 < Scope.highest scopes
  · rcases Scope.exists_granted_of_highest positive with ⟨scope, _, equal⟩
    rw [equal]
    cases scope <;> decide
  · omega

theorem not_platform_of_below {scopes : List String}
    (below : Scope.highest scopes < Scope.highest caller.scopes ∨
      Scope.highest scopes = Scope.systemAdmin.rank) :
    Scope.platformAdmin.granted scopes = false := by
  rw [Bool.eq_false_iff]
  intro grant
  have rank := Scope.rank_le_highest grant
  have bound := highest_le_platform caller.scopes
  simp only [Scope.rank] at rank bound below
  omega

theorem noEscalation_rotated {row : ApiKeyRecord} {rawKey : String}
    (empty : row.emailAddress = "") (notDomainLevel : ¬caller.domainLevel)
    (below : Scope.highest row.scopes < Scope.highest caller.scopes) :
    NoEscalation caller req (.withRawKey rawKey row) where
  below := Or.inl below
  platform grant := by
    have absent := not_platform_of_below (Or.inl below)
    exact absurd (absent.symm.trans grant) Bool.false_ne_true
  addressLevel address := by
    have same : (ApiKeyResponse.withRawKey rawKey row).emailAddress = "" := empty
    rw [same] at address
    exact absurd address (by decide)
  domainLevel domainLevel := absurd domainLevel notDomainLevel

theorem noEscalation_created (rawKey : String) (record : ApiKeyRecord)
    (admitted : CreationAdmitted caller req)
    (scopes : record.scopes = requestedScopes req)
    (email : record.emailAddress = req.emailAddress)
    (named : caller.domainLevel → req.emailAddress ≠ "")
    (narrows : isSystemToDomain caller req = true →
      Scope.highest (requestedScopes req) < Scope.highest caller.scopes ∨
        (Scope.highest (requestedScopes req) = Scope.systemAdmin.rank ∧
          Scope.highest caller.scopes = Scope.systemAdmin.rank))
    (noAlias : Text.containsChar '@' req.emailAddress = true →
      "tenant_admin" ∉ requestedScopes req) :
    NoEscalation caller req (.withRawKey rawKey record) := by
  have below : Scope.highest (requestedScopes req) < Scope.highest caller.scopes ∨
      (caller.systemLevel ∧ req.category = "domain" ∧
        Scope.highest (requestedScopes req) = Scope.systemAdmin.rank ∧
        Scope.highest caller.scopes = Scope.systemAdmin.rank) := by
    rcases admitted.tier with tier | narrowing
    · exact Or.inl (highest_lt_of_tier tier)
    · have systemLevel : caller.systemLevel ∧ req.category = "domain" := by
        simp only [isSystemToDomain, Bool.and_eq_true, beq_iff_eq] at narrowing
        exact ⟨narrowing.1.1.1, narrowing.1.1.2⟩
      exact (narrows narrowing).imp_right fun same =>
        ⟨systemLevel.1, systemLevel.2, same⟩
  exact
    { below := by
        simpa only [ApiKeyResponse.withRawKey, ApiKeyResponse.ofRecord, scopes]
          using below
      platform := fun grant => by
        have absent := not_platform_of_below
          (below.imp_right fun same => same.2.2.1)
        simp only [ApiKeyResponse.withRawKey, ApiKeyResponse.ofRecord, scopes,
          absent] at grant
        cases grant
      addressLevel := fun address => by
        simp only [ApiKeyResponse.withRawKey, ApiKeyResponse.ofRecord, scopes,
          email] at address ⊢
        exact ⟨not_platformAdmin_of_address admitted address,
          not_systemAdmin_of_address admitted address (noAlias address)⟩
      domainLevel := fun domainLevel => by
        simp only [ApiKeyResponse.withRawKey, ApiKeyResponse.ofRecord, email]
        exact named domainLevel }

theorem creationSafe_iff :
    (∀ state, CreationSafe state caller db req) ↔
      LowersPrivilege caller db req := by
  constructor
  · intro safe admitted
    rcases exists_freshState db.apiKeys with ⟨state, calm, admission, fresh⟩
    rcases createApiKey_calm calm (admission req.systemId)
        fresh admitted (safe state) with
      ⟨rotates, creates⟩
    constructor
    · intro isSystem row member system category empty
      rcases rotates row member isSystem system category empty with
        ⟨rawKey, keyHash, keyPrefix, _, noEscalation⟩
      constructor
      · exact fun domainLevel => noEscalation.domainLevel domainLevel empty
      · refine noEscalation.below.resolve_right fun narrowing => ?_
        rw [isSystem] at narrowing
        exact absurd narrowing.2.1 (by decide)
    · intro free
      rcases creates free with
        ⟨rawKey, keyHash, keyPrefix, createdAt, _, noEscalation⟩
      refine ⟨noEscalation.domainLevel, fun _ => ?_, fun address aliased => ?_⟩
      · exact noEscalation.below.imp_right fun same => same.2.2
      · have absent := (noEscalation.addressLevel address).2
        have grant : Scope.systemAdmin.granted (requestedScopes req) = true :=
          Scope.granted_iff.mpr ⟨"tenant_admin", aliased, rfl⟩
        exact absurd (absent.symm.trans grant) Bool.false_ne_true
  · intro lowers state
    apply createApiKey_ends
    · exact fun _ _ _ => trivial
    · intro admitted isSystem row member system category empty
        rawKey keyHash keyPrefix apiKeys later _ _
      rcases (lowers admitted).1 isSystem row member system category empty with
        ⟨notDomainLevel, below⟩
      exact noEscalation_rotated empty notDomainLevel below
    · intro admitted rawKey keyHash keyPrefix createdAt apiKeys later record
        insertion _
      rcases (lowers admitted).2 (Storage.slot_free_of_insert? insertion) with
        ⟨named, narrows, noAlias⟩
      exact noEscalation_created rawKey record admitted rfl rfl named narrows
        noAlias

end Request

/-! ## A principal that keeps creating keys -/

/-- The key table and the ids of the keys whose secrets a principal holds. -/
structure Keyring where
  db : Database
  held : List Int

/-- A creation request made in a state by the holder of some key. -/
structure Minting where
  state : HttpState
  caller : ApiKeyRecord
  req : CreateApiKeyRequest

/-- The principal learns the key a request returns when it made the request
with a key it holds; requests of others change the table only. -/
def Keyring.learns (ring : Keyring) (minting : Minting) (db : Database)
    (id : Int) : Keyring where
  db := db
  held := if minting.caller.id ∈ ring.held then id :: ring.held else ring.held

inductive Mints (ring : Keyring) (minting : Minting) : Keyring → Prop where
  | created (member : minting.caller ∈ ring.db.apiKeys)
      (response : ApiKeyResponse) (world : World)
      (result : (createApiKey minting.state minting.caller minting.req).run
        (World.start ring.db) = (.ok response, world)) :
      Mints ring minting (ring.learns minting world.db response.id)
  | refused (error : HttpError) (world : World)
      (result : (createApiKey minting.state minting.caller minting.req).run
        (World.start ring.db) = (.error error, world)) :
      Mints ring minting { ring with db := world.db }

/-- The principal's own requests meet the condition. -/
def MintsLower (ring : Keyring) (minting : Minting) : Prop :=
  minting.caller.id ∈ ring.held →
    LowersPrivilege minting.caller ring.db minting.req

/-- No held key ranks above `bound`, and held ids are never assigned again. -/
structure Keyring.Bounded (bound : Nat) (ring : Keyring) : Prop where
  below : ∀ row ∈ ring.db.apiKeys, row.id ∈ ring.held →
    Scope.highest row.scopes ≤ bound
  assigned : ∀ id ∈ ring.held, id < Storage.nextApiKeyId ring.db

section Minting

variable {bound : Nat} {ring : Keyring} {minting : Minting}

theorem Keyring.Bounded.congr {db : Database} (bounded : ring.Bounded bound)
    (same : db = ring.db) : Keyring.Bounded bound { ring with db := db } := by
  subst same
  exact bounded

theorem Keyring.mem_learned {db : Database} {id other : Int}
    (held : other ∈ (ring.learns minting db id).held) :
    other ∈ ring.held ∨ (minting.caller.id ∈ ring.held ∧ other = id) := by
  unfold Keyring.learns at held
  simp only at held
  split at held
  · next own =>
      rcases List.mem_cons.mp held with same | earlier
      · exact Or.inr ⟨own, same⟩
      · exact Or.inl earlier
  · exact Or.inl held

theorem bounded_of_rotated {row : ApiKeyRecord} {apiKeys : ApiKeys}
    {keyHash keyPrefix : String} (bounded : ring.Bounded bound)
    (member : row ∈ ring.db.apiKeys)
    (below : minting.caller.id ∈ ring.held → Scope.highest row.scopes ≤ bound)
    (updated : ring.db.apiKeys.update? (·.id == row.id)
      (fun row => { row with keyHash := keyHash, keyPrefix := keyPrefix }) =
        some apiKeys) :
    (ring.learns minting { ring.db with apiKeys } row.id).Bounded bound := by
  have ids : apiKeys.rows.map (·.id) = ring.db.apiKeys.rows.map (·.id) := by
    rw [Table.ofRows?_eq_some updated, List.map_map]
    apply List.map_congr_left
    intro other _
    simp only [Function.comp_apply]
    split <;> rfl
  have sameNext : Storage.nextApiKeyId { ring.db with apiKeys } =
      Storage.nextApiKeyId ring.db := by
    simp only [Storage.nextApiKeyId, ids]
  constructor
  · intro after afterMember held
    rcases (Table.mem_of_update? updated).mp afterMember with
      ⟨before, beforeMember, changed⟩
    have same : after.id = before.id ∧ after.scopes = before.scopes := by
      rw [← changed]
      split <;> exact ⟨rfl, rfl⟩
    rw [same.2]
    rcases Keyring.mem_learned held with earlier | ⟨own, learned⟩
    · exact bounded.below before beforeMember (same.1 ▸ earlier)
    · have sameRow : before = row :=
        ApiKeys.eq_of_id beforeMember member (same.1.symm.trans learned)
      rw [sameRow]
      exact below own
  · intro id held
    simp only [Keyring.learns, sameNext]
    rcases Keyring.mem_learned held with earlier | ⟨_, learned⟩
    · exact bounded.assigned id earlier
    · rw [learned]
      exact Storage.lt_nextApiKeyId member

theorem bounded_of_created {record : ApiKeyRecord} {apiKeys : ApiKeys}
    (bounded : ring.Bounded bound)
    (id : record.id = Storage.nextApiKeyId ring.db)
    (below : minting.caller.id ∈ ring.held →
      Scope.highest record.scopes ≤ bound)
    (insertion : ring.db.apiKeys.insert? record = some apiKeys) :
    (ring.learns minting
      { ring.db with apiKeys, apiKeySequence := record.id }
      record.id).Bounded bound := by
  have larger := Storage.sequence_lt_nextApiKeyId
    { ring.db with apiKeys, apiKeySequence := record.id }
  constructor
  · intro row member held
    rcases (Table.mem_of_insert? insertion).mp member with earlier | same
    · have smaller := Storage.lt_nextApiKeyId earlier
      rcases Keyring.mem_learned held with heldBefore | ⟨_, learned⟩
      · exact bounded.below row earlier heldBefore
      · omega
    · subst same
      rcases Keyring.mem_learned held with heldBefore | ⟨own, _⟩
      · have smaller := bounded.assigned row.id heldBefore
        omega
      · exact below own
  · intro other held
    rcases Keyring.mem_learned held with heldBefore | ⟨_, learned⟩
    · have smaller := bounded.assigned other heldBefore
      exact (smaller.trans_eq id.symm).trans larger
    · rw [learned]
      exact larger

theorem bounded_step {next : Keyring} (bounded : ring.Bounded bound)
    (lowers : MintsLower ring minting) (mints : Mints ring minting next) :
    next.Bounded bound := by
  cases mints with
  | refused error world result =>
      have unchanged : world.db = ring.db := by
        have ends : (createApiKey minting.state minting.caller minting.req).Ends
            (fun _ _ => True) (fun _ later => later.db = ring.db)
            (World.start ring.db) := by
          apply createApiKey_ends
          · exact fun _ _ same => same
          · exact fun _ _ _ _ _ _ _ _ _ _ _ _ _ _ => trivial
          · intros
            trivial
        exact (ends_iff_run.mp ends).2 error world result
      exact bounded.congr unchanged
  | created member response world result =>
      have callerBound (own : minting.caller.id ∈ ring.held) :=
        bounded.below minting.caller member own
      have ends : (createApiKey minting.state minting.caller minting.req).Ends
          (fun response later =>
            (ring.learns minting later.db response.id).Bounded bound)
          (fun _ _ => True) (World.start ring.db) := by
        apply createApiKey_ends
        · exact fun _ _ _ => trivial
        · intro admitted isSystem row rowMember system category empty
            rawKey keyHash keyPrefix apiKeys later updated changed
          rw [changed]
          refine bounded_of_rotated bounded rowMember (fun own => ?_) updated
          have below := ((lowers own admitted).1 isSystem row rowMember system
            category empty).2
          have bounds := callerBound own
          omega
        · intro admitted rawKey keyHash keyPrefix createdAt apiKeys later record
            insertion changed
          rw [changed]
          refine bounded_of_created bounded rfl (fun own => ?_) insertion
          rcases (lowers own admitted).2
              (Storage.slot_free_of_insert? insertion) with
            ⟨named, narrows, noAlias⟩
          have noEscalation := noEscalation_created rawKey record admitted rfl
            rfl named narrows noAlias
          have bounds := callerBound own
          rcases noEscalation.below with below | ⟨_, _, equal, callerEqual⟩
          · exact (le_of_lt below).trans bounds
          · exact (equal.trans callerEqual.symm).le.trans bounds
      exact ends.of_ok result

end Minting

/-- Creation does not raise privilege: one request exactly under the condition,
and any sequence whose own requests meet it. -/
theorem creation_lowers_privilege (caller : ApiKeyRecord) (db : Database)
    (req : CreateApiKeyRequest) (bound : Nat) :
    ((∀ state, CreationSafe state caller db req) ↔
      LowersPrivilege caller db req) ∧
    ∀ (first last : Keyring) (mintings : List Minting),
      Run (Guarded MintsLower Mints) first mintings last →
        first.Bounded bound → last.Bounded bound := by
  constructor
  · exact creationSafe_iff
  · intro first last mintings run bounded
    have preserved (ring : Keyring) (minting : Minting) (next : Keyring)
        (holds : ring.Bounded bound)
        (step : Guarded MintsLower Mints ring minting next) :
        next.Bounded bound :=
      bounded_step holds step.1 step.2
    exact run.invariant preserved bounded

/-! ## Escalation through the narrowing exemption -/

/-- A system-level agent administrator. -/
def agentAdminOfA : ApiKeyRecord :=
  sampleKey 1 "sys-a" "" "hash-a" ["agent_admin"] "agent_admin"

def oneAgentAdmin : Database :=
  { Database.empty with
    apiKeys := ⟨[agentAdminOfA], by decide⟩
    apiKeySequence := 1 }

def platformForDomain : CreateApiKeyRequest where
  systemId := "sys-a"
  emailAddress := "a.test"
  scopes := ["platform"]
  expiresAt := none
  category := "domain"

/-- The exemption meant for narrowing lets an agent administrator create a
PlatformAdmin key. -/
theorem creation_escalates :
    ¬CreationSafe sampleState agentAdminOfA oneAgentAdmin platformForDomain := by
  intro safe
  have calm : sampleState.env.Calm := Surroundings.steady_calm _ _
  have admitted : CreationAdmitted agentAdminOfA platformForDomain :=
    { admin := by decide
      category := by decide
      access := Or.inr (Or.inr (Or.inl rfl))
      tier := Or.inr (by decide)
      addressLevel := Or.inr (Or.inl rfl)
      system := Or.inr rfl }
  have fresh : ∀ tick : Nat, ∀ other ∈ (World.start oneAgentAdmin).db.apiKeys,
      other.keyHash ≠ sampleState.storeHash
        (sampleState.sha256Hex (sampleState.env.uuid tick)) := by
    intro tick other member
    rw [List.mem_singleton.mp member]
    show "hash-a" ≠ "0123456789abcdef"
    decide
  have creates := (createApiKey_calm calm rfl fresh admitted safe).2
  have free : ∀ row ∈ (World.start oneAgentAdmin).db.apiKeys,
      row.slot ≠ (platformForDomain.systemId, platformForDomain.emailAddress) := by
    intro row member
    rw [List.mem_singleton.mp member]
    decide
  rcases creates free with ⟨_, _, _, _, _, noEscalation⟩
  exact absurd (noEscalation.platform rfl) (by decide)

def agentForAddress : CreateApiKeyRequest where
  systemId := "sys-a"
  emailAddress := "ann@a.test"
  scopes := []
  expiresAt := none
  category := "agent"

def adminRing : Keyring := ⟨{ Database.empty with
    apiKeys := ⟨[adminOfA], by decide⟩
    apiKeySequence := 1 }, [1]⟩

/-- A system administrator who creates a key for an address holds nothing above
SystemAdmin afterwards. -/
theorem creation_lowers_privilege_sample :
    ∃ last minting, Run (Guarded MintsLower Mints) adminRing [minting] last ∧
      last.held = [2, 1] ∧ last.Bounded Scope.systemAdmin.rank := by
  have start : adminRing.Bounded Scope.systemAdmin.rank := by
    constructor
    · intro row member _
      rw [List.mem_singleton.mp member]
      decide
    · intro id held
      rw [List.mem_singleton.mp held]
      decide
  have meets : MintsLower adminRing ⟨sampleState, adminOfA, agentForAddress⟩ := by
    intro _ _
    constructor
    · exact fun isSystem => absurd isSystem (by decide)
    · intro _
      exact ⟨fun domainLevel => absurd rfl domainLevel.1,
        fun narrowing => absurd narrowing (by decide), fun _ => by decide⟩
  have mints : Mints adminRing ⟨sampleState, adminOfA, agentForAddress⟩ _ :=
    Mints.created List.mem_cons_self _ _ rfl
  have step : Guarded MintsLower Mints adminRing _ _ := ⟨meets, mints⟩
  have run := Run.cons step (Run.nil _)
  have lowers := (creation_lowers_privilege adminOfA adminRing.db agentForAddress
    Scope.systemAdmin.rank).2
  exact ⟨_, _, run, rfl, lowers _ _ _ run start⟩

end AimailGateway.Api
