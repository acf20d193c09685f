import AimailGateway.Api.Keys
import Mathlib.Data.Fintype.EquivFin

/-! # How the API key handlers end

One lemma for each handler states every way it can end; the `calm` lemmas
state that, when no storage call fails, it ends in the way its guards decide.
-/

namespace AimailGateway.Api

open Library Action

variable {state : HttpState} {caller : ApiKeyRecord} {world : World}
  {failed : HttpError → World → Prop} {ok : ApiKeyResponse → World → Prop}
  {req : CreateApiKeyRequest}

/-! ## The guards of creation -/

/-- A creation request passes every check made before the first statement on
`api_keys`. -/
structure CreationAdmitted (caller : ApiKeyRecord) (req : CreateApiKeyRequest) :
    Prop where
  admin : isAdminScope caller = true
  category : validateCategory req = .ok ()
  access : mayAccess caller req.emailAddress
  tier : targetLevel (requestedScopes req) < creatorLevel caller ∨
    isSystemToDomain caller req = true
  addressLevel : req.emailAddress = "" ∨ req.category = "domain" ∨
    ∀ scope ∈ requestedScopes req, scope ∉ systemScopes
  system : isPlatformAdminScope caller = true ∨ caller.systemId = req.systemId

theorem checkTier_ok :
    checkTier caller req = .ok () ↔
      targetLevel (requestedScopes req) < creatorLevel caller ∨
        isSystemToDomain caller req = true := by
  unfold checkTier
  split
  · next refused =>
      simp only [Bool.and_eq_true, decide_eq_true_eq, Bool.not_eq_true'] at refused
      simp only [reduceCtorEq, false_iff, not_or, Bool.not_eq_true]
      exact ⟨by omega, refused.2⟩
  · next passes =>
      simp only [Bool.and_eq_true, decide_eq_true_eq, Bool.not_eq_true',
        not_and, Bool.not_eq_false] at passes
      simp only [true_iff]
      by_cases lower : targetLevel (requestedScopes req) < creatorLevel caller
      · exact Or.inl lower
      · exact Or.inr (passes (by omega))

theorem checkAddressLevelScopes_ok :
    checkAddressLevelScopes req = .ok () ↔
      req.emailAddress = "" ∨ req.category = "domain" ∨
        ∀ scope ∈ requestedScopes req, scope ∉ systemScopes := by
  unfold checkAddressLevelScopes
  split
  · next addressLevel =>
      rw [or_iff_right addressLevel.1, or_iff_right addressLevel.2]
      cases reserved : (requestedScopes req).find? systemScopes.contains with
      | some scope =>
          have chosen := List.find?_some reserved
          have member := List.mem_of_find?_eq_some reserved
          refine iff_of_false Except.error_ne_ok fun free => free scope member ?_
          simpa using chosen
      | none =>
          refine iff_of_true rfl fun scope member => ?_
          simpa using List.find?_eq_none.mp reserved scope member
  · next exempt =>
      rw [not_and_or, not_not, not_not] at exempt
      exact iff_of_true rfl (exempt.imp_right Or.inl)

theorem checkCreatorSystem_ok :
    checkCreatorSystem caller req = .ok () ↔
      isPlatformAdminScope caller = true ∨ caller.systemId = req.systemId := by
  unfold checkCreatorSystem
  cases platform : isPlatformAdminScope caller with
  | true => simp
  | false => simp

theorem emailAddress_of_systemCategory
    (fits : validateCategory req = .ok ()) (isSystem : req.category = "system") :
    req.emailAddress = "" := by
  unfold validateCategory at fits
  rw [isSystem] at fits
  simp only at fits
  split at fits
  · assumption
  · cases fits

/-! ## Creation -/

/-- The answer to a rotation of the key's secret. -/
def AnswersRotation (world : World) (ok : ApiKeyResponse → World → Prop)
    (row : ApiKeyRecord) : Prop :=
  ∀ rawKey keyHash keyPrefix apiKeys later,
    world.db.apiKeys.update? (·.id == row.id)
      (fun row => { row with keyHash := keyHash, keyPrefix := keyPrefix }) =
        some apiKeys →
    later.db = { world.db with apiKeys } →
    ok (.withRawKey rawKey
      { row with keyHash := keyHash, keyPrefix := keyPrefix }) later

/-- Every way `createApiKey` ends: nothing written, the system key rotated, or
a new row. -/
theorem createApiKey_ends (refused : AllowsFailure failed world)
    (rotated : CreationAdmitted caller req → req.category = "system" →
      ∀ row ∈ world.db.apiKeys, row.systemId = req.systemId →
      row.category = "system" → row.emailAddress = "" →
      AnswersRotation world ok row)
    (created : CreationAdmitted caller req →
      ∀ rawKey keyHash keyPrefix createdAt apiKeys later,
      let record := Storage.newApiKey world.db req.systemId req.emailAddress
        keyHash keyPrefix (requestedScopes req) req.expiresAt req.category
        createdAt
      world.db.apiKeys.insert? record = some apiKeys →
      later.db = { world.db with apiKeys, apiKeySequence := record.id } →
      ok (.withRawKey rawKey record) later) :
    (createApiKey state caller req).Ends ok failed world := by
  unfold createApiKey
  rw [ends_bind, ends_check]
  refine ⟨fun _ admin => ?_, fun error _ => refused error world rfl⟩
  rw [ends_bind, ends_check]
  refine ⟨fun _ _ => ?_, fun error _ => refused error world rfl⟩
  rw [ends_bind, ends_check]
  refine ⟨fun _ category => ?_, fun error _ => refused error world rfl⟩
  rw [ends_bind, ends_check]
  refine ⟨fun _ access => ?_, fun error _ => refused error world rfl⟩
  simp only [newRawKey, ends_bind, ends_newUuid, ends_pure]
  rw [ends_check]
  refine ⟨fun _ tier => ?_, fun error _ => refused error _ rfl⟩
  rw [ends_check]
  refine ⟨fun _ addressLevel => ?_, fun error _ => refused error _ rfl⟩
  rw [ends_check]
  refine ⟨fun _ system => ?_, fun error _ => refused error _ rfl⟩
  have admitted : CreationAdmitted caller req :=
    { admin := requireAdmin_ok.mp admin
      category := category
      access := requireDomainMatch_ok.mp access
      tier := checkTier_ok.mp tier
      addressLevel := checkAddressLevelScopes_ok.mp addressLevel
      system := checkCreatorSystem_ok.mp system }
  -- Whatever the rotation attempt found, an insertion may follow it.
  have inserts (rawKey keyHash keyPrefix : String) (later : World)
      (unchanged : later.db = world.db) :
      (orDatabaseError (Storage.insertApiKey state.env req.systemId
        req.emailAddress keyHash keyPrefix (requestedScopes req) req.expiresAt
        req.category)).Ends
        (fun record final => ok (.withRawKey rawKey record) final) failed later := by
    rw [ends_orDatabaseError]
    apply Storage.insertApiKey_ends
    · exact fun error final same => refused _ _ (same.trans unchanged)
    · rw [unchanged]
      exact fun createdAt apiKeys final =>
        created admitted rawKey keyHash keyPrefix createdAt apiKeys final
  unfold rotateSystemKey
  by_cases isSystem : req.category = "system"
  · simp only [isSystem, if_true, ends_bind, ends_attempt]
    rw [isSystem] at inserts
    rw [Storage.listApiKeysBySystem]
    apply query_ends
    · intro error
      simp only [ends_pure, ends_bind]
      exact inserts _ _ _ _ rfl
    · simp only [World.later_db]
      cases search : (world.db.apiKeys.select fun row =>
          row.systemId == req.systemId && row.category == "system").find?
          (·.emailAddress == "") with
      | none =>
          simp only [ends_pure, ends_bind]
          exact inserts _ _ _ _ rfl
      | some row =>
          have empty := List.find?_some search
          have listed := List.mem_of_find?_eq_some search
          simp only [beq_iff_eq] at empty
          simp only [Table.mem_select, Bool.and_eq_true, beq_iff_eq] at listed
          simp only [ends_orDatabaseError, Storage.rotateApiKey]
          apply Storage.modifyApiKey_ends
          · exact fun error later same => refused _ _ same
          · intro later same
            simp only [ends_bind, ends_pure]
            exact inserts _ _ _ _ same
          · intro stored member sameId apiKeys later updated changed
            simp only [ends_pure]
            have same : stored = row := ApiKeys.eq_of_id member listed.1 sameId
            subst same
            exact rotated admitted isSystem stored listed.1 listed.2.1
              listed.2.2 empty _ _ _ apiKeys later updated changed
  · simp only [isSystem, if_false, ends_bind, ends_pure]
    exact inserts _ _ _ _ rfl

/-- Which rows `visibleKeys` answers with. -/
def Visible (caller : ApiKeyRecord) (db : Database) (email : Option String)
    (row : ApiKeyRecord) : Prop :=
  match email with
  | some email =>
      (isAdminScope caller = true ∨ isAgentScope caller = false ∨
        email = caller.emailAddress) ∧
      (isPlatformAdminScope caller = true ∨ row.systemId = caller.systemId) ∧
      db.apiKeys.find? (fun row => row.emailAddress == email && row.isActive) =
        some row
  | none =>
      row ∈ db.apiKeys ∧
      if isPlatformAdminScope caller then True
      else if isSystemAdminScope caller || isAgentAdminScope caller then
        row.systemId = caller.systemId ∧ row.category = "agent"
      else isAgentScope caller = true ∧ row.id = caller.id

theorem lookupAllowed_iff {email : String} :
    (!isPlatformAdminScope caller && !isSystemAdminScope caller &&
        !isAgentAdminScope caller && isAgentScope caller &&
        email != caller.emailAddress) = false ↔
      isAdminScope caller = true ∨ isAgentScope caller = false ∨
        email = caller.emailAddress := by
  unfold isAdminScope
  cases isPlatformAdminScope caller <;> cases isSystemAdminScope caller <;>
    cases isAgentAdminScope caller <;> cases isAgentScope caller <;> simp

theorem visibleKeys_ends {email : Option String}
    {ok : List ApiKeyRecord → World → Prop}
    (refused : AllowsFailure failed world)
    (shown : ∀ rows later, (∀ row ∈ rows, Visible caller world.db email row) →
      later.db = world.db → ok rows later) :
    (visibleKeys state caller email).Ends ok failed world := by
  unfold visibleKeys
  cases email with
  | some email =>
      simp only
      split
      · exact refused _ world rfl
      · next allowed =>
          rw [Bool.not_eq_true, lookupAllowed_iff] at allowed
          simp only [ends_bind, ends_orDatabaseError, Storage.getApiKeyByEmail]
          apply query_ends
          · exact fun error => refused _ _ rfl
          · cases search : world.db.apiKeys.find?
                (fun row => row.emailAddress == email && row.isActive) with
            | none => exact shown [] _ (fun _ listed => absurd listed List.not_mem_nil) rfl
            | some row =>
                simp only
                split
                · exact refused _ _ rfl
                · next sameSystem =>
                    refine shown [row] _ ?_ rfl
                    intro other member
                    rw [List.mem_singleton] at member
                    subst member
                    refine ⟨allowed, ?_, search⟩
                    simp only [Bool.and_eq_true, Bool.not_eq_true', bne_iff_ne,
                      ne_eq, not_and, not_not] at sameSystem
                    cases platform : isPlatformAdminScope caller with
                    | true => exact Or.inl rfl
                    | false => exact Or.inr (sameSystem platform)
  | none =>
      simp only
      split
      · next platform =>
          rw [ends_orDatabaseError, Storage.listApiKeys]
          apply query_ends
          · exact fun error => refused _ _ rfl
          · refine shown _ _ ?_ rfl
            intro row member
            simp only [Visible, platform, if_true, and_true]
            exact member
      · next notPlatform =>
          split
          · next manager =>
              rw [ends_orDatabaseError, Storage.listApiKeysBySystem]
              apply query_ends
              · exact fun error => refused _ _ rfl
              · refine shown _ _ ?_ rfl
                intro row listed
                simp only [Table.mem_select, Bool.and_eq_true, beq_iff_eq]
                  at listed
                simp only [Visible, if_neg notPlatform, if_pos manager]
                exact listed
          · next notManager =>
              split
              · next agent =>
                  simp only [ends_bind, ends_orDatabaseError, ends_pure]
                  apply Storage.getApiKey_ends
                  · exact fun error later same => refused _ _ same
                  · exact fun _ later same =>
                      shown [] later (fun _ own => absurd own List.not_mem_nil) same
                  · intro row member sameId later same
                    refine shown _ later ?_ same
                    intro other own
                    rw [Option.toList_some, List.mem_singleton] at own
                    subst own
                    simp only [Visible, if_neg notPlatform, if_neg notManager]
                    exact ⟨member, agent, sameId⟩
              · exact refused _ world rfl

theorem requireKeyMatch_ok {target : String} :
    requireKeyMatch caller target = .ok () ↔ mayAccess caller target := by
  unfold requireKeyMatch
  split
  · exact requireAgentMatch_ok
  · exact requireDomainMatch_ok

theorem getApiKey_ends {id : Int} (refused : AllowsFailure failed world)
    (found : isAdminScope caller = true → ∀ row ∈ world.db.apiKeys,
      row.id = id → mayAccess caller row.emailAddress →
      ∀ later, later.db = world.db → ok (.ofRecord row) later) :
    (getApiKey state caller id).Ends ok failed world := by
  unfold getApiKey
  rw [ends_bind, ends_check]
  refine ⟨fun _ admin => ?_, fun error _ => refused error world rfl⟩
  simp only [ends_bind, ends_orDatabaseError]
  apply Storage.getApiKey_ends
  · exact fun error later same => refused _ _ same
  · exact fun _ later same => refused _ _ same
  · intro row member sameId later same
    simp only [ends_bind, ends_pure]
    rw [ends_check]
    refine ⟨fun _ access => ?_, fun error _ => refused _ _ same⟩
    exact found (requireAdmin_ok.mp admin) row member sameId
      (requireKeyMatch_ok.mp access) later same

/-! ## Update and deletion -/

theorem rotateOwnKey_ends {id : Int} (refused : AllowsFailure failed world)
    (rotated : ∀ row ∈ world.db.apiKeys, row.id = id →
      AnswersRotation world ok row) :
    (rotateOwnKey state id).Ends ok failed world := by
  unfold rotateOwnKey
  simp only [newRawKey, ends_bind, ends_newUuid, ends_pure, ends_orDatabaseError,
    Storage.rotateApiKey]
  apply Storage.modifyApiKey_ends
  · exact fun error later same => refused _ _ same
  · exact fun later same => refused _ _ same
  · exact fun row member sameId apiKeys later updated changed =>
      rotated row member sameId _ _ _ apiKeys later updated changed

/-- The change `updateApiKey` makes for an admin: the active flag, if given. -/
def setActive (isActive : Option Bool) (row : ApiKeyRecord) : ApiKeyRecord :=
  { row with isActive := isActive.getD row.isActive }

theorem updateApiKey_eq_modify (env : Surroundings) (id : Int)
    (isActive : Option Bool) :
    Storage.updateApiKey env id none isActive =
      Storage.modifyApiKey env id (setActive isActive) :=
  rfl

theorem updateApiKey_ends {id : Int} {req : UpdateApiKeyRequest}
    (refused : AllowsFailure failed world)
    (rotated : id = caller.id → ∀ row ∈ world.db.apiKeys, row.id = id →
      AnswersRotation world ok row)
    (updated : isAdminScope caller = true →
      ¬(req.rotate.getD false = true ∧ id = caller.id) → req.scopes = none →
      ∀ row ∈ world.db.apiKeys, row.id = id →
      (isPlatformAdminScope caller = true ∨ mayAccess caller row.emailAddress) →
      ∀ apiKeys later,
      world.db.apiKeys.update? (·.id == row.id) (setActive req.isActive) =
        some apiKeys →
      later.db = { world.db with apiKeys } →
      ok (.ofRecord (setActive req.isActive row)) later) :
    (updateApiKey state caller id req).Ends ok failed world := by
  unfold updateApiKey
  split
  · next admin =>
      split
      · next own =>
          rw [Bool.and_eq_true, beq_iff_eq] at own
          exact rotateOwnKey_ends refused (rotated own.2)
      · next notOwn =>
          rw [Bool.and_eq_true, beq_iff_eq] at notOwn
          split
          · exact refused _ world rfl
          · next noScopes =>
              rw [Option.not_isSome_iff_eq_none] at noScopes
              simp only [ends_bind, ends_orDatabaseError]
              apply Storage.getApiKey_ends
              · exact fun error later same => refused _ _ same
              · exact fun _ later same => refused _ _ same
              · intro row member sameId later same
                simp only [ends_bind]
                rw [ends_check]
                refine ⟨fun _ access => ?_, fun error _ => refused _ _ same⟩
                have reaches : isPlatformAdminScope caller = true ∨
                    mayAccess caller row.emailAddress := by
                  split at access
                  · next platform => exact Or.inl platform
                  · exact Or.inr (requireKeyMatch_ok.mp access)
                rw [ends_orDatabaseError, updateApiKey_eq_modify]
                apply Storage.modifyApiKey_ends
                · exact fun error final final_same =>
                    refused _ _ (final_same.trans same)
                · exact fun final final_same => refused _ _ (final_same.trans same)
                · rw [same]
                  intro stored storedMember storedId apiKeys final changed final_db
                  have sameRow : stored = row :=
                    ApiKeys.eq_of_id storedMember member (storedId.trans sameId.symm)
                  subst sameRow
                  exact updated admin notOwn noScopes stored member sameId reaches
                    apiKeys final changed final_db
  · split
    · split
      · exact refused _ world rfl
      · next own =>
          rw [bne_iff_ne, not_not] at own
          split
          · exact refused _ world rfl
          · exact rotateOwnKey_ends refused (rotated own)
    · exact refused _ world rfl

theorem deleteApiKey_ends {id : Int} {ok : Unit → World → Prop}
    (refused : AllowsFailure failed world)
    (deleted : isAdminScope caller = true → ∀ row ∈ world.db.apiKeys,
      row.id = id → mayAccess caller row.emailAddress →
      ∀ later,
      later.db =
        { world.db with apiKeys := world.db.apiKeys.delete (·.id == id) } →
      ok () later) :
    (deleteApiKey state caller id).Ends ok failed world := by
  unfold deleteApiKey
  rw [ends_bind, ends_check]
  refine ⟨fun _ admin => ?_, fun error _ => refused error world rfl⟩
  simp only [ends_bind, ends_orDatabaseError]
  apply Storage.getApiKey_ends
  · exact fun error later same => refused _ _ same
  · exact fun _ later same => refused _ _ same
  · intro row member sameId later same
    simp only [ends_bind]
    rw [ends_check]
    refine ⟨fun _ access => ?_, fun error _ => refused _ _ same⟩
    rw [ends_orDatabaseError]
    apply Storage.deleteApiKey_ends
    · exact fun error final final_same => refused _ _ (final_same.trans same)
    · rw [same]
      exact deleted (requireAdmin_ok.mp admin) row member sameId
        (requireKeyMatch_ok.mp access)

/-! ## Without faults -/

section Calm

variable (calm : state.env.Calm)
  {failed : HttpError → World → Prop} {row : ApiKeyRecord}

include calm

theorem getApiKey_calm {ok : ApiKeyResponse → World → Prop}
    (admin : isAdminScope caller = true) (member : row ∈ world.db.apiKeys)
    (access : mayAccess caller row.emailAddress)
    (ends : (getApiKey state caller row.id).Ends ok failed world) :
    ok (.ofRecord row) world.later := by
  unfold getApiKey at ends
  rw [requireAdmin_ok.mpr admin, ends_bind, ends_check_ok] at ends
  simp only [ends_bind, ends_orDatabaseError] at ends
  rw [Storage.getApiKey_calm calm member] at ends
  simp only [requireKeyMatch_ok.mpr access, ends_bind, ends_check_ok,
    ends_pure] at ends
  exact ends

theorem deleteApiKey_calm {ok : Unit → World → Prop}
    (admin : isAdminScope caller = true) (member : row ∈ world.db.apiKeys)
    (access : mayAccess caller row.emailAddress)
    (ends : (deleteApiKey state caller row.id).Ends ok failed world) :
    ∃ later, later.db =
        { world.db with
          apiKeys := world.db.apiKeys.delete (·.id == row.id) } ∧
      ok () later := by
  unfold deleteApiKey at ends
  rw [requireAdmin_ok.mpr admin, ends_bind, ends_check_ok] at ends
  simp only [ends_bind, ends_orDatabaseError] at ends
  rw [Storage.getApiKey_calm calm member] at ends
  simp only [requireKeyMatch_ok.mpr access, ends_bind, ends_check_ok,
    ends_orDatabaseError] at ends
  rw [Storage.deleteApiKey_calm calm] at ends
  exact ⟨_, rfl, ends⟩

theorem updateApiKey_calm {req : UpdateApiKeyRequest}
    {ok : ApiKeyResponse → World → Prop} (admin : isAdminScope caller = true)
    (notOwn : ¬(req.rotate.getD false = true ∧ row.id = caller.id))
    (noScopes : req.scopes = none) (member : row ∈ world.db.apiKeys)
    (access : mayAccess caller row.emailAddress)
    (ends : (updateApiKey state caller row.id req).Ends ok failed world) :
    ∃ later, ok (.ofRecord (setActive req.isActive row)) later := by
  obtain ⟨apiKeys, updated⟩ : ∃ after, world.db.apiKeys.update?
      (·.id == row.id) (setActive req.isActive) = some after :=
    Storage.update?_of_sameKeys fun _ => ⟨rfl, rfl, rfl⟩
  have notRotation : (req.rotate.getD false && row.id == caller.id) = false := by
    rw [Bool.eq_false_iff, ne_eq, Bool.and_eq_true, beq_iff_eq]
    exact notOwn
  have passes : (if isPlatformAdminScope caller then .ok ()
      else requireKeyMatch caller row.emailAddress) =
        (.ok () : Except HttpError Unit) := by
    rw [requireKeyMatch_ok.mpr access, ite_self]
  unfold updateApiKey at ends
  simp only [admin, if_true, notRotation, noScopes, Option.isSome_none,
    Bool.false_eq_true, if_false, ends_bind, ends_orDatabaseError] at ends
  rw [Storage.getApiKey_calm calm member] at ends
  simp only [passes, ends_bind, ends_check_ok, ends_orDatabaseError,
    updateApiKey_eq_modify] at ends
  have memberLater : row ∈ world.later.db.apiKeys := member
  rw [Storage.modifyApiKey_calm calm memberLater updated] at ends
  simp only [ends_pure] at ends
  exact ⟨_, ends⟩

theorem visibleKeys_calm {email : Option String}
    {ok : List ApiKeyRecord → World → Prop}
    (visible : Visible caller world.db email row)
    (ends : (visibleKeys state caller email).Ends ok failed world) :
    ∃ rows later, row ∈ rows ∧ ok rows later := by
  unfold visibleKeys at ends
  cases email with
  | some email =>
      rcases visible with ⟨allowed, sameSystem, search⟩
      have sameSystem' : (!isPlatformAdminScope caller &&
          row.systemId != caller.systemId) = false := by
        rcases sameSystem with platform | equal
        · simp [platform]
        · simp [equal]
      simp only [lookupAllowed_iff.mpr allowed, Bool.false_eq_true, if_false,
        ends_bind, ends_orDatabaseError, Storage.getApiKeyByEmail,
        calm.ends_query, search, sameSystem', ends_pure] at ends
      exact ⟨[row], _, List.mem_singleton_self row, ends⟩
  | none =>
      rcases visible with ⟨member, listed⟩
      simp only at ends
      split at ends
      · rw [ends_orDatabaseError, Storage.listApiKeys, calm.ends_query] at ends
        exact ⟨_, _, member, ends⟩
      · next notPlatform =>
          rw [if_neg notPlatform] at listed
          split at ends
          · next manager =>
              rw [if_pos manager] at listed
              rw [ends_orDatabaseError, Storage.listApiKeysBySystem,
                calm.ends_query] at ends
              refine ⟨_, _, ?_, ends⟩
              rw [Table.mem_select]
              simp [member, listed.1, listed.2]
          · next notManager =>
              rw [if_neg notManager] at listed
              rw [if_pos listed.1, ← listed.2] at ends
              simp only [ends_bind, ends_orDatabaseError] at ends
              rw [Storage.getApiKey_calm calm member] at ends
              simp only [ends_pure] at ends
              exact ⟨_, _, List.mem_singleton_self row, ends⟩

end Calm

theorem exists_freshState (keys : ApiKeys) :
    ∃ state : HttpState, state.env.Calm ∧
      (∀ systemId, checkAdmission state systemId = .ok ()) ∧
      ∀ tick, ∀ other ∈ keys,
        other.keyHash ≠ state.storeHash (state.sha256Hex (state.env.uuid tick)) := by
  rcases Infinite.exists_notMem_finset (keys.rows.map (·.keyHash)).toFinset with
    ⟨uuid, fresh⟩
  refine ⟨HttpState.base (.steady 0 uuid) id id, Surroundings.steady_calm 0 uuid,
    fun _ => rfl, fun tick other member equal => fresh ?_⟩
  rw [List.mem_toFinset, List.mem_map]
  exact ⟨other, member, equal⟩

/-- The request would reach a row of the table: a free slot for the new key, or
a system key to rotate. -/
def CreationWrites (db : Database) (req : CreateApiKeyRequest) : Prop :=
  (∀ row ∈ db.apiKeys, row.slot ≠ (req.systemId, req.emailAddress)) ∨
    (req.category = "system" ∧ ∃ row ∈ db.apiKeys,
      row.systemId = req.systemId ∧ row.category = "system" ∧
        row.emailAddress = "")

theorem createApiKey_calm (calm : state.env.Calm)
    (admission : checkAdmission state req.systemId = .ok ())
    (fresh : ∀ tick, ∀ other ∈ world.db.apiKeys,
      other.keyHash ≠ state.storeHash (state.sha256Hex (state.env.uuid tick)))
    (admitted : CreationAdmitted caller req)
    (ends : (createApiKey state caller req).Ends ok failed world) :
    (∀ row ∈ world.db.apiKeys, req.category = "system" →
      row.systemId = req.systemId → row.category = "system" →
      row.emailAddress = "" →
      ∃ rawKey keyHash keyPrefix later, ok (.withRawKey rawKey
        { row with keyHash := keyHash, keyPrefix := keyPrefix }) later) ∧
    ((∀ row ∈ world.db.apiKeys, row.slot ≠ (req.systemId, req.emailAddress)) →
      ∃ rawKey keyHash keyPrefix createdAt later,
        ok (.withRawKey rawKey (Storage.newApiKey world.db req.systemId
          req.emailAddress keyHash keyPrefix (requestedScopes req) req.expiresAt
          req.category createdAt)) later) := by
  unfold createApiKey at ends
  rw [requireAdmin_ok.mpr admitted.admin, ends_bind, ends_check_ok, admission,
    ends_bind, ends_check_ok, admitted.category, ends_bind, ends_check_ok,
    requireDomainMatch_ok.mpr admitted.access, ends_bind, ends_check_ok] at ends
  simp only [newRawKey, ends_bind, ends_newUuid, ends_pure,
    checkTier_ok.mpr admitted.tier,
    checkAddressLevelScopes_ok.mpr admitted.addressLevel,
    checkCreatorSystem_ok.mpr admitted.system, ends_check_ok] at ends
  unfold rotateSystemKey at ends
  constructor
  · intro row member isSystem system category empty
    simp only [isSystem, if_true, ends_bind, ends_attempt,
      Storage.listApiKeysBySystem, calm.ends_query] at ends
    have listed : row ∈ world.later.db.apiKeys.select fun row =>
        row.systemId == req.systemId && row.category == "system" := by
      simp [system, category, member]
    cases search : (world.later.db.apiKeys.select fun row =>
        row.systemId == req.systemId && row.category == "system").find?
        (·.emailAddress == "") with
    | none =>
        have missed := List.find?_eq_none.mp search row listed
        simp [empty] at missed
    | some found =>
        have foundEmpty := List.find?_some search
        have foundListed := List.mem_of_find?_eq_some search
        simp only [beq_iff_eq] at foundEmpty
        simp only [Table.mem_select, Bool.and_eq_true, beq_iff_eq] at foundListed
        have sameRow : found = row := by
          apply ApiKeys.eq_of_slot foundListed.1 member
          simp [ApiKeyRecord.slot, foundListed.2.1, system, foundEmpty, empty]
        subst sameRow
        have rotates := Storage.update?_of_freshHash found.id
          (Text.take 8 (state.env.uuid world.tick)) (fresh world.tick)
        rcases rotates with ⟨apiKeys, updated⟩
        have memberLater : found ∈ world.later.later.db.apiKeys := member
        rw [search] at ends
        simp only [ends_orDatabaseError, Storage.rotateApiKey] at ends
        rw [Storage.modifyApiKey_calm calm memberLater updated] at ends
        exact ⟨_, _, _, _, ends⟩
  · intro freeSlot
    have inserts (later : World) (unchanged : later.db = world.db)
        (insertion : (orDatabaseError (Storage.insertApiKey state.env
          req.systemId req.emailAddress
          (state.storeHash (state.sha256Hex (state.env.uuid world.tick)))
          (Text.take 8 (state.env.uuid world.tick)) (requestedScopes req)
          req.expiresAt req.category)).Ends
          (fun record final =>
            ok (.withRawKey (state.env.uuid world.tick) record) final)
          failed later) :
        ∃ rawKey keyHash keyPrefix createdAt final,
          ok (.withRawKey rawKey (Storage.newApiKey world.db req.systemId
            req.emailAddress keyHash keyPrefix (requestedScopes req)
            req.expiresAt req.category createdAt)) final := by
      rw [← unchanged] at fresh freeSlot
      rcases Storage.insertApiKey_calm calm (fresh world.tick) freeSlot with
        ⟨createdAt, apiKeys, _, insert⟩
      rw [ends_orDatabaseError, insert, unchanged] at insertion
      exact ⟨_, _, _, _, _, insertion⟩
    by_cases isSystem : req.category = "system"
    · simp only [isSystem, if_true, ends_bind, ends_attempt,
        Storage.listApiKeysBySystem, calm.ends_query] at ends
      rw [isSystem] at inserts ⊢
      cases search : (world.later.db.apiKeys.select fun row =>
          row.systemId == req.systemId && row.category == "system").find?
          (·.emailAddress == "") with
      | none =>
          rw [search] at ends
          simp only [ends_bind, ends_pure] at ends
          exact inserts world.later.later rfl ends
      | some found =>
          have foundEmpty := List.find?_some search
          have foundListed := List.mem_of_find?_eq_some search
          simp only [beq_iff_eq] at foundEmpty
          simp only [Table.mem_select, Bool.and_eq_true, beq_iff_eq] at foundListed
          have empty : req.emailAddress = "" :=
            emailAddress_of_systemCategory admitted.category isSystem
          refine absurd ?_ (freeSlot found foundListed.1)
          simp [ApiKeyRecord.slot, foundListed.2.1, foundEmpty, empty]
    · simp only [isSystem, if_false, ends_bind, ends_pure] at ends
      exact inserts world.later rfl ends

end AimailGateway.Api
