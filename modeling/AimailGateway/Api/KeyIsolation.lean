import AimailGateway.Api.KeyOutcomes

/-! # Which rows an API key request reaches

The five handlers of `/api/v1/api-keys` as one request type, the rows a caller
may reach, and the exact condition under which a request stays within them.
-/

namespace AimailGateway.Api

open Library Action

inductive KeyRequest where
  | create (req : CreateApiKeyRequest)
  | list (email : Option String)
  | get (id : Int)
  | update (id : Int) (req : UpdateApiKeyRequest)
  | delete (id : Int)
  deriving DecidableEq, Repr

def KeyRequest.handle (state : HttpState) (caller : ApiKeyRecord) :
    KeyRequest → Handler (List ApiKeyResponse)
  | .create req => do
      let response ← createApiKey state caller req
      return [response]
  | .list email => listApiKeys state caller email
  | .get id => do
      let response ← getApiKey state caller id
      return [response]
  | .update id req => do
      let response ← updateApiKey state caller id req
      return [response]
  | .delete id => do
      deleteApiKey state caller id
      return []

/-- The system and the address of a key are within a caller's reach: the
caller's own system and, for a domain-level caller, its own domain. -/
def Within (caller : ApiKeyRecord) (systemId emailAddress : String) : Prop :=
  systemId = caller.systemId ∧
    (caller.domainLevel → Text.lastPiece '@' emailAddress = caller.emailAddress)

def WithinRow (caller row : ApiKeyRecord) : Prop :=
  Within caller row.systemId row.emailAddress

instance (caller : ApiKeyRecord) (systemId emailAddress : String) :
    Decidable (Within caller systemId emailAddress) :=
  inferInstanceAs (Decidable (_ ∧ (_ → _)))

/-- A request returns, creates, changes and deletes only rows within reach. -/
def KeysIsolated (state : HttpState) (caller : ApiKeyRecord) (db : Database)
    (request : KeyRequest) : Prop :=
  (request.handle state caller).Ends
    (fun responses world =>
      (∀ response ∈ responses,
        Within caller response.systemId response.emailAddress) ∧
      Table.ChangesOnly (WithinRow caller) db.apiKeys world.db.apiKeys)
    (fun _ world =>
      Table.ChangesOnly (WithinRow caller) db.apiKeys world.db.apiKeys)
    (World.start db)

/-- Creating and listing only need a domain-level caller to stay in its domain;
a request by id needs a key out of reach of the address check or within the
caller's. -/
def StaysWithin (caller : ApiKeyRecord) (db : Database) : KeyRequest → Prop
  | .create req =>
      caller.domainLevel → CreationAdmitted caller req → CreationWrites db req →
        Text.lastPiece '@' req.emailAddress = caller.emailAddress
  | .list (some email) =>
      caller.domainLevel →
        (isAdminScope caller = true ∨ isAgentScope caller = false ∨
          email = caller.emailAddress) →
        ∀ row, db.apiKeys.find?
            (fun row => row.emailAddress == email && row.isActive) = some row →
          row.systemId = caller.systemId →
          Text.lastPiece '@' email = caller.emailAddress
  | .list none =>
      caller.domainLevel →
        (isSystemAdminScope caller = true ∨ isAgentAdminScope caller = true) →
        ∀ row ∈ db.apiKeys, row.systemId = caller.systemId →
          row.category = "agent" →
          Text.lastPiece '@' row.emailAddress = caller.emailAddress
  | .get id | .delete id =>
      isAdminScope caller = true → ∀ row ∈ db.apiKeys, row.id = id →
        mayAccess caller row.emailAddress → WithinRow caller row
  | .update id req =>
      isAdminScope caller = true →
        ¬(req.rotate.getD false = true ∧ id = caller.id) → req.scopes = none →
        ∀ row ∈ db.apiKeys, row.id = id →
        mayAccess caller row.emailAddress → WithinRow caller row

section Isolation

variable {state : HttpState} {caller : ApiKeyRecord} {db : Database}
  {row : ApiKeyRecord}

theorem withinRow_self : WithinRow caller caller :=
  ⟨rfl, fun domainLevel => Text.lastPiece_of_not_contains domainLevel.2⟩

theorem withinRow_rotated (keyHash keyPrefix : String)
    (within : WithinRow caller row) :
    WithinRow caller { row with keyHash := keyHash, keyPrefix := keyPrefix } :=
  within

theorem withinRow_setActive (isActive : Option Bool)
    (within : WithinRow caller row) :
    WithinRow caller (setActive isActive row) :=
  within

theorem changesOnly_of_update
    {change : ApiKeyRecord → ApiKeyRecord} {apiKeys : ApiKeys}
    (member : row ∈ db.apiKeys)
    (updated : db.apiKeys.update? (·.id == row.id) change = some apiKeys)
    (before : WithinRow caller row) (after : WithinRow caller (change row)) :
    Table.ChangesOnly (WithinRow caller) db.apiKeys apiKeys := by
  apply Table.changesOnly_update? updated
  · intro other otherMember selected
    rw [ApiKeys.eq_of_id otherMember member (by simpa using selected)]
    exact before
  · intro other otherMember selected
    rw [ApiKeys.eq_of_id otherMember member (by simpa using selected)]
    exact after

theorem changesOnly_same {world : World} (same : world.db = db) :
    Table.ChangesOnly (WithinRow caller) db.apiKeys world.db.apiKeys := by
  rw [same]
  exact Table.ChangesOnly.refl _ _

theorem CreationAdmitted.sameSystem {req : CreateApiKeyRequest}
    (admitted : CreationAdmitted caller req)
    (notPlatform : isPlatformAdminScope caller = false) :
    req.systemId = caller.systemId := by
  have system := admitted.system
  rw [notPlatform] at system
  exact (system.resolve_left Bool.false_ne_true).symm

private theorem create_isolated {req : CreateApiKeyRequest}
    (notPlatform : isPlatformAdminScope caller = false)
    (stays : StaysWithin caller db (.create req)) :
    KeysIsolated state caller db (.create req) := by
  have within (admitted : CreationAdmitted caller req)
      (writes : CreationWrites db req) :
      Within caller req.systemId req.emailAddress :=
    ⟨admitted.sameSystem notPlatform,
      fun domainLevel => stays domainLevel admitted writes⟩
  unfold KeysIsolated KeyRequest.handle
  simp only [ends_bind, ends_pure, List.mem_singleton, forall_eq]
  apply createApiKey_ends
  · exact fun _ _ same => changesOnly_same same
  · intro admitted isSystem row member system category empty
      rawKey keyHash keyPrefix apiKeys later updated changed
    have reqEmpty := emailAddress_of_systemCategory admitted.category isSystem
    have reached := within admitted
      (Or.inr ⟨isSystem, row, member, system, category, empty⟩)
    rw [← system, reqEmpty, ← empty] at reached
    refine ⟨reached, ?_⟩
    rw [changed]
    exact changesOnly_of_update member updated reached
      (withinRow_rotated keyHash keyPrefix reached)
  · intro admitted rawKey keyHash keyPrefix createdAt apiKeys later record
      insertion changed
    have free : ∀ row ∈ db.apiKeys, row.slot ≠ (req.systemId, req.emailAddress) :=
      Storage.slot_free_of_insert? insertion
    have reached := within admitted (Or.inl free)
    refine ⟨reached, ?_⟩
    rw [changed]
    exact Table.changesOnly_insert? insertion reached

theorem staysWithin_list_iff {email : Option String}
    (authenticated : caller ∈ db.apiKeys)
    (notPlatform : isPlatformAdminScope caller = false) :
    StaysWithin caller db (.list email) ↔
      ∀ row, Visible caller db email row → WithinRow caller row := by
  cases email with
  | some email =>
      constructor
      · intro stays row visible
        rcases visible with ⟨allowed, system, search⟩
        rw [notPlatform] at system
        have sameSystem := system.resolve_left Bool.false_ne_true
        rcases Table.mem_of_find? search with ⟨_, selected⟩
        simp only [Bool.and_eq_true, beq_iff_eq] at selected
        refine ⟨sameSystem, fun domainLevel => ?_⟩
        rw [selected.1]
        exact stays domainLevel allowed row search sameSystem
      · intro within domainLevel allowed row search sameSystem
        rcases Table.mem_of_find? search with ⟨_, selected⟩
        simp only [Bool.and_eq_true, beq_iff_eq] at selected
        rw [← selected.1]
        exact (within row ⟨allowed, Or.inr sameSystem, search⟩).2 domainLevel
  | none =>
      constructor
      · intro stays row visible
        rcases visible with ⟨member, shown⟩
        rw [notPlatform, if_neg Bool.false_ne_true] at shown
        split at shown
        · next manager =>
            rw [Bool.or_eq_true] at manager
            exact ⟨shown.1, fun domainLevel =>
              stays domainLevel manager row member shown.1 shown.2⟩
        · rw [ApiKeys.eq_of_id member authenticated shown.2]
          exact withinRow_self
      · intro within domainLevel manager row member system category
        refine (within row ⟨member, ?_⟩).2 domainLevel
        rw [notPlatform, if_neg Bool.false_ne_true, if_pos (Bool.or_eq_true _ _ ▸ manager)]
        exact ⟨system, category⟩

private theorem list_isolated {email : Option String}
    (authenticated : caller ∈ db.apiKeys)
    (notPlatform : isPlatformAdminScope caller = false)
    (stays : StaysWithin caller db (.list email)) :
    KeysIsolated state caller db (.list email) := by
  rw [staysWithin_list_iff authenticated notPlatform] at stays
  unfold KeysIsolated KeyRequest.handle listApiKeys
  simp only [ends_bind, ends_pure]
  apply visibleKeys_ends
  · exact fun _ _ same => changesOnly_same same
  · intro rows later visible same
    refine ⟨?_, changesOnly_same same⟩
    intro response member
    rcases List.mem_map.mp member with ⟨row, rowMember, converted⟩
    subst converted
    exact stays row (visible row rowMember)

private theorem get_isolated {id : Int}
    (stays : StaysWithin caller db (.get id)) :
    KeysIsolated state caller db (.get id) := by
  unfold KeysIsolated KeyRequest.handle
  simp only [ends_bind, ends_pure, List.mem_singleton, forall_eq]
  apply getApiKey_ends
  · exact fun _ _ same => changesOnly_same same
  · intro admin row member sameId access later same
    exact ⟨stays admin row member sameId access, changesOnly_same same⟩

private theorem update_isolated {id : Int} {req : UpdateApiKeyRequest}
    (authenticated : caller ∈ db.apiKeys)
    (notPlatform : isPlatformAdminScope caller = false)
    (stays : StaysWithin caller db (.update id req)) :
    KeysIsolated state caller db (.update id req) := by
  unfold KeysIsolated KeyRequest.handle
  simp only [ends_bind, ends_pure, List.mem_singleton, forall_eq]
  apply updateApiKey_ends
  · exact fun _ _ same => changesOnly_same same
  · intro own row member sameId rawKey keyHash keyPrefix apiKeys later updated
      changed
    have sameRow : row = caller :=
      ApiKeys.eq_of_id member authenticated (sameId.trans own)
    subst sameRow
    refine ⟨withinRow_self, ?_⟩
    rw [changed]
    exact changesOnly_of_update member updated withinRow_self
      (withinRow_rotated keyHash keyPrefix withinRow_self)
  · intro admin notOwn noScopes row member sameId reaches apiKeys later updated
      changed
    rw [notPlatform] at reaches
    have access := reaches.resolve_left Bool.false_ne_true
    have within := stays admin notOwn noScopes row member sameId access
    refine ⟨withinRow_setActive req.isActive within, ?_⟩
    rw [changed]
    exact changesOnly_of_update member updated within
      (withinRow_setActive req.isActive within)

private theorem delete_isolated {id : Int}
    (stays : StaysWithin caller db (.delete id)) :
    KeysIsolated state caller db (.delete id) := by
  unfold KeysIsolated KeyRequest.handle
  simp only [ends_bind, ends_pure, List.not_mem_nil, false_implies,
    implies_true, true_and]
  apply deleteApiKey_ends
  · exact fun _ _ same => changesOnly_same same
  · intro admin row member sameId access later changed
    rw [changed]
    apply Table.changesOnly_delete
    intro other otherMember selected
    rw [ApiKeys.eq_of_id otherMember member (by simp_all)]
    exact stays admin row member sameId access

/-- A request for keys stays isolated exactly when every key it would write or
show is within the caller's reach. -/
theorem keysIsolated_iff_staysWithin (caller : ApiKeyRecord) (db : Database)
    (request : KeyRequest) (authenticated : caller ∈ db.apiKeys)
    (notPlatform : isPlatformAdminScope caller = false) :
    (∀ state, KeysIsolated state caller db request) ↔
      StaysWithin caller db request := by
  constructor
  · intro isolated
    rcases exists_freshState db.apiKeys with ⟨state, calm, admission, fresh⟩
    have ends := isolated state
    unfold KeysIsolated KeyRequest.handle at ends
    cases request with
    | create req =>
        intro domainLevel admitted writes
        simp only [ends_bind, ends_pure, List.mem_singleton, forall_eq] at ends
        rcases createApiKey_calm calm (admission req.systemId) fresh admitted ends with
          ⟨rotates, creates⟩
        rcases writes with free | ⟨isSystem, row, member, system, category, empty⟩
        · rcases creates free with ⟨_, _, _, _, _, within, _⟩
          exact within.2 domainLevel
        · rcases rotates row member isSystem system category empty with
            ⟨_, _, _, _, within, _⟩
          have reqEmpty :=
            emailAddress_of_systemCategory admitted.category isSystem
          rw [reqEmpty, ← empty]
          exact within.2 domainLevel
    | list email =>
        rw [staysWithin_list_iff authenticated notPlatform]
        intro row visible
        simp only [listApiKeys, ends_bind, ends_pure] at ends
        rcases visibleKeys_calm calm visible ends with
          ⟨rows, later, member, within, _⟩
        exact within (.ofRecord row) (List.mem_map_of_mem member)
    | get id =>
        intro admin row member sameId access
        subst sameId
        simp only [ends_bind, ends_pure, List.mem_singleton, forall_eq] at ends
        exact (getApiKey_calm calm admin member access ends).1
    | update id req =>
        intro admin notOwn noScopes row member sameId access
        subst sameId
        simp only [ends_bind, ends_pure, List.mem_singleton, forall_eq] at ends
        rcases updateApiKey_calm calm admin notOwn noScopes member access ends with
          ⟨_, within, _⟩
        exact within
    | delete id =>
        intro admin row member sameId access
        subst sameId
        simp only [ends_bind, ends_pure] at ends
        rcases deleteApiKey_calm calm admin member access ends with
          ⟨later, deleted, _, changes⟩
        by_contra foreign
        have kept := (changes row foreign).mp member
        rw [deleted, Table.mem_delete] at kept
        simp at kept
  · intro stays state
    cases request with
    | create req => exact create_isolated notPlatform stays
    | list email => exact list_isolated authenticated notPlatform stays
    | get id => exact get_isolated stays
    | update id req => exact update_isolated authenticated notPlatform stays
    | delete id => exact delete_isolated stays

end Isolation

/-! ## A request that crosses systems -/

/-- The system administrator of `sys-a`. -/
def adminOfA : ApiKeyRecord :=
  sampleKey 1 "sys-a" "" "hash-a" ["system"] "system"

/-- An agent of `sys-b`. -/
def agentOfB : ApiKeyRecord :=
  sampleKey 2 "sys-b" "bob@b.test" "hash-b" ["agent"] "agent"

def twoSystems : Database :=
  { Database.empty with
    apiKeys := ⟨[adminOfA, agentOfB], by decide⟩
    apiKeySequence := 2 }

/-- The administrator of `sys-a` reads and deletes the key of an agent of
`sys-b` by its id. -/
theorem keys_cross_systems :
    ¬KeysIsolated sampleState adminOfA twoSystems (.get 2) ∧
      ¬KeysIsolated sampleState adminOfA twoSystems (.delete 2) := by
  have calm : sampleState.env.Calm := Surroundings.steady_calm _ _
  have member : agentOfB ∈ (World.start twoSystems).db.apiKeys :=
    List.mem_cons_of_mem _ List.mem_cons_self
  have admin : isAdminScope adminOfA = true := by decide
  have access : mayAccess adminOfA agentOfB.emailAddress :=
    Or.inr (Or.inl (by decide))
  have foreign : ¬WithinRow adminOfA agentOfB := by
    unfold WithinRow
    decide
  constructor
  · intro isolated
    unfold KeysIsolated KeyRequest.handle at isolated
    simp only [ends_bind, ends_pure, List.mem_singleton, forall_eq] at isolated
    exact foreign (getApiKey_calm calm admin member access isolated).1
  · intro isolated
    unfold KeysIsolated KeyRequest.handle at isolated
    simp only [ends_bind, ends_pure] at isolated
    rcases deleteApiKey_calm calm admin member access isolated with
      ⟨later, deleted, _, changes⟩
    have kept := (changes agentOfB foreign).mp member
    rw [deleted, Table.mem_delete] at kept
    simp [agentOfB, sampleKey] at kept

/-- Asking for its own key, the administrator stays within `sys-a`. -/
theorem keysIsolated_own_key :
    KeysIsolated sampleState adminOfA twoSystems (.get 1) := by
  have stays : StaysWithin adminOfA twoSystems (.get 1) := by
    intro admin row member sameId access
    have own : row = adminOfA := by
      apply ApiKeys.eq_of_id member List.mem_cons_self
      rw [sameId]
      rfl
    rw [own]
    exact withinRow_self
  exact (keysIsolated_iff_staysWithin adminOfA twoSystems (.get 1)
    List.mem_cons_self (by decide)).mpr stays sampleState

end AimailGateway.Api
