import AimailGateway.Api.Keys
import AimailGateway.Api.Redemption
import AimailGateway.Api.Seal

/-! # Sealed at rest

Each writer of a key seals the hash itself, or does not. The file follows all
of them over whole runs that begin after the migration at start-up.
-/

namespace AimailGateway.Seal

open Library Action Api

/-! ## Keys provisioned at start-up -/

def systemKeyDomainAddr : String := ".system"

def setupAdminKey (state : HttpState) (bootstrapId : String)
    (provisionSystemKey : Bool) : Storage (String × String) := do
  let existing ← noted "check admin key"
    (Storage.listApiKeysBySystem state.env bootstrapId "platform")
  let adminKey ← provision state existing "admin api-key" bootstrapId ""
    ["platform", "system"] "platform"
  if provisionSystemKey then
    let existing ← noted "check system key"
      (Storage.listApiKeysBySystem state.env bootstrapId "system")
    let systemKey ← provision state existing "system api-key" bootstrapId
      systemKeyDomainAddr ["system"] "system"
    return (adminKey, systemKey)
  else
    return (adminKey, "")
where
  /-- Mint and store a key where there is none yet. -/
  provision (state : HttpState) (existing : List ApiKeyRecord)
      (note bootstrapId address : String) (scopes : List String)
      (category : String) : Storage String := do
    if existing.isEmpty then
      let rawKey ← newUuid state.env
      let _ ← noted note (Storage.insertApiKey state.env bootstrapId address
        (state.storeHash (state.sha256Hex rawKey)) (Text.take 8 rawKey) scopes
        none category)
      return rawKey
    else
      return ""

/-! ## What each writer stores -/

/-- Every hash afterwards was there before or is sealed. -/
def SealsOnly (before after : Database) : Prop :=
  ∀ row ∈ after.apiKeys, isSealed row.keyHash = true ∨
    ∃ old ∈ before.apiKeys, row.keyHash = old.keyHash

theorem SealsOnly.refl (db : Database) : SealsOnly db db :=
  fun row member => .inr ⟨row, member, rfl⟩

theorem SealsOnly.trans {first second third : Database}
    (earlier : SealsOnly first second) (later : SealsOnly second third) :
    SealsOnly first third := by
  intro row member
  rcases later row member with done | ⟨old, there, same⟩
  · exact .inl done
  · rcases earlier old there with done | ⟨first, begun, equal⟩
    · rw [← same] at done
      exact .inl done
    · exact .inr ⟨first, begun, same.trans equal⟩

/-- No bare hash in the table. -/
def AllSealed (db : Database) : Prop :=
  ∀ row ∈ db.apiKeys, isSealed row.keyHash = true

theorem SealsOnly.allSealed {before after : Database}
    (seals : SealsOnly before after) (all : AllSealed before) :
    AllSealed after := by
  intro row member
  rcases seals row member with done | ⟨old, there, same⟩
  · exact done
  · rw [same]
    exact all old there

abbrev KeepsSealed (action : Action World ε α) : Prop :=
  action.Moves (OnDb SealsOnly)

section Writers

variable {env : Surroundings}

theorem keepsSealed_bind {action : Action World ε α}
    {rest : α → Action World ε β} (first : KeepsSealed action)
    (second : ∀ value, KeepsSealed (rest value)) :
    KeepsSealed (action >>= rest) := by
  refine Moves.bind ?_ first second
  exact fun earlier later => SealsOnly.trans earlier later

theorem keepsSealed_check (outcome : Except ε α) :
    KeepsSealed (check outcome : Action World ε α) :=
  moves_check (fun _ => .refl _) outcome

theorem keepsSealed_query (read : Database → α) :
    KeepsSealed (query env read) :=
  moves_query SealsOnly.refl

theorem keepsSealed_insert {systemId address keyHash keyPrefix : String}
    {scopes : List String} {expiresAt : Option String} {category : String}
    (done : isSealed keyHash = true) :
    KeepsSealed (Storage.insertApiKey env systemId address keyHash keyPrefix
      scopes expiresAt category) := by
  rw [KeepsSealed, moves_iff_ends]
  intro world
  apply Storage.insertApiKey_ends
  · intro _ later same
    rw [OnDb, same]
    exact .refl _
  · intro createdAt keys later record insertion changed row member
    rw [changed] at member
    rcases (Table.mem_of_insert? insertion).mp member with old | new
    · exact .inr ⟨row, old, rfl⟩
    · rw [new]
      exact .inl done

theorem keepsSealed_modify {id : Int} {change : ApiKeyRecord → ApiKeyRecord}
    (seals : ∀ row, isSealed (change row).keyHash = true ∨
      (change row).keyHash = row.keyHash) :
    KeepsSealed (Storage.modifyApiKey env id change) := by
  rw [KeepsSealed, moves_iff_ends]
  intro world
  apply Storage.modifyApiKey_ends
  · intro _ later same
    rw [OnDb, same]
    exact .refl _
  · intro later same
    rw [OnDb, same]
    exact .refl _
  · intro _ _ _ keys later updated changed row member
    rw [changed] at member
    rcases (Table.mem_of_update? updated).mp member with ⟨old, there, equal⟩
    rw [← equal]
    split
    · rcases seals old with done | same
      · exact .inl done
      · exact .inr ⟨old, there, same⟩
    · exact .inr ⟨old, there, rfl⟩

theorem keepsSealed_delete (id : Int) :
    KeepsSealed (Storage.deleteApiKey env id) := by
  rw [KeepsSealed, moves_iff_ends]
  intro world
  apply Storage.deleteApiKey_ends
  · intro _ later same
    rw [OnDb, same]
    exact .refl _
  · intro later changed row member
    rw [changed] at member
    exact .inr ⟨row, (Table.mem_delete.mp member).1, rfl⟩

end Writers

section Handlers

variable {state : HttpState} (seals : ∀ text, isSealed (state.storeHash text))

theorem keepsSealed_newRawKey {rest : String × String × String → Handler α}
    (each : ∀ rawKey, KeepsSealed (rest (rawKey,
      state.storeHash (state.sha256Hex rawKey), Text.take 8 rawKey))) :
    KeepsSealed (newRawKey state >>= rest) := by
  rw [KeepsSealed, moves_iff_ends]
  intro world
  rw [ends_bind, newRawKey, ends_bind, ends_newUuid, ends_pure]
  exact moves_iff_ends.mp (each _) world.later

include seals

theorem keepsSealed_rotate (id : Int) (text keyPrefix : String) :
    KeepsSealed (orDatabaseError (Storage.rotateApiKey state.env id
      (state.storeHash text) keyPrefix)) := by
  apply Moves.mapError
  exact keepsSealed_modify fun _ => .inl (seals text)

theorem keepsSealed_rotateOwnKey (id : Int) :
    KeepsSealed (rotateOwnKey state id) := by
  apply keepsSealed_newRawKey
  intro rawKey
  apply keepsSealed_bind (keepsSealed_rotate seals id _ _)
  intro found
  cases found with
  | none => exact moves_fail (fun _ => .refl _) _
  | some record => exact moves_pure (fun _ => .refl _) _

theorem keepsSealed_rotateSystemKey (req : CreateApiKeyRequest)
    (text keyPrefix : String) :
    KeepsSealed (rotateSystemKey state req (state.storeHash text)
      keyPrefix) := by
  unfold rotateSystemKey
  split
  · apply keepsSealed_bind (keepsSealed_query _).attempt
    intro existing
    cases existing with
    | error error => exact moves_pure (fun _ => .refl _) _
    | ok existing =>
        cases found : existing.find? (·.emailAddress == "") with
        | none =>
            simp only [found]
            exact moves_pure (fun _ => .refl _) _
        | some row =>
            simp only [found]
            exact keepsSealed_rotate seals row.id text keyPrefix
  · exact moves_pure (fun _ => .refl _) _

theorem keepsSealed_createApiKey (caller : ApiKeyRecord)
    (req : CreateApiKeyRequest) :
    KeepsSealed (createApiKey state caller req) := by
  apply keepsSealed_bind (keepsSealed_check _)
  intro _
  apply keepsSealed_bind (keepsSealed_check _)
  intro _
  apply keepsSealed_bind (keepsSealed_check _)
  intro _
  apply keepsSealed_bind (keepsSealed_check _)
  intro _
  apply keepsSealed_newRawKey
  intro rawKey
  apply keepsSealed_bind (keepsSealed_check _)
  intro _
  apply keepsSealed_bind (keepsSealed_check _)
  intro _
  apply keepsSealed_bind (keepsSealed_check _)
  intro _
  apply keepsSealed_bind (keepsSealed_rotateSystemKey seals req _ _)
  intro rotated
  cases rotated with
  | some record => exact moves_pure (fun _ => .refl _) _
  | none =>
      apply keepsSealed_bind (keepsSealed_insert (seals _)).mapError
      exact fun record => moves_pure (fun _ => .refl _) _

theorem keepsSealed_updateApiKey (caller : ApiKeyRecord) (id : Int)
    (req : UpdateApiKeyRequest) :
    KeepsSealed (updateApiKey state caller id req) := by
  unfold updateApiKey
  split
  · split
    · exact keepsSealed_rotateOwnKey seals id
    · split
      · exact moves_fail (fun _ => .refl _) _
      · apply keepsSealed_bind (keepsSealed_query _).mapError
        intro found
        cases found with
        | none => exact moves_fail (fun _ => .refl _) _
        | some existing =>
            apply keepsSealed_bind (keepsSealed_check _)
            intro _
            have kept : KeepsSealed
                (Storage.updateApiKey state.env id none req.isActive) :=
              keepsSealed_modify fun _ => .inr rfl
            apply keepsSealed_bind kept.mapError
            intro updated
            cases updated with
            | none => exact moves_fail (fun _ => .refl _) _
            | some record => exact moves_pure (fun _ => .refl _) _
  · split
    · split
      · exact moves_fail (fun _ => .refl _) _
      · split
        · exact moves_fail (fun _ => .refl _) _
        · exact keepsSealed_rotateOwnKey seals id
    · exact moves_fail (fun _ => .refl _) _

omit seals in
theorem keepsSealed_deleteApiKey (caller : ApiKeyRecord) (id : Int) :
    KeepsSealed (deleteApiKey state caller id) := by
  apply keepsSealed_bind (keepsSealed_check _)
  intro _
  apply keepsSealed_bind (keepsSealed_query _).mapError
  intro found
  cases found with
  | none => exact moves_fail (fun _ => .refl _) _
  | some existing =>
      apply keepsSealed_bind (keepsSealed_check _)
      exact fun _ => (keepsSealed_delete id).mapError

theorem keepsSealed_provision (existing : List ApiKeyRecord)
    (note bootstrapId address : String) (scopes : List String)
    (category : String) :
    KeepsSealed (setupAdminKey.provision state existing note bootstrapId
      address scopes category) := by
  unfold setupAdminKey.provision
  split
  · apply keepsSealed_bind (moves_newUuid SealsOnly.refl)
    intro rawKey
    apply keepsSealed_bind (keepsSealed_insert (seals _)).mapError
    exact fun _ => moves_pure (fun _ => .refl _) _
  · exact moves_pure (fun _ => .refl _) _

theorem keepsSealed_setupAdminKey (bootstrapId : String)
    (provisionSystemKey : Bool) :
    KeepsSealed (setupAdminKey state bootstrapId provisionSystemKey) := by
  apply keepsSealed_bind (keepsSealed_query _).mapError
  intro existing
  apply keepsSealed_bind (keepsSealed_provision seals _ _ _ _ _ _)
  intro adminKey
  split
  · apply keepsSealed_bind (keepsSealed_query _).mapError
    intro existing
    apply keepsSealed_bind (keepsSealed_provision seals _ _ _ _ _ _)
    exact fun systemKey => moves_pure (fun _ => .refl _) _
  · exact moves_pure (fun _ => .refl _) _

end Handlers

/-! ## Runs after start-up -/

inductive KeyCall where
  | create (caller : ApiKeyRecord) (req : CreateApiKeyRequest)
  | update (caller : ApiKeyRecord) (id : Int) (req : UpdateApiKeyRequest)
  | delete (caller : ApiKeyRecord) (id : Int)
  | rotateOwn (id : Int)
  | bootstrap (bootstrapId : String) (provisionSystemKey : Bool)
  | activate (code emailAddress : String)
  | reseal
  /-- Another statement: it may re-point, touch or align keys. -/
  | other
  deriving DecidableEq, Repr

inductive KeyCallStep (state : HttpState) (sealKey : Option Cipher) :
    World → KeyCall → World → Prop where
  | create (before : World) (caller : ApiKeyRecord)
      (req : CreateApiKeyRequest) :
      KeyCallStep state sealKey before (.create caller req)
        ((createApiKey state caller req).run before).2
  | update (before : World) (caller : ApiKeyRecord) (id : Int)
      (req : UpdateApiKeyRequest) :
      KeyCallStep state sealKey before (.update caller id req)
        ((updateApiKey state caller id req).run before).2
  | delete (before : World) (caller : ApiKeyRecord) (id : Int) :
      KeyCallStep state sealKey before (.delete caller id)
        ((deleteApiKey state caller id).run before).2
  | rotateOwn (before : World) (id : Int) :
      KeyCallStep state sealKey before (.rotateOwn id)
        ((rotateOwnKey state id).run before).2
  | bootstrap (before : World) (bootstrapId : String)
      (provisionSystemKey : Bool) :
      KeyCallStep state sealKey before
        (.bootstrap bootstrapId provisionSystemKey)
        ((setupAdminKey state bootstrapId provisionSystemKey).run before).2
  | activate (before : World) (code emailAddress : String) :
      KeyCallStep state sealKey before (.activate code emailAddress)
        ((activateAddressCode state code emailAddress).run before).2
  | reseal (before : World) :
      KeyCallStep state sealKey before .reseal
        ((resealApiKeys state.env sealKey).run before).2
  | other (before after : World)
      (kept : ∀ row ∈ after.db.apiKeys, ∃ old ∈ before.db.apiKeys,
        row.keyHash = old.keyHash) :
      KeyCallStep state sealKey before .other after

/-- The condition on the calls: no activation gets as far as storing its
key. -/
def MintsNothing (state : HttpState) (before : World) : KeyCall → Prop
  | .activate code emailAddress => ∀ row,
      claimedCode state code emailAddress before = some row →
        ¬(state.env.fault (before.tick + 6) = none ∧
          KeyFits state emailAddress row.systemId before)
  | _ => True

/-- Encryption does not fail. -/
def Cipher.Encrypts (cipher : Cipher) : Prop :=
  ∀ plaintext, ∃ text, cipher.encrypt plaintext = .ok text

section Runs

variable {cipher : Cipher} {state : HttpState}

theorem isSealed_storeHash (encrypts : cipher.Encrypts) (text : String) :
    isSealed (storeHash (some cipher) text) = true := by
  rcases encrypts text with ⟨encrypted, outcome⟩
  have done : sealIfLoaded (some cipher) text =
      some (sealPrefix ++ encrypted) := by
    rw [sealIfLoaded_some, sealText, outcome]
    rfl
  rw [storeHash, done]
  exact isSealed_append encrypted

theorem resealRows_sealed {rows : List ApiKeyRecord} {keys after : ApiKeys}
    (known : ∀ row ∈ keys, isSealed row.keyHash = true ∨ row ∈ rows)
    (resealed : resealRows cipher rows keys = .ok after) :
    ∀ row ∈ after, isSealed row.keyHash = true := by
  induction rows generalizing keys with
  | nil =>
      cases resealed
      intro row member
      exact (known row member).resolve_right List.not_mem_nil
  | cons head rest induction =>
      rw [resealRows] at resealed
      split at resealed
      · next done =>
          refine induction ?_ resealed
          intro row member
          rcases known row member with sealed | pending
          · exact .inl sealed
          · rcases List.mem_cons.mp pending with same | later
            · rw [same]
              exact .inl done
            · exact .inr later
      · split at resealed
        · cases resealed
        · next sealed outcome =>
            split at resealed
            · next middle updated =>
                refine induction ?_ resealed
                intro row member
                rcases (Table.mem_of_update? updated).mp member with
                  ⟨old, there, equal⟩
                split at equal
                · rw [← equal]
                  exact .inl (isSealed_sealText outcome)
                · next different =>
                    rw [← equal]
                    rcases known old there with done | pending
                    · exact .inl done
                    · rcases List.mem_cons.mp pending with same | later
                      · exact absurd (by simp [same]) different
                      · exact .inr later
            · cases resealed

theorem resealApiKeys_ends (world : World) :
    (resealApiKeys state.env (some cipher)).Ends
      (fun _ later => AllSealed later.db)
      (fun _ later => later.db = world.db) world := by
  rw [resealApiKeys, ends_call]
  refine ⟨fun _ _ => rfl, fun _ => ⟨fun _ _ => rfl, ?_⟩⟩
  intro counts db outcome
  split at outcome
  · cases outcome
  · next keys resealed =>
      cases outcome
      exact resealRows_sealed (fun row member => .inr member) resealed

theorem KeyCallStep.allSealed (encrypts : cipher.Encrypts)
    (loaded : state.storeHash = storeHash (some cipher))
    {before after : World} {call : KeyCall}
    (step : KeyCallStep state (some cipher) before call after)
    (mintsNothing : MintsNothing state before call)
    (all : AllSealed before.db) : AllSealed after.db := by
  have seals : ∀ text, isSealed (state.storeHash text) = true := by
    rw [loaded]
    exact isSealed_storeHash encrypts
  cases step with
  | create caller req =>
      exact (keepsSealed_createApiKey seals caller req before).allSealed all
  | update caller id req =>
      exact (keepsSealed_updateApiKey seals caller id req before).allSealed all
  | delete caller id =>
      exact (keepsSealed_deleteApiKey caller id before).allSealed all
  | rotateOwn id =>
      exact (keepsSealed_rotateOwnKey seals id before).allSealed all
  | bootstrap bootstrapId provisionSystemKey =>
      exact (keepsSealed_setupAdminKey seals bootstrapId provisionSystemKey
        before).allSealed all
  | activate code emailAddress =>
      have kept : (activateAddressCode state code emailAddress).Ends
          (fun _ later => AllSealed later.db)
          (fun _ later => AllSealed later.db) before := by
        apply activateAddressCode_ends
        · intro _ error later same
          rw [same]
          exact all
        · intro _ _ _ codes error later _ same
          rw [same]
          exact all
        · intro row claims works fits
          exact absurd ⟨works, fits⟩ (mintsNothing row claims)
      exact kept.after
  | reseal =>
      have ends : (resealApiKeys state.env (some cipher)).Ends
          (fun _ later => AllSealed later.db)
          (fun _ later => later.db = before.db) before :=
        resealApiKeys_ends before
      have kept := ends.mono (fun _ _ sealed => sealed)
        fun error later (same : later.db = before.db) => by
          rw [← same] at all
          exact all
      exact kept.after
  | other _ kept =>
      intro row member
      rcases kept row member with ⟨old, there, same⟩
      rw [same]
      exact all old there

end Runs

/-- Once the migration has run, and as long as no activation stores a key, no
key is stored as the bare digest of a raw key. -/
theorem sealedAtRest (state : HttpState) (cipher : Cipher)
    (encrypts : cipher.Encrypts)
    (loaded : state.storeHash = storeHash (some cipher))
    (digest : ∀ rawKey, isSealed (state.sha256Hex rawKey) = false)
    {start first last : World} {counts : Nat × Nat} {calls : List KeyCall}
    (resealed : (resealApiKeys state.env (some cipher)).run start =
      (.ok counts, first))
    (run : Run (Guarded (MintsNothing state)
      (KeyCallStep state (some cipher))) first calls last) :
    AllSealed last.db ∧ ∀ row ∈ last.db.apiKeys, ∀ rawKey,
      row.keyHash ≠ state.sha256Hex rawKey := by
  have begun : AllSealed first.db :=
    (resealApiKeys_ends start).of_ok resealed
  have preserved : ∀ world call next, AllSealed world.db →
      Guarded (MintsNothing state) (KeyCallStep state (some cipher)) world call
        next → AllSealed next.db :=
    fun _ _ _ all step => step.2.allSealed encrypts loaded step.1 all
  have all : AllSealed last.db := run.invariant preserved begun
  refine ⟨all, ?_⟩
  intro row member rawKey bare
  have done := all row member
  rw [bare, digest] at done
  cases done

/-- A gateway with a loaded sealing key. -/
def sealingState : HttpState :=
  .base (.steady 0 "0123456789abcdef") ("d" ++ ·) (storeHash (some mirror))

/-- An activation code is out and no key is stored. -/
def sealingStart : World :=
  .start { Database.empty with
    activationCodes := ⟨[Storage.newActivationCode "daddr-1" "addr-1" "address"
      "a" "x.org" "bob@x.org" none 0], List.pairwise_singleton _ _⟩ }

theorem mirror_encrypts : mirror.Encrypts := fun _ => ⟨_, rfl⟩

/-- The key of an activation is stored as the bare digest. -/
theorem activation_stores_bare :
    ¬∀ state cipher start first last counts calls, cipher.Encrypts →
      state.storeHash = storeHash (some cipher) →
      (∀ rawKey, isSealed (state.sha256Hex rawKey) = false) →
      (resealApiKeys state.env (some cipher)).run start = (.ok counts, first) →
      Run (KeyCallStep state (some cipher)) first calls last →
        AllSealed last.db ∧ ∀ row ∈ last.db.apiKeys, ∀ rawKey,
          row.keyHash ≠ state.sha256Hex rawKey := by
  intro all
  have resealed : ((resealApiKeys sealingState.env (some mirror)).run
      sealingStart).1 = .ok (0, 0) := by
    decide +kernel
  have holds := all sealingState mirror sealingStart _ _ _ _ mirror_encrypts rfl
    digit_not_sealed (Prod.ext resealed rfl)
    (.cons (.activate _ "addr-1" "bob@x.org") (.nil _))
  have bare : ∃ row ∈ ((activateAddressCode sealingState "addr-1"
      "bob@x.org").run ((resealApiKeys sealingState.env (some mirror)).run
        sealingStart).2).2.db.apiKeys.rows, isSealed row.keyHash = false := by
    decide +kernel
  rcases bare with ⟨row, member, exposed⟩
  rw [holds.1 row member] at exposed
  cases exposed

/-- A bare key is stored from before. -/
def bareStart : World :=
  { sealingStart with db := { sealingStart.db with
    apiKeys := ⟨[sampleKey 1 "a" "ann@x.org" "dold" ["agent"] "agent"],
      List.pairwise_singleton _ _⟩ } }

def resealedStart : World :=
  ((resealApiKeys sealingState.env (some mirror)).run bareStart).2

def bootstrapped : World :=
  ((setupAdminKey sealingState "a" true).run resealedStart).2

/-- The key from before and the platform key are stored sealed, and an unknown
code mints none. -/
theorem bootstrap_sealed :
    AllSealed ((activateAddressCode sealingState "addr-2" "bob@x.org").run
        bootstrapped).2.db ∧
      ∀ row ∈ ((activateAddressCode sealingState "addr-2" "bob@x.org").run
        bootstrapped).2.db.apiKeys, ∀ rawKey, row.keyHash ≠ "d" ++ rawKey := by
  have resealed : ((resealApiKeys sealingState.env (some mirror)).run
      bareStart).1 = .ok (1, 0) := by
    decide +kernel
  have nothing (world : World) :
      MintsNothing sealingState world (.bootstrap "a" true) := trivial
  have unknown : MintsNothing sealingState bootstrapped
      (.activate "addr-2" "bob@x.org") := by
    intro row claimed
    have none : claimedCode sealingState "addr-2" "bob@x.org" bootstrapped =
        none := by
      decide +kernel
    exact nomatch none.symm.trans claimed
  exact sealedAtRest sealingState mirror mirror_encrypts rfl digit_not_sealed
    (Prod.ext resealed rfl)
    (.cons ⟨nothing _, .bootstrap _ "a" true⟩
      (.cons ⟨unknown, .activate _ "addr-2" "bob@x.org"⟩ (.nil _)))

end AimailGateway.Seal
