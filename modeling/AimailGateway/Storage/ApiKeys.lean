import AimailGateway.Storage.Call

/-! # Statements on `api_keys` -/

namespace AimailGateway

open Library

namespace Storage

def nextApiKeyId (db : Database) : Int :=
  nextRowid db.apiKeySequence (db.apiKeys.rows.map (·.id))

variable {row : ApiKeyRecord}

theorem lt_nextApiKeyId {db : Database}
    (member : row ∈ db.apiKeys) : row.id < nextApiKeyId db :=
  lt_nextRowid (List.mem_map_of_mem member)

theorem sequence_lt_nextApiKeyId (db : Database) :
    db.apiKeySequence < nextApiKeyId db :=
  sequence_lt_nextRowid _ _

section Statements

variable (env : Surroundings)

/-- The row `insert_api_key` writes into a database. -/
def newApiKey (db : Database) (systemId emailAddress keyHash keyPrefix : String)
    (scopes : List String) (expiresAt : Option String) (category : String)
    (createdAt : Timestamp) : ApiKeyRecord where
  id := nextApiKeyId db
  systemId := systemId
  emailAddress := emailAddress
  keyHash := keyHash
  keyPrefix := keyPrefix
  scopes := scopes
  isActive := true
  createdAt := createdAt
  expiresAt := expiresAt
  lastUsedAt := none
  category := category

def insertApiKey (systemId emailAddress keyHash keyPrefix : String)
    (scopes : List String) (expiresAt : Option String) (category : String) :
    Storage ApiKeyRecord := do
  let createdAt ← now env
  call env fun db =>
    let record := newApiKey db systemId emailAddress keyHash keyPrefix scopes
      expiresAt category createdAt
    match db.apiKeys.insert? record with
    | some apiKeys =>
        .ok (record, { db with apiKeys, apiKeySequence := record.id })
    | none => .error constraintFailed

def listApiKeys : Storage (List ApiKeyRecord) :=
  query env fun db => db.apiKeys.rows

def getApiKey (id : Int) : Storage (Option ApiKeyRecord) :=
  query env fun db => db.apiKeys.find? (·.id == id)

/-- Change the row with the given id and return it, in one transaction. -/
def modifyApiKey (id : Int) (change : ApiKeyRecord → ApiKeyRecord) :
    Storage (Option ApiKeyRecord) :=
  call env fun db =>
    match db.apiKeys.find? (·.id == id) with
    | none => .ok (none, db)
    | some record =>
        match db.apiKeys.update? (·.id == record.id) change with
        | some apiKeys => .ok (some (change record), { db with apiKeys })
        | none => .error constraintFailed

def updateApiKey (id : Int) (scopes : Option (List String))
    (isActive : Option Bool) : Storage (Option ApiKeyRecord) :=
  modifyApiKey env id fun record =>
    { record with
      scopes := scopes.getD record.scopes
      isActive := isActive.getD record.isActive }

def deleteApiKey (id : Int) : Storage Unit :=
  call env fun db =>
    .ok ((), { db with apiKeys := db.apiKeys.delete (·.id == id) })

/-- Replace the secret of a key; everything else, its scopes included, stays. -/
def rotateApiKey (id : Int) (newKeyHash newKeyPrefix : String) :
    Storage (Option ApiKeyRecord) :=
  modifyApiKey env id fun record =>
    { record with keyHash := newKeyHash, keyPrefix := newKeyPrefix }

def listApiKeysBySystem (systemId category : String) :
    Storage (List ApiKeyRecord) :=
  query env fun db =>
    db.apiKeys.select fun row =>
      row.systemId == systemId && row.category == category

/-- The first active key of an address, whatever its system. -/
def getApiKeyByEmail (email : String) : Storage (Option ApiKeyRecord) :=
  query env fun db =>
    db.apiKeys.find? fun row => row.emailAddress == email && row.isActive

end Statements

/-! ## What the statements do to the table -/

open Action

variable {env : Surroundings} {world : World}
  {failed : AppError → World → Prop} {ok : Option ApiKeyRecord → World → Prop}
  {change : ApiKeyRecord → ApiKeyRecord}
  {systemId emailAddress keyHash keyPrefix : String} {id : Int}
  {expiresAt : Option String}

theorem insertApiKey_ends {scopes : List String} {category : String}
    {ok : ApiKeyRecord → World → Prop} (fault : AllowsFailure failed world)
    (inserted : ∀ createdAt apiKeys later,
      let record := newApiKey world.db systemId emailAddress keyHash keyPrefix
        scopes expiresAt category createdAt
      world.db.apiKeys.insert? record = some apiKeys →
      later.db = { world.db with apiKeys, apiKeySequence := record.id } →
      ok record later) :
    (insertApiKey env systemId emailAddress keyHash keyPrefix scopes expiresAt
      category).Ends ok failed world := by
  rw [insertApiKey, ends_bind, ends_now]
  apply call_ends
  · exact fun error => fault error _ rfl
  · intro record db outcome
    simp only [World.later_db] at outcome
    split at outcome
    · next apiKeys insertion =>
        cases outcome
        exact inserted _ apiKeys _ insertion rfl
    · cases outcome

theorem getApiKey_ends (fault : AllowsFailure failed world)
    (missing : (∀ row ∈ world.db.apiKeys, row.id ≠ id) →
      ∀ later, later.db = world.db → ok none later)
    (found : ∀ row ∈ world.db.apiKeys, row.id = id →
      ∀ later, later.db = world.db → ok (some row) later) :
    (getApiKey env id).Ends ok failed world := by
  apply query_ends
  · exact fun error => fault error _ rfl
  · cases search : world.db.apiKeys.find? (·.id == id) with
    | none =>
        refine missing ?_ _ rfl
        intro row member equal
        have unselected := Table.find?_eq_none.mp search row member
        simp [equal] at unselected
    | some row =>
        rcases Table.mem_of_find? search with ⟨member, selected⟩
        exact found row member (by simpa using selected) _ rfl

theorem modifyApiKey_ends (fault : AllowsFailure failed world)
    (missing : ∀ later, later.db = world.db → ok none later)
    (changed : ∀ row ∈ world.db.apiKeys, row.id = id →
      ∀ apiKeys later,
        world.db.apiKeys.update? (·.id == row.id) change = some apiKeys →
        later.db = { world.db with apiKeys } →
        ok (some (change row)) later) :
    (modifyApiKey env id change).Ends ok failed world := by
  apply call_ends
  · exact fun error => fault error _ rfl
  · intro value db outcome
    split at outcome
    · cases outcome
      exact missing _ rfl
    · next row search =>
        rcases Table.mem_of_find? search with ⟨member, selected⟩
        split at outcome
        · next apiKeys updated =>
            cases outcome
            exact changed row member (by simpa using selected) apiKeys _ updated rfl
        · cases outcome

theorem deleteApiKey_ends {ok : Unit → World → Prop}
    (fault : AllowsFailure failed world)
    (deleted : ∀ later,
      later.db =
        { world.db with apiKeys := world.db.apiKeys.delete (·.id == id) } →
      ok () later) :
    (deleteApiKey env id).Ends ok failed world := by
  apply call_ends
  · exact fun error => fault error _ rfl
  · intro value db outcome
    cases outcome
    exact deleted _ rfl

theorem slot_free_of_insert? {keys after : ApiKeys} {record : ApiKeyRecord}
    (insertion : keys.insert? record = some after) :
    ∀ row ∈ keys, row.slot ≠ record.slot := by
  intro row member same
  have free := Table.conflict_false_of_insert? insertion row member
  simp [ApiKeyRecord.conflict, same] at free

/-! ### Without faults -/

theorem find?_id {keys : ApiKeys} (member : row ∈ keys) :
    keys.find? (·.id == row.id) = some row := by
  apply Table.find?_eq_some_of_mem ApiKeyRecord.conflict_comm _ member
  · simp
  · intro other selected
    simp [ApiKeyRecord.conflict, by simpa using selected]

theorem getApiKey_calm (calm : env.Calm) (member : row ∈ world.db.apiKeys) :
    (getApiKey env row.id).Ends ok failed world ↔ ok (some row) world.later := by
  have found : world.db.apiKeys.find? (·.id == row.id) = some row :=
    find?_id member
  rw [getApiKey, calm.ends_query, found]

theorem modifyApiKey_calm (calm : env.Calm) {apiKeys : ApiKeys}
    (member : row ∈ world.db.apiKeys)
    (updated : world.db.apiKeys.update? (·.id == row.id) change = some apiKeys) :
    (modifyApiKey env row.id change).Ends ok failed world ↔
      ok (some (change row)) (world.withDb { world.db with apiKeys }) := by
  have found : world.db.apiKeys.find? (·.id == row.id) = some row :=
    find?_id member
  rw [modifyApiKey, calm.ends_call]
  rw [found]
  simp only [updated]

theorem update?_of_sameKeys {keys : ApiKeys} {selected : ApiKeyRecord → Bool}
    (same : ∀ row, (change row).id = row.id ∧
      (change row).keyHash = row.keyHash ∧ (change row).slot = row.slot) :
    ∃ after, keys.update? selected change = some after := by
  apply Table.update?_isSome
  refine keys.distinct.imp ?_
  intro first second free
  have keeps (row : ApiKeyRecord) :
      (if selected row then change row else row).id = row.id ∧
        (if selected row then change row else row).keyHash = row.keyHash ∧
        (if selected row then change row else row).slot = row.slot := by
    split
    · exact same row
    · exact ⟨rfl, rfl, rfl⟩
  rcases keeps first with ⟨firstId, firstHash, firstSlot⟩
  rcases keeps second with ⟨secondId, secondHash, secondSlot⟩
  unfold ApiKeyRecord.conflict at free ⊢
  rw [firstId, firstHash, firstSlot, secondId, secondHash, secondSlot]
  exact free

theorem update?_of_freshHash {keys : ApiKeys} {keyHash : String} (id : Int)
    (keyPrefix : String)
    (fresh : ∀ other ∈ keys, other.keyHash ≠ keyHash) :
    ∃ after, keys.update? (·.id == id)
      (fun row => { row with keyHash := keyHash, keyPrefix := keyPrefix }) =
        some after := by
  apply Table.update?_isSome
  refine keys.distinct.imp_of_mem ?_
  intro first second firstMember secondMember free
  have firstFresh := fresh first firstMember
  have secondFresh := fresh second secondMember
  simp only [ApiKeyRecord.conflict, Bool.or_eq_false_iff, beq_eq_false_iff_ne,
    ne_eq] at free ⊢
  rcases free with ⟨⟨ids, hashes⟩, slots⟩
  by_cases chosen : first.id = id
  · have other : ¬second.id = id := fun equal => ids (chosen.trans equal.symm)
    simp only [beq_iff_eq, chosen, other, if_true, if_false]
    exact ⟨⟨fun equal => other equal.symm, fun equal => secondFresh equal.symm⟩,
      slots⟩
  · by_cases later : second.id = id
    · simp only [beq_iff_eq, chosen, later, if_true, if_false]
      exact ⟨⟨not_false, firstFresh⟩, slots⟩
    · simp only [beq_iff_eq, chosen, later, if_false]
      exact ⟨⟨ids, hashes⟩, slots⟩

theorem deleteApiKey_calm (calm : env.Calm) {ok : Unit → World → Prop} :
    (deleteApiKey env id).Ends ok failed world ↔
      ok () (world.withDb
        { world.db with apiKeys := world.db.apiKeys.delete (·.id == id) }) := by
  rw [deleteApiKey, calm.ends_call rfl]

theorem insertApiKey_calm (calm : env.Calm)
    {scopes : List String} {category : String}
    (freshHash : ∀ other ∈ world.db.apiKeys, other.keyHash ≠ keyHash)
    (freeSlot : ∀ other ∈ world.db.apiKeys,
      other.slot ≠ (systemId, emailAddress)) :
    ∃ createdAt apiKeys,
      let record := newApiKey world.db systemId emailAddress keyHash keyPrefix
        scopes expiresAt category createdAt
      world.db.apiKeys.insert? record = some apiKeys ∧
      ∀ {ok : ApiKeyRecord → World → Prop} {failed : AppError → World → Prop},
        (insertApiKey env systemId emailAddress keyHash keyPrefix scopes
          expiresAt category).Ends ok failed world ↔
        ok record (world.later.withDb
          { world.db with apiKeys, apiKeySequence := record.id }) := by
  let record := newApiKey world.db systemId emailAddress keyHash keyPrefix
    scopes expiresAt category (env.clock world.tick)
  have free : ∀ other ∈ world.db.apiKeys,
      ApiKeyRecord.conflict other record = false := by
    intro other member
    have below : other.id < record.id :=
      lt_nextApiKeyId member
    simp only [ApiKeyRecord.conflict, Bool.or_eq_false_iff, beq_eq_false_iff_ne,
      ne_eq]
    refine ⟨⟨by omega, freshHash other member⟩, freeSlot other member⟩
  rcases Table.insert?_isSome free with ⟨apiKeys, insertion⟩
  refine ⟨env.clock world.tick, apiKeys, insertion, ?_⟩
  intro ok failed
  rw [insertApiKey, ends_bind, ends_now,
    calm.ends_call]
  rw [World.later_db]
  simp only
  rw [insertion]

end Storage

end AimailGateway
