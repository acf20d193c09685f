import AimailGateway.Api.Seal
import AimailGateway.Api.State

/-! # Resealing keeps who can authenticate

A table and a table with the same rows, each hash in either of its forms, give
the same answers to bearer lookups and to signed requests, as long as no hash is
stored in both of its forms.
-/

namespace AimailGateway.Seal

open Library Action

/-- A record without the form its hash is stored in. -/
def identity (record : ApiKeyRecord) : ApiKeyRecord := setKeyHash "" record

/-- Two rows are one key, whatever the form of its hash. -/
def SameKey (cipher : Cipher) (first second : ApiKeyRecord) : Prop :=
  SameMaterial cipher first.keyHash second.keyHash ∧
    identity first = identity second

/-- The tables hold the same keys in the same order. -/
def SameForms (cipher : Cipher) (before after : ApiKeys) : Prop :=
  List.Forall₂ (SameKey cipher) before.rows after.rows

/-- No two rows are one key. -/
def OneForm (cipher : Cipher) (keys : ApiKeys) : Prop :=
  keys.rows.Pairwise fun row other =>
    ¬ SameMaterial cipher row.keyHash other.keyHash

/-- Both ways to authenticate give the same answer on both tables. -/
structure SameMatches (cipher : Cipher) (crypto : Auth.Crypto)
    (sha256Hex : String → String) (before after : ApiKeys) : Prop where
  bearer : ∀ clock rawKey,
    (firstByHash (some cipher) clock (sha256Hex rawKey) before).map identity =
      (firstByHash (some cipher) clock (sha256Hex rawKey) after).map identity
  signature : ∀ address clock method path timestamp body providedSig,
    (Auth.verifyRequestSignature crypto
        (Auth.listApiKeysByIdentity address clock before.rows)
        method path timestamp body providedSig).map identity =
      (Auth.verifyRequestSignature crypto
        (Auth.listApiKeysByIdentity address clock after.rows)
        method path timestamp body providedSig).map identity

section Matches

variable {cipher : Cipher} {crypto : Auth.Crypto}
  {sha256Hex : String → String} {first second third : ApiKeys}
  {before after : List ApiKeyRecord}

theorem SameForms.refl (keys : ApiKeys) : SameForms cipher keys keys :=
  List.forall₂_same.mpr fun _ _ => ⟨.inl rfl, rfl⟩

theorem SameForms.trans (inverts : cipher.Inverts)
    (early : SameForms cipher first second)
    (late : SameForms cipher second third) : SameForms cipher first third := by
  rw [SameForms] at early late ⊢
  generalize first.rows = one at early ⊢
  generalize second.rows = two at early late
  generalize third.rows = last at late ⊢
  induction early generalizing last with
  | nil => exact late
  | cons key rest induction =>
      cases late with
      | cons other others =>
          exact .cons ⟨key.1.trans inverts other.1, key.2.trans other.2⟩
            (induction _ others)

theorem SameForms.oneForm (inverts : cipher.Inverts)
    (same : SameForms cipher first second) (apart : OneForm cipher first) :
    OneForm cipher second := by
  rw [OneForm] at apart ⊢
  rw [SameForms] at same
  generalize first.rows = before at same apart
  generalize second.rows = after at same
  induction same with
  | nil => exact .nil
  | @cons row other rows others key rest induction =>
      rcases List.pairwise_cons.mp apart with ⟨fresh, separate⟩
      refine .cons ?_ (induction separate)
      intro late member one
      obtain ⟨position, bound, found⟩ := List.getElem_of_mem member
      have long : position < rows.length := by
        rw [rest.length_eq]
        exact bound
      have keys := rest.get (i := position) long bound
      apply fresh _ (List.getElem_mem long)
      have through : SameMaterial cipher row.keyHash late.keyHash :=
        key.1.trans inverts one
      rw [← found] at through
      exact through.trans inverts keys.1.symm

theorem mem_hashForms {keyHash form : String} :
    form ∈ hashForms (some cipher) keyHash ↔ lookedUp cipher keyHash form := by
  rw [hashForms]
  split
  · simp [lookedUp]
  · simp [lookedUp, or_comm]

theorem firstByHash_eq {keys : ApiKeys} {clock keyHash : String}
    (digest : isSealed keyHash = false) (apart : OneForm cipher keys) :
    firstByHash (some cipher) clock keyHash keys =
      keys.find? (matchesHash (some cipher) clock keyHash) := by
  have live (row : ApiKeyRecord) :
      matchesHash (some cipher) clock keyHash row = true ↔
        lookedUp cipher keyHash row.keyHash ∧ isLive clock row = true := by
    simp [matchesHash, lookedUp, isLive, and_assoc]
  have unique : ∀ row ∈ keys.rows, ∀ other ∈ keys.rows,
      matchesHash (some cipher) clock keyHash row = true →
      matchesHash (some cipher) clock keyHash other = true → row = other := by
    intro row there other member found others
    have one : SameMaterial cipher row.keyHash other.keyHash := by
      rcases lookedUp_iff.mp ((live row).mp found).1 with first | first <;>
        rcases lookedUp_iff.mp ((live other).mp others).1 with second | second
      · exact .inl (first.trans second.symm)
      · exact .inr (.inl ⟨first ▸ digest, first ▸ second⟩)
      · exact .inr (.inr ⟨second ▸ digest, second ▸ first⟩)
      · rw [first, Except.ok.injEq] at second
        exact .inl second
    by_contra different
    have : Std.Symm fun row other : ApiKeyRecord =>
        ¬ SameMaterial cipher row.keyHash other.keyHash :=
      ⟨fun _ _ apart same => apart same.symm⟩
    exact apart.forall there member different one
  cases found : firstByHash (some cipher) clock keyHash keys with
  | none =>
      rw [firstByHash, List.findSome?_eq_none_iff] at found
      symm
      rw [Table.find?, List.find?_eq_none]
      intro row there matched
      have stored := (live row).mp matched
      have missing := found _ (mem_hashForms.mpr stored.1)
      rw [Table.find?, List.find?_eq_none] at missing
      exact missing row there (by simp [stored.2])
  | some row =>
      obtain ⟨form, listed, chosen⟩ := List.exists_of_findSome?_eq_some found
      have member := Table.mem_of_find? chosen
      simp only [Bool.and_eq_true, beq_iff_eq] at member
      have matched := (live row).mpr
        ⟨member.2.1 ▸ mem_hashForms.mp listed, member.2.2⟩
      cases other : keys.find? (matchesHash (some cipher) clock keyHash) with
      | none =>
          rw [Table.find?, List.find?_eq_none] at other
          exact absurd matched (other row member.1)
      | some second =>
          have others := Table.mem_of_find? other
          rw [unique row member.1 second others.1 matched others.2]

theorem find?_sameKey (same : List.Forall₂ (SameKey cipher) before after)
    {test : ApiKeyRecord → Bool}
    (agrees : ∀ row other, SameKey cipher row other → test row = test other) :
    (before.find? test).map identity = (after.find? test).map identity := by
  induction same with
  | nil => rfl
  | @cons row other rows others key rest induction =>
      rw [List.find?_cons, List.find?_cons, agrees row other key]
      cases test other with
      | true => exact congrArg some key.2
      | false => exact induction

theorem filter_sameKey (same : List.Forall₂ (SameKey cipher) before after)
    {test : ApiKeyRecord → Bool}
    (agrees : ∀ row other, SameKey cipher row other → test row = test other) :
    List.Forall₂ (SameKey cipher) (before.filter test) (after.filter test) := by
  induction same with
  | nil => exact .nil
  | @cons row other rows others key rest induction =>
      rw [List.filter_cons, List.filter_cons, agrees row other key]
      cases test other with
      | true => exact .cons key induction
      | false => exact induction

theorem SameKey.column {row other : ApiKeyRecord}
    (same : SameKey cipher row other) {β : Type} (column : ApiKeyRecord → β)
    (blind : ∀ row, column (identity row) = column row) :
    column row = column other := by
  rw [← blind row, ← blind other, same.2]

theorem matchesHash_sameKey (inverts : cipher.Inverts) {clock keyHash : String}
    (digest : isSealed keyHash = false) (row other : ApiKeyRecord)
    (same : SameKey cipher row other) :
    matchesHash (some cipher) clock keyHash row =
      matchesHash (some cipher) clock keyHash other := by
  have active := same.column (·.isActive) fun _ => rfl
  have expiry := same.column (·.expiresAt) fun _ => rfl
  have stored := same.1.lookup inverts digest
  unfold matchesHash
  rw [active, expiry]
  congr 2
  rw [Bool.eq_iff_iff]
  simpa [lookedUp] using stored

theorem listApiKeysByIdentity_sameKey
    (same : List.Forall₂ (SameKey cipher) before after)
    (address clock : String) :
    List.Forall₂ (SameKey cipher)
      (Auth.listApiKeysByIdentity address clock before)
      (Auth.listApiKeysByIdentity address clock after) := by
  unfold Auth.listApiKeysByIdentity
  split
  · exact .nil
  · let isLive (row : ApiKeyRecord) : Bool :=
      row.isActive && row.expiresAt.all fun expiry => decide (clock < expiry)
    have agrees : ∀ row other, SameKey cipher row other →
        isLive row = isLive other :=
      fun row other key => key.column isLive fun _ => rfl
    have live := filter_sameKey same agrees
    refine List.rel_append (filter_sameKey live ?_) (filter_sameKey live ?_)
    · exact fun row other key =>
        key.column (·.emailAddress == address) fun _ => rfl
    · exact fun row other key =>
        key.column (·.systemId == address) fun _ => rfl

theorem SameForms.matches (inverts : cipher.Inverts)
    (opens : crypto.signingMaterial = signingMaterial (some cipher))
    (digest : ∀ rawKey, isSealed (sha256Hex rawKey) = false)
    (apart : OneForm cipher first) (same : SameForms cipher first second) :
    SameMatches cipher crypto sha256Hex first second where
  bearer := by
    intro clock rawKey
    rw [firstByHash_eq (digest rawKey) apart,
      firstByHash_eq (digest rawKey) (same.oneForm inverts apart)]
    exact find?_sameKey same (matchesHash_sameKey inverts (digest rawKey))
  signature := by
    intro address clock method path timestamp body providedSig
    unfold Auth.verifyRequestSignature
    apply find?_sameKey (listApiKeysByIdentity_sameKey same address clock)
    intro row other key
    rw [opens, key.1.signing inverts]

end Matches

/-! ## The migration -/

section Migration

variable {cipher : Cipher}

theorem sameForms_update {keys after : ApiKeys} {row : ApiKeyRecord}
    {sealed : String} (member : row ∈ keys)
    (bare : isSealed row.keyHash = false)
    (outcome : sealText cipher row.keyHash = .ok sealed)
    (updated : keys.update? (·.id == row.id) (setKeyHash sealed) =
      some after) : SameForms cipher keys after := by
  unfold SameForms
  rw [Table.ofRows?_eq_some updated, List.forall₂_map_right_iff,
    List.forall₂_same]
  intro other there
  split
  · next chosen =>
      have same := ApiKeys.eq_of_id there member (beq_iff_eq.mp chosen)
      subst same
      exact ⟨.inr (.inl ⟨bare, outcome⟩), rfl⟩
  · exact ⟨.inl rfl, rfl⟩

theorem resealRows_sameForms (inverts : cipher.Inverts)
    {rows : List ApiKeyRecord} {keys after : ApiKeys}
    (distinct : rows.Pairwise fun row other => row.id ≠ other.id)
    (members : ∀ row ∈ rows, row ∈ keys)
    (resealed : resealRows cipher rows keys = .ok after) :
    SameForms cipher keys after := by
  induction rows generalizing keys with
  | nil =>
      cases resealed
      exact .refl _
  | cons row rest induction =>
      rcases List.pairwise_cons.mp distinct with ⟨apart, separate⟩
      rw [resealRows] at resealed
      split at resealed
      · exact induction separate
          (fun other there => members other (List.mem_cons_of_mem _ there))
          resealed
      · next bare =>
          rw [Bool.not_eq_true] at bare
          split at resealed
          · cases resealed
          · next sealed outcome =>
              split at resealed
              · next middle updated =>
                  refine (sameForms_update (members row List.mem_cons_self)
                    bare outcome updated).trans inverts
                    (induction separate ?_ resealed)
                  intro other there
                  rw [Table.mem_of_update? updated]
                  refine ⟨other, members other (List.mem_cons_of_mem _ there), ?_⟩
                  have different : other.id ≠ row.id :=
                    fun same => apart other there same.symm
                  simp [different]
              · cases resealed

theorem distinct_ids (keys : ApiKeys) :
    keys.rows.Pairwise fun row other => row.id ≠ other.id := by
  apply keys.distinct.imp
  intro row other free
  simp only [ApiKeyRecord.conflict, Bool.or_eq_false_iff,
    beq_eq_false_iff_ne] at free
  exact free.1.1

theorem resealApiKeys_sameForms (env : Surroundings) (inverts : cipher.Inverts)
    (world : World) :
    SameForms cipher world.db.apiKeys
      ((resealApiKeys env (some cipher)).run world).2.db.apiKeys := by
  have ends : (resealApiKeys env (some cipher)).Ends
      (fun _ later => SameForms cipher world.db.apiKeys later.db.apiKeys)
      (fun _ later => SameForms cipher world.db.apiKeys later.db.apiKeys)
      world := by
    rw [resealApiKeys]
    apply call_ends
    · exact fun _ => .refl _
    · intro counts db outcome
      split at outcome
      · cases outcome
      · next keys resealed =>
          cases outcome
          exact resealRows_sameForms inverts (distinct_ids _)
            (fun _ member => member) resealed
  exact ends.after

end Migration

/-! ## Maintenance of the table -/

def bearerAnswer (env : Surroundings) (cipher : Cipher) (clock keyHash : String)
    (world : World) : Except AppError (Option ApiKeyRecord) :=
  ((verifyApiKey env (some cipher) clock keyHash).run world).1

/-- Everyone authenticates in one database as in the other. -/
structure SameAnswers (env : Surroundings) (cipher : Cipher)
    (crypto : Auth.Crypto) (sha256Hex : String → String)
    (before after : Database) : Prop where
  bearer : ∀ clock rawKey tick,
    (bearerAnswer env cipher clock (sha256Hex rawKey) ⟨before, tick⟩).map
        (·.map identity) =
      (bearerAnswer env cipher clock (sha256Hex rawKey) ⟨after, tick⟩).map
        (·.map identity)
  signature : ∀ address clock method path timestamp body providedSig,
    (Auth.verifyRequestSignature crypto
        (Auth.listApiKeysByIdentity address clock before.apiKeys.rows)
        method path timestamp body providedSig).map identity =
      (Auth.verifyRequestSignature crypto
        (Auth.listApiKeysByIdentity address clock after.apiKeys.rows)
        method path timestamp body providedSig).map identity

/-- A key that answers was opened: its stored text gives the hash presented,
or the material of the signature. A key sealed under another admin key never
does. -/
structure OnlyOpened (env : Surroundings) (cipher : Cipher)
    (crypto : Auth.Crypto) (sha256Hex : String → String) (db : Database) :
    Prop where
  bearer : ∀ clock rawKey tick record,
    bearerAnswer env cipher clock (sha256Hex rawKey) ⟨db, tick⟩ =
        .ok (some record) →
      signingMaterial (some cipher) record.keyHash = .ok (sha256Hex rawKey)
  signature : ∀ address clock method path timestamp body providedSig record,
    Auth.verifyRequestSignature crypto
        (Auth.listApiKeysByIdentity address clock db.apiKeys.rows)
        method path timestamp body providedSig = some record →
      ∃ material,
        signingMaterial (some cipher) record.keyHash = .ok material ∧
          crypto.hmac material (Auth.signatureBase crypto method path timestamp
            body) = providedSig

inductive Maintenance where
  | resealed
  | rolledBack
  deriving DecidableEq, Repr

/-- The migration runs, to its end or to an error, or keys go back to another
mix of the two forms. -/
inductive MaintenanceStep (env : Surroundings) (cipher : Cipher) :
    Database → Maintenance → Database → Prop where
  | resealed (before : Database) (tick : Nat) :
      MaintenanceStep env cipher before .resealed
        ((resealApiKeys env (some cipher)).run ⟨before, tick⟩).2.db
  | rolledBack (before : Database) (apiKeys : ApiKeys)
      (same : SameForms cipher before.apiKeys apiKeys) :
      MaintenanceStep env cipher before .rolledBack
        { before with apiKeys }

section Answers

variable {env : Surroundings} {cipher : Cipher} {crypto : Auth.Crypto}
  {sha256Hex : String → String}

theorem bearerAnswer_eq (clock keyHash : String) (world : World) :
    bearerAnswer env cipher clock keyHash world =
      match env.fault (world.tick + 1) with
      | some fault => .error fault.error
      | none => .ok (firstByHash (some cipher) clock keyHash
          world.db.apiKeys) := by
  unfold bearerAnswer verifyApiKey run
  simp only [Bind.bind, now, call, World.later]
  cases env.fault (world.tick + 1) with
  | some fault => rfl
  | none =>
      cases firstByHash (some cipher) clock keyHash world.db.apiKeys with
      | none => rfl
      | some record => rfl

theorem SameMatches.answers {before after : Database}
    (same : SameMatches cipher crypto sha256Hex before.apiKeys after.apiKeys) :
    SameAnswers env cipher crypto sha256Hex before after where
  bearer := by
    intro clock rawKey tick
    rw [bearerAnswer_eq, bearerAnswer_eq]
    cases env.fault (tick + 1) with
    | some fault => rfl
    | none => exact congrArg Except.ok (same.bearer clock rawKey)
  signature := same.signature

theorem onlyOpened (inverts : cipher.Inverts)
    (opens : crypto.signingMaterial = signingMaterial (some cipher))
    (digest : ∀ rawKey, isSealed (sha256Hex rawKey) = false) (db : Database) :
    OnlyOpened env cipher crypto sha256Hex db where
  bearer := by
    intro clock rawKey tick record answer
    rw [bearerAnswer_eq] at answer
    split at answer
    · cases answer
    · obtain ⟨form, listed, found⟩ :=
        List.exists_of_findSome?_eq_some (Except.ok.inj answer)
      have chosen := (Table.mem_of_find? found).2
      simp only [Bool.and_eq_true, beq_iff_eq] at chosen
      have stored : lookedUp cipher (sha256Hex rawKey) record.keyHash := by
        rw [chosen.1]
        exact mem_hashForms.mp listed
      rcases lookedUp_iff.mp stored with same | seals
      · rw [same, signingMaterial, digest, if_neg Bool.false_ne_true]
      · rw [← signingMaterial_sealed inverts (digest rawKey) seals,
          signingMaterial, digest, if_neg Bool.false_ne_true]
  signature := by
    intro address clock method path timestamp body providedSig record answer
    have chosen := List.find?_some answer
    rw [opens] at chosen
    split at chosen
    · next material opened => exact ⟨material, opened, beq_iff_eq.mp chosen⟩
    · cases chosen

end Answers

/-- However often the migration runs and keys are rolled back, everyone
authenticates as before, with keys that open. -/
theorem maintenance_sameAnswers (env : Surroundings) (cipher : Cipher)
    (crypto : Auth.Crypto) (sha256Hex : String → String)
    (inverts : cipher.Inverts)
    (opens : crypto.signingMaterial = signingMaterial (some cipher))
    (digest : ∀ rawKey, isSealed (sha256Hex rawKey) = false)
    {origin last : Database} {steps : List Maintenance}
    (apart : OneForm cipher origin.apiKeys)
    (run : Run (MaintenanceStep env cipher) origin steps last) :
    SameAnswers env cipher crypto sha256Hex origin last ∧
      OnlyOpened env cipher crypto sha256Hex last := by
  have related : ∀ before label after,
      MaintenanceStep env cipher before label after →
        SameForms cipher before.apiKeys after.apiKeys := by
    intro before label after step
    cases step with
    | resealed tick => exact resealApiKeys_sameForms env inverts ⟨before, tick⟩
    | rolledBack keys same => exact same
  have whole : SameForms cipher origin.apiKeys last.apiKeys :=
    run.relates (fun _ => .refl _)
      (fun earlier later => earlier.trans inverts later) related
  exact ⟨(whole.matches inverts opens digest apart).answers,
    onlyOpened inverts opens digest last⟩

def mirrorCrypto : Auth.Crypto where
  sha256Hex := fun _ => "00"
  hmac := fun key base => (key ++ base).toUTF8.toList
  signingMaterial := signingMaterial (some mirror)

def mixedKeys : ApiKeys :=
  ⟨[sampleKey 1 "a" "ann@x.org" "d1" ["agent"] "agent",
    sampleKey 2 "a" "bob@x.org" "v1:2d" ["agent"] "agent"], by decide⟩

def otherKeys : ApiKeys :=
  ⟨[setKeyHash "v1:1d" (sampleKey 1 "a" "ann@x.org" "d1" ["agent"] "agent"),
    setKeyHash "d2" (sampleKey 2 "a" "bob@x.org" "v1:2d" ["agent"] "agent")],
    by decide⟩

theorem mixedKeys_sameForms : SameForms mirror mixedKeys otherKeys := by
  refine .cons ⟨.inr (.inl ⟨?_, ?_⟩), ?_⟩ (.cons ⟨.inr (.inr ⟨?_, ?_⟩), ?_⟩ .nil)
  all_goals decide

theorem mixedKeys_oneForm : OneForm mirror mixedKeys := by
  refine .cons ?_ (.cons (by simp) .nil)
  intro other member
  rw [List.mem_singleton] at member
  subst member
  rintro (same | ⟨-, seals⟩ | ⟨bare, -⟩)
  · exact absurd same (by decide)
  · exact absurd seals (by decide)
  · exact absurd bare (by decide)

/-- Rolled back and then sealed, the keys answer as before. -/
theorem mixedKeys_answers :
    SameAnswers (.steady 0 "") mirror mirrorCrypto ("d" ++ ·)
        { Database.empty with apiKeys := mixedKeys }
        ((resealApiKeys (.steady 0 "") (some mirror)).run
          ⟨{ Database.empty with apiKeys := otherKeys }, 0⟩).2.db ∧
      OnlyOpened (.steady 0 "") mirror mirrorCrypto ("d" ++ ·)
        ((resealApiKeys (.steady 0 "") (some mirror)).run
          ⟨{ Database.empty with apiKeys := otherKeys }, 0⟩).2.db :=
  maintenance_sameAnswers (.steady 0 "") mirror mirrorCrypto ("d" ++ ·)
    mirror_inverts rfl digit_not_sealed mixedKeys_oneForm
    (.cons (.rolledBack _ otherKeys mixedKeys_sameForms)
      (.cons (.resealed _ 0) (.nil _)))

/-- A hash and its sealed form, in two rows. -/
def bothForms : ApiKeys :=
  ⟨[sampleKey 1 "a" "ann@x.org" "d1" ["agent"] "agent",
    sampleKey 2 "a" "bob@x.org" "v1:1d" ["agent"] "agent"], by decide⟩

def swappedForms : ApiKeys :=
  ⟨[setKeyHash "v1:1d" (sampleKey 1 "a" "ann@x.org" "d1" ["agent"] "agent"),
    setKeyHash "d1" (sampleKey 2 "a" "bob@x.org" "v1:1d" ["agent"] "agent")],
    by decide⟩

/-- The row that holds the bare hash is the one that answers, and a rollback
makes it the other. -/
theorem rollback_changes_answer :
    ¬ ∀ (env : Surroundings) (cipher : Cipher) (crypto : Auth.Crypto)
        (sha256Hex : String → String) (origin last : Database)
        (steps : List Maintenance), cipher.Inverts →
      crypto.signingMaterial = signingMaterial (some cipher) →
      (∀ rawKey, isSealed (sha256Hex rawKey) = false) →
      Run (MaintenanceStep env cipher) origin steps last →
      SameAnswers env cipher crypto sha256Hex origin last := by
  intro claim
  have swapped : SameForms mirror bothForms swappedForms := by
    refine .cons ⟨.inr (.inl ⟨?_, ?_⟩), ?_⟩
      (.cons ⟨.inr (.inr ⟨?_, ?_⟩), ?_⟩ .nil)
    all_goals decide
  have same := (claim (.steady 0 "") mirror mirrorCrypto ("d" ++ ·)
    { Database.empty with apiKeys := bothForms } _ _
    mirror_inverts rfl digit_not_sealed
    (.cons (.rolledBack _ swappedForms swapped) (.nil _))).bearer
      "" "1" 0
  have first : (bearerAnswer (.steady 0 "") mirror "" ("d" ++ "1")
      ⟨{ Database.empty with apiKeys := bothForms }, 0⟩).toOption.map
        (·.map (·.id)) = some (some 1) := by decide +kernel
  have second : (bearerAnswer (.steady 0 "") mirror "" ("d" ++ "1")
      ⟨{ Database.empty with apiKeys := swappedForms }, 0⟩).toOption.map
        (·.map (·.id)) = some (some 2) := by decide +kernel
  have forget (answer : Except AppError (Option ApiKeyRecord)) :
      (answer.map (·.map identity)).toOption.map (·.map (·.id)) =
        answer.toOption.map (·.map (·.id)) := by
    rcases answer with error | none | record <;> rfl
  have ids := congrArg (fun answer => answer.toOption.map (·.map (·.id))) same
  have changed := first.symm.trans
    ((forget _).symm.trans (ids.trans ((forget _).trans second)))
  exact absurd changed (by decide)

end AimailGateway.Seal
