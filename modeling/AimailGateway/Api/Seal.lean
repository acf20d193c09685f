import AimailGateway.Api.Signature
import AimailGateway.Library.Execution
import AimailGateway.Storage.ApiKeys
import Mathlib.Data.List.Forall2

/-! # Sealed credentials

A stored key hash is either the digest of the raw key or, behind a version
prefix, its deterministic encryption under a key derived from the admin key.
-/

namespace AimailGateway.Seal

open Library Action

/-- AES-256-GCM under one sealing key, with the nonce of the plaintext, on
base64 texts. -/
structure Cipher where
  encrypt : String → Except String String
  decrypt : String → Except String String

/-- What one sealing key encrypts it also decrypts. -/
def Cipher.Inverts (cipher : Cipher) : Prop :=
  ∀ plaintext text, cipher.encrypt plaintext = .ok text →
    cipher.decrypt text = .ok plaintext

def sealPrefix : String := "v1:"

def isSealed (stored : String) : Bool := Text.startsWith sealPrefix stored

/-- `strip_prefix`, of a text that has it. -/
def stripSealPrefix (stored : String) : String :=
  String.ofList (stored.toList.drop sealPrefix.length)

def sealText (cipher : Cipher) (plaintext : String) : Except String String :=
  (cipher.encrypt plaintext).map (sealPrefix ++ ·)

def openText (cipher : Cipher) (stored : String) : Except String String :=
  if isSealed stored then cipher.decrypt (stripSealPrefix stored)
  else .error "not a sealed value"

/-- What signatures are verified with. -/
def signingMaterial (sealKey : Option Cipher) (stored : String) :
    Except String String :=
  if isSealed stored then
    match sealKey with
    | none => .error ("credential is sealed but no platform admin key is " ++
        "available to open it")
    | some cipher => openText cipher stored
  else .ok stored

def sealIfLoaded (sealKey : Option Cipher) (plaintext : String) :
    Option String :=
  sealKey.bind fun cipher => (sealText cipher plaintext).toOption

/-- Without a sealing key, or when sealing fails, the bare hash is stored. -/
def storeHash (sealKey : Option Cipher) (rawHash : String) : String :=
  (sealIfLoaded sealKey rawHash).getD rawHash

/-! ## Statements -/

def setKeyHash (keyHash : String) (row : ApiKeyRecord) : ApiKeyRecord :=
  { row with keyHash := keyHash }

/-- The loop of the migration over the rows it has read. -/
def resealRows (cipher : Cipher) :
    List ApiKeyRecord → ApiKeys → Except AppError ApiKeys
  | [], keys => .ok keys
  | row :: rest, keys =>
      if isSealed row.keyHash then resealRows cipher rest keys
      else
        match sealText cipher row.keyHash with
        | .error error => .error (.internal ("seal failed: " ++ error))
        | .ok sealed =>
            match keys.update? (·.id == row.id) (setKeyHash sealed) with
            | some keys => resealRows cipher rest keys
            | none => .error constraintFailed

/-- Seal the bare hashes of the table, in one transaction; the answer is how
many were sealed and how many already were. -/
def resealApiKeys (env : Surroundings) (sealKey : Option Cipher) :
    Storage (Nat × Nat) :=
  match sealKey with
  | none => fail (.internal
      "seal key not loaded — refusing to reseal credentials")
  | some cipher => call env fun db =>
      match resealRows cipher db.apiKeys.rows db.apiKeys with
      | .error error => .error error
      | .ok apiKeys =>
          .ok ((db.apiKeys.rows.countP (!isSealed ·.keyHash),
            db.apiKeys.rows.countP (isSealed ·.keyHash)), { db with apiKeys })

def isLive (clock : String) (row : ApiKeyRecord) : Bool :=
  row.isActive && row.expiresAt.all fun expiry => decide (clock < expiry)

/-- The row is a live key stored in either form of the hash. -/
def matchesHash (sealKey : Option Cipher) (clock keyHash : String)
    (row : ApiKeyRecord) : Bool :=
  (row.keyHash == (sealIfLoaded sealKey keyHash).getD keyHash ||
    row.keyHash == keyHash) && row.isActive &&
    row.expiresAt.all fun expiry => decide (clock < expiry)

/-- The two forms of a hash, in the order of the index on `key_hash`. -/
def hashForms (sealKey : Option Cipher) (keyHash : String) : List String :=
  let sealed := (sealIfLoaded sealKey keyHash).getD keyHash
  if sealed < keyHash then [sealed, keyHash] else [keyHash, sealed]

/-- `WHERE key_hash IN (...) ... LIMIT 1`, which goes through the index. -/
def firstByHash (sealKey : Option Cipher) (clock keyHash : String)
    (keys : ApiKeys) : Option ApiKeyRecord :=
  (hashForms sealKey keyHash).findSome? fun form =>
    keys.find? fun row => row.keyHash == form && isLive clock row

/-- `clock` is the moment the query runs, as SQLite writes it. -/
def verifyApiKey (env : Surroundings) (sealKey : Option Cipher)
    (clock keyHash : String) : Storage (Option ApiKeyRecord) := do
  let time ← now env
  call env fun db =>
    match firstByHash sealKey clock keyHash db.apiKeys with
    | none => .ok (none, db)
    | some record =>
        .ok (some record, { db with
          apiKeys := (db.apiKeys.update? (·.id == record.id) fun row =>
            { row with lastUsedAt := some time }).getD db.apiKeys })

/-! ## The two forms of a hash -/

section Forms

variable {cipher : Cipher}
  {plaintext sealed : String}

theorem isSealed_append (text : String) :
    isSealed (sealPrefix ++ text) = true := by
  simp [isSealed, Text.startsWith]

theorem strip_append (text : String) :
    stripSealPrefix (sealPrefix ++ text) = text := by
  unfold stripSealPrefix
  rw [String.toList_append, show sealPrefix.length = sealPrefix.toList.length
    from rfl, List.drop_left]
  exact String.ofList_toList

theorem sealText_spec (outcome : sealText cipher plaintext = .ok sealed) :
    ∃ text, cipher.encrypt plaintext = .ok text ∧ sealed = sealPrefix ++ text := by
  unfold sealText at outcome
  cases encrypted : cipher.encrypt plaintext with
  | error error =>
      rw [encrypted] at outcome
      cases outcome
  | ok text =>
      rw [encrypted] at outcome
      cases outcome
      exact ⟨text, rfl, rfl⟩

theorem isSealed_sealText (outcome : sealText cipher plaintext = .ok sealed) :
    isSealed sealed = true := by
  rcases sealText_spec outcome with ⟨text, _, equal⟩
  rw [equal]
  exact isSealed_append text

theorem openText_sealText (inverts : cipher.Inverts)
    (outcome : sealText cipher plaintext = .ok sealed) :
    openText cipher sealed = .ok plaintext := by
  rcases sealText_spec outcome with ⟨text, encrypted, equal⟩
  rw [openText, if_pos (isSealed_sealText outcome), equal, strip_append]
  exact inverts plaintext text encrypted

theorem sealText_injective (inverts : cipher.Inverts)
    {first second sealed : String} (one : sealText cipher first = .ok sealed)
    (two : sealText cipher second = .ok sealed) : first = second := by
  have opened := openText_sealText inverts one
  rw [openText_sealText inverts two] at opened
  exact (Except.ok.inj opened).symm

/-- Two stored texts are one hash: they are equal, or one seals the other. -/
def SameMaterial (cipher : Cipher) (first second : String) : Prop :=
  first = second ∨
    (isSealed first = false ∧ sealText cipher first = .ok second) ∨
    (isSealed second = false ∧ sealText cipher second = .ok first)

theorem SameMaterial.symm {first second : String}
    (same : SameMaterial cipher first second) :
    SameMaterial cipher second first := by
  rcases same with equal | seals | seals
  · exact .inl equal.symm
  · exact .inr (.inr seals)
  · exact .inr (.inl seals)

theorem SameMaterial.trans (inverts : cipher.Inverts)
    {first second third : String} (early : SameMaterial cipher first second)
    (late : SameMaterial cipher second third) :
    SameMaterial cipher first third := by
  rcases early with equal | ⟨bare, seals⟩ | ⟨bare, seals⟩
  · rw [equal]
    exact late
  · rcases late with equal | ⟨other, _⟩ | ⟨_, others⟩
    · rw [← equal]
      exact .inr (.inl ⟨bare, seals⟩)
    · rw [isSealed_sealText seals] at other
      cases other
    · exact .inl (sealText_injective inverts seals others)
  · rcases late with equal | ⟨_, others⟩ | ⟨other, others⟩
    · rw [← equal]
      exact .inr (.inr ⟨bare, seals⟩)
    · rw [seals, Except.ok.injEq] at others
      exact .inl others
    · rw [isSealed_sealText others] at bare
      cases bare

theorem signingMaterial_sealed (inverts : cipher.Inverts)
    (bare : isSealed plaintext = false)
    (outcome : sealText cipher plaintext = .ok sealed) :
    signingMaterial (some cipher) plaintext =
      signingMaterial (some cipher) sealed := by
  rw [signingMaterial, signingMaterial, bare, isSealed_sealText outcome,
    if_neg Bool.false_ne_true, if_pos rfl]
  exact (openText_sealText inverts outcome).symm

theorem SameMaterial.signing (inverts : cipher.Inverts) {first second : String}
    (same : SameMaterial cipher first second) :
    signingMaterial (some cipher) first =
      signingMaterial (some cipher) second := by
  rcases same with equal | ⟨bare, outcome⟩ | ⟨bare, outcome⟩
  · rw [equal]
  · exact signingMaterial_sealed inverts bare outcome
  · exact (signingMaterial_sealed inverts bare outcome).symm

def lookedUp (cipher : Cipher) (keyHash stored : String) : Prop :=
  stored = (sealIfLoaded (some cipher) keyHash).getD keyHash ∨
    stored = keyHash

theorem sealIfLoaded_some :
    sealIfLoaded (some cipher) plaintext = some sealed ↔
      sealText cipher plaintext = .ok sealed := by
  rw [sealIfLoaded, Option.bind_some]
  cases sealText cipher plaintext <;> simp [Except.toOption]

theorem lookedUp_iff {keyHash stored : String} :
    lookedUp cipher keyHash stored ↔
      stored = keyHash ∨ sealText cipher keyHash = .ok stored := by
  unfold lookedUp
  cases sealed : sealIfLoaded (some cipher) keyHash with
  | none =>
      have fails : sealText cipher keyHash ≠ .ok stored := by
        rw [Ne, ← sealIfLoaded_some, sealed]
        nofun
      simp [fails]
  | some text =>
      rw [sealIfLoaded_some] at sealed
      rw [sealed, Option.getD_some]
      simp only [Except.ok.injEq]
      constructor
      · rintro (same | same)
        · exact .inr same.symm
        · exact .inl same
      · rintro (same | same)
        · exact .inr same
        · exact .inl same.symm

theorem lookedUp_sealed (inverts : cipher.Inverts)
    {keyHash plaintext sealed : String} (digest : isSealed keyHash = false)
    (bare : isSealed plaintext = false)
    (outcome : sealText cipher plaintext = .ok sealed) :
    lookedUp cipher keyHash plaintext ↔ lookedUp cipher keyHash sealed := by
  rw [lookedUp_iff, lookedUp_iff]
  constructor
  · rintro (same | seals)
    · rw [← same]
      exact .inr outcome
    · rw [isSealed_sealText seals] at bare
      cases bare
  · rintro (same | seals)
    · rw [← same, isSealed_sealText outcome] at digest
      cases digest
    · exact .inl (sealText_injective inverts outcome seals)

theorem SameMaterial.lookup (inverts : cipher.Inverts)
    {keyHash first second : String} (digest : isSealed keyHash = false)
    (same : SameMaterial cipher first second) :
    lookedUp cipher keyHash first ↔ lookedUp cipher keyHash second := by
  rcases same with equal | ⟨bare, outcome⟩ | ⟨bare, outcome⟩
  · rw [equal]
  · exact lookedUp_sealed inverts digest bare outcome
  · exact (lookedUp_sealed inverts digest bare outcome).symm

end Forms

/-- A cipher that turns the text around. -/
def mirror : Cipher where
  encrypt := fun text => .ok (String.ofList text.toList.reverse)
  decrypt := fun text => .ok (String.ofList text.toList.reverse)

theorem mirror_inverts : mirror.Inverts := by
  intro plaintext text encrypted
  cases encrypted
  simp [mirror]

theorem digit_not_sealed (rawKey : String) : isSealed ("d" ++ rawKey) = false := by
  simp [isSealed, Text.startsWith, sealPrefix, List.isPrefixOf]

end AimailGateway.Seal
