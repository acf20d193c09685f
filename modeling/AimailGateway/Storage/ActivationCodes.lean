import AimailGateway.Storage.Call

/-! # Statements on `activation_codes` -/

namespace AimailGateway

open Library

namespace Storage

section Statements

variable (env : Surroundings)

def newActivationCode (codeHash codePrefix codeType systemId domain emailAddress :
    String) (expiresAt : Option Timestamp) (createdAt : Timestamp) :
    ActivationCodeRecord where
  codeHash := codeHash
  codePrefix := codePrefix
  codeType := codeType
  systemId := systemId
  domain := domain
  emailAddress := emailAddress
  claimed := false
  claimedAt := none
  claimedBy := none
  expiresAt := expiresAt
  isFrozen := false
  createdAt := createdAt

def insertActivationCode (codeHash codePrefix codeType systemId domain
    emailAddress : String) (expiresAt : Option Timestamp) : Storage Unit := do
  let createdAt ← now env
  call env fun db =>
    match db.activationCodes.insert? (newActivationCode codeHash codePrefix
        codeType systemId domain emailAddress expiresAt createdAt) with
    | some activationCodes => .ok ((), { db with activationCodes })
    | none => .error constraintFailed

/-- `expires_at > strftime('%Y-%m-%dT%H:%M:%SZ','now')`: the fraction of the
stored second sorts before the `Z` of the present one. -/
def isExpired (time : Timestamp) (code : ActivationCodeRecord) : Bool :=
  match code.expiresAt with
  | none => false
  | some expiresAt => expiresAt / 1000 ≤ time / 1000

/-- The system and the bound address of an unclaimed, unfrozen, unexpired
code. -/
def lookupActivationCode (codeHash : String) :
    Storage (Option (String × String)) := do
  let time ← now env
  let code ← query env fun db => db.activationCodes.find? fun code =>
    code.codeHash == codeHash && !code.claimed && !code.isFrozen &&
      !isExpired time code
  return code.map fun code => (code.systemId, code.emailAddress)

/-- Mark a code as claimed; `false` if it already was or is gone. -/
def claimActivationCode (codeHash claimedBy : String) : Storage Bool := do
  let time ← now env
  call env fun db =>
    let unclaimed (code : ActivationCodeRecord) : Bool :=
      code.codeHash == codeHash && !code.claimed
    match db.activationCodes.update? unclaimed fun code =>
        { code with
          claimed := true
          claimedAt := some time
          claimedBy := some claimedBy } with
    | some activationCodes =>
        .ok (db.activationCodes.rows.any unclaimed, { db with activationCodes })
    | none => .error constraintFailed

def deleteActivationCode (codeHash : String) : Storage Unit :=
  call env fun db =>
    .ok ((), { db with
      activationCodes := db.activationCodes.delete (·.codeHash == codeHash) })

end Statements

/-! ## What the statements do to the table -/

open Action

variable {env : Surroundings} {world : World}
  {failed : AppError → World → Prop}

theorem insertActivationCode_ends {codeHash codePrefix codeType systemId domain
    emailAddress : String} {expiresAt : Option Timestamp}
    {ok : Unit → World → Prop} (fault : AllowsFailure failed world)
    (inserted : ∀ createdAt activationCodes later,
      world.db.activationCodes.insert? (newActivationCode codeHash codePrefix
        codeType systemId domain emailAddress expiresAt createdAt) =
          some activationCodes →
      later.db = { world.db with activationCodes } → ok () later) :
    (insertActivationCode env codeHash codePrefix codeType systemId domain
      emailAddress expiresAt).Ends ok failed world := by
  rw [insertActivationCode, ends_bind, ends_now]
  apply call_ends
  · exact fun error => fault error _ rfl
  · intro answer db outcome
    simp only [World.later_db] at outcome
    split at outcome
    · next activationCodes insertion =>
        cases outcome
        exact inserted _ activationCodes _ insertion rfl
    · cases outcome

theorem lookupActivationCode_ends {codeHash : String}
    {ok : Option (String × String) → World → Prop}
    (fault : AllowsFailure failed world)
    (missing : ∀ later, later.db = world.db → ok none later)
    (found : ∀ code ∈ world.db.activationCodes, code.codeHash = codeHash →
      ∀ later, later.db = world.db →
      ok (some (code.systemId, code.emailAddress)) later) :
    (lookupActivationCode env codeHash).Ends ok failed world := by
  rw [lookupActivationCode, ends_bind, ends_now, ends_bind]
  apply find_ends
  · exact fun error => fault error _ rfl
  · exact fun _ => missing _ rfl
  · intro code member chosen
    simp only [Bool.and_eq_true, beq_iff_eq] at chosen
    exact found code member chosen.1.1.1 _ rfl

end Storage

end AimailGateway
