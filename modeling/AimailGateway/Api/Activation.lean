import AimailGateway.Api.AddressShape
import AimailGateway.Api.Auth
import AimailGateway.Api.State
import AimailGateway.Factory
import AimailGateway.Storage.ActivationCodes

/-! # Activation codes

The limit on failed activations of one IP address is left out: it only refuses
requests.
-/

namespace AimailGateway

open Library Action

namespace Api

def activationCodeTtlDays : Nat := 7

section Codes

variable (state : HttpState)

def drawCode : Action World ε String := do
  let drawn ← newUuid state.env
  return "addr-" ++ drawn

def generateActivationCodes (systemId domain : String)
    (emailAddress : Option String) : Nat → Storage (List String)
  | 0 => return []
  | count + 1 => do
      let time ← now state.env
      let code ← drawCode state
      Storage.insertActivationCode state.env (state.sha256Hex code) code
        "address" systemId domain (emailAddress.getD "")
        (some (time + activationCodeTtlDays * 24 * 60 * 60 * 1000))
      let codes ← generateActivationCodes systemId domain emailAddress count
      return code :: codes

/-- `map_err` of a storage call to an internal error with a note. -/
def noted (note : String) (storage : Storage α) : Storage α :=
  storage.mapError fun error => .internal (note ++ ": " ++ error.toText)

/-- Redeem a code: a new agent key for the given address in the system of the
code. -/
def activateAddressCode (code emailAddress : String) :
    Storage (String × Int) := do
  let codeHash := state.sha256Hex code
  match ← Storage.lookupActivationCode state.env codeHash with
  | none => fail (.activationCodeGone "invalid or expired activation code")
  | some (systemId, boundEmail) =>
      check (if boundEmail ≠ "" ∧
          Text.eqIgnoreAsciiCase emailAddress boundEmail = false then
        .error (.forbidden "activation code is bound to a different address")
      else .ok ())
      let claimed ← noted "claim code"
        (Storage.claimActivationCode state.env codeHash emailAddress)
      check (if claimed then .ok ()
        else .error (.activationCodeGone "activation code already redeemed"))
      let rawKey ← newUuid state.env
      let record ← noted "create key" (Storage.insertApiKey state.env systemId
        emailAddress (state.sha256Hex rawKey) (Text.take 8 rawKey) ["agent"]
        none "agent")
      Storage.deleteActivationCode state.env codeHash
      return (rawKey, record.id)

/-! ### What generation writes -/

/-- Codes of one system are inserted, and nothing else changes. -/
structure CodesWrite (systemId : String) (before after : Database) : Prop where
  frame : after = { before with activationCodes := after.activationCodes }
  changes : Table.ChangesOnly (·.systemId = systemId) before.activationCodes
    after.activationCodes
  kept : ∀ code ∈ before.activationCodes, code ∈ after.activationCodes

namespace CodesWrite

variable {systemId : String} {first second third : Database}

theorem refl (db : Database) : CodesWrite systemId db db :=
  ⟨rfl, .refl _ _, fun _ member => member⟩

theorem trans (earlier : CodesWrite systemId first second)
    (later : CodesWrite systemId second third) :
    CodesWrite systemId first third := by
  refine ⟨?_, earlier.changes.trans later.changes,
    fun code member => later.kept code (earlier.kept code member)⟩
  rw [later.frame, earlier.frame]

end CodesWrite

def StoredFor (sha256Hex : String → String) (systemId : String) (db : Database)
    (code : String) : Prop :=
  ∃ row ∈ db.activationCodes, row.codeHash = sha256Hex code ∧
    row.systemId = systemId

variable {state} in
theorem generateActivationCodes_ends {systemId domain : String}
    {emailAddress : Option String} {count : Nat} {world : World}
    {ok : List String → World → Prop} {failed : AppError → World → Prop}
    (stopped : ∀ error later, CodesWrite systemId world.db later.db →
      failed error later)
    (generated : ∀ codes later, CodesWrite systemId world.db later.db →
      (∀ code ∈ codes, StoredFor state.sha256Hex systemId later.db code) →
      ok codes later) :
    (generateActivationCodes state systemId domain emailAddress count).Ends ok
      failed world := by
  induction count generalizing world ok with
  | zero =>
      exact generated [] world (.refl _)
        fun _ none => absurd none List.not_mem_nil
  | succ count induction =>
      simp only [generateActivationCodes, drawCode, ends_bind, ends_now,
        ends_newUuid, ends_pure]
      apply Storage.insertActivationCode_ends
      · intro error later same
        rw [World.later_db, World.later_db] at same
        refine stopped error later ?_
        rw [same]
        exact .refl _
      · intro createdAt activationCodes inserted insertion changed
        rw [World.later_db, World.later_db] at insertion changed
        have written : CodesWrite systemId world.db inserted.db := by
          rw [changed]
          exact ⟨rfl, Table.changesOnly_insert? insertion rfl,
            fun code member => (Table.mem_of_insert? insertion).mpr (.inl member)⟩
        have present := (Table.mem_of_insert? insertion).mpr (.inr rfl)
        rw [← show inserted.db.activationCodes = activationCodes by rw [changed]]
          at present
        apply induction
        · exact fun error later rest => stopped error later (written.trans rest)
        · intro codes later rest stored
          refine generated _ later (written.trans rest) ?_
          rw [List.forall_mem_cons]
          exact ⟨⟨_, rest.kept _ present, rfl, rfl⟩, stored⟩

end Codes

end Api

end AimailGateway
