import AimailGateway.Api.Activation

/-! # What is left of a redemption that fails

`activate_address_code` claims the code before it inserts the key and deletes
the code after. The file gives the exact condition under which a failed
redemption leaves the code and the keys as they were.
-/

namespace AimailGateway.Api

open Library Action

section Redemption

variable (state : HttpState) (code emailAddress : String)

def isUnclaimed (codeHash : String) (row : ActivationCodeRecord) : Bool :=
  row.codeHash == codeHash && !row.claimed

def boundTo (emailAddress : String) (row : ActivationCodeRecord) : Bool :=
  row.emailAddress == "" ||
    Text.eqIgnoreAsciiCase emailAddress row.emailAddress

def claimedCode (world : World) : Option ActivationCodeRecord :=
  if state.env.fault (world.tick + 1) = none ∧
      state.env.fault (world.tick + 3) = none then
    (world.db.activationCodes.find? fun row =>
      isUnclaimed (state.sha256Hex code) row && !row.isFrozen &&
        !Storage.isExpired (state.env.clock world.tick) row).filter
      (boundTo emailAddress)
  else none

/-- The raw key the call draws. -/
def drawnKey (world : World) : String :=
  state.env.uuid (world.tick + 4)

def KeyFits (systemId : String) (world : World) : Prop :=
  ∀ row ∈ world.db.apiKeys,
    row.keyHash ≠ state.sha256Hex (drawnKey state world) ∧
      row.slot ≠ (systemId, emailAddress)

/-- No row of the code is left unclaimed. -/
def Burned (codeHash : String) (db : Database) : Prop :=
  ∀ row ∈ db.activationCodes, row.codeHash = codeHash → row.claimed = true

/-- The keys are the same and the code can be redeemed as before. -/
structure Unspent (codeHash : String) (before after : Database) : Prop where
  keys : ∀ row ∈ after.apiKeys, row ∈ before.apiKeys
  code : ∀ row ∈ before.activationCodes, row.codeHash = codeHash →
    row.claimed = false → row ∈ after.activationCodes

/-- A redemption that fails has added no key and not used up the code. -/
def AllOrNothing (world : World) : Prop :=
  (activateAddressCode state code emailAddress).Ends (fun _ _ => True)
    (fun _ later => Unspent (state.sha256Hex code) world.db later.db) world

/-- Once the code is claimed, the key fits and storage does not fail. -/
def ClaimSucceeds (world : World) : Prop :=
  ∀ row, claimedCode state code emailAddress world = some row →
    state.env.fault (world.tick + 6) = none ∧
      state.env.fault (world.tick + 7) = none ∧
      KeyFits state emailAddress row.systemId world

/-! ## The statements of a redemption -/

variable {state code emailAddress} {world : World}
  {failed : AppError → World → Prop}

theorem Unspent.of_same {codeHash : String} {before after : Database}
    (same : after = before) : Unspent codeHash before after := by
  subst same
  exact ⟨fun _ member => member, fun _ member _ _ => member⟩

theorem claim_updates (codes : ActivationCodes) (codeHash claimedBy : String)
    (time : Timestamp) :
    ∃ after, codes.update? (isUnclaimed codeHash) (fun row =>
      { row with
        claimed := true
        claimedAt := some time
        claimedBy := some claimedBy }) = some after := by
  apply Table.update?_isSome
  apply codes.distinct.imp
  intro first second free
  unfold ActivationCodeRecord.conflict at free ⊢
  split <;> split <;> exact free

theorem claimActivationCode_ends {env : Surroundings}
    {codeHash claimedBy : String} {ok : Bool → World → Prop}
    (fault : ∀ reason, env.fault (world.tick + 1) = some reason →
      ∀ error later, later.db = world.db → later.tick = world.tick + 2 →
        failed error later)
    (claimed : env.fault (world.tick + 1) = none →
      ∀ activationCodes later,
        Burned codeHash { world.db with activationCodes } →
        (∀ row ∈ activationCodes, ∃ before ∈ world.db.activationCodes,
          row.codeHash = before.codeHash ∧ row.systemId = before.systemId ∧
            row.emailAddress = before.emailAddress) →
        later.db = { world.db with activationCodes } →
        later.tick = world.tick + 2 →
        ok (world.db.activationCodes.rows.any (isUnclaimed codeHash)) later) :
    (Storage.claimActivationCode env codeHash claimedBy).Ends ok failed
      world := by
  rw [Storage.claimActivationCode, ends_bind, ends_now, ends_call]
  constructor
  · intro reason broken
    exact fault reason broken _ _ rfl rfl
  · intro works
    rcases claim_updates world.db.activationCodes codeHash claimedBy
      (env.clock world.tick) with ⟨codes, updated⟩
    rw [World.later_db]
    unfold isUnclaimed at updated
    simp only [updated]
    constructor
    · intro error impossible
      cases impossible
    · intro value db outcome
      cases outcome
      refine claimed works codes _ ?_ ?_ rfl rfl
      · intro row member same
        rcases (Table.mem_of_update? updated).mp member with
          ⟨before, _, equal⟩
        split at equal
        · rw [← equal]
        · next kept =>
            rw [← equal] at same
            rw [← equal]
            simpa [same] using kept
      · intro row member
        rcases (Table.mem_of_update? updated).mp member with
          ⟨before, there, equal⟩
        refine ⟨before, there, ?_⟩
        split at equal <;> rw [← equal] <;> exact ⟨rfl, rfl, rfl⟩

theorem insertApiKey_decides {env : Surroundings}
    {systemId email keyHash keyPrefix : String} {scopes : List String}
    {expiresAt : Option String} {category : String}
    {ok : ApiKeyRecord → World → Prop}
    (refused : ¬(env.fault (world.tick + 1) = none ∧
        ∀ row ∈ world.db.apiKeys,
          row.keyHash ≠ keyHash ∧ row.slot ≠ (systemId, email)) →
      ∀ error later, later.db = world.db → failed error later)
    (inserted : (env.fault (world.tick + 1) = none ∧
        ∀ row ∈ world.db.apiKeys,
          row.keyHash ≠ keyHash ∧ row.slot ≠ (systemId, email)) →
      ∀ createdAt apiKeys later,
        world.db.apiKeys.insert? (Storage.newApiKey world.db systemId email
          keyHash keyPrefix scopes expiresAt category createdAt) =
            some apiKeys →
        later.db = { world.db with
          apiKeys, apiKeySequence := Storage.nextApiKeyId world.db } →
        later.tick = world.tick + 2 →
        ok (Storage.newApiKey world.db systemId email keyHash keyPrefix scopes
          expiresAt category createdAt) later) :
    (Storage.insertApiKey env systemId email keyHash keyPrefix scopes expiresAt
      category).Ends ok failed world := by
  rw [Storage.insertApiKey, ends_bind, ends_now, ends_call]
  constructor
  · intro reason broken
    refine refused ?_ _ _ rfl
    rintro ⟨works, _⟩
    rw [World.later] at broken
    rw [works] at broken
    cases broken
  · intro works
    rw [World.later_db]
    let record := Storage.newApiKey world.db systemId email keyHash keyPrefix
      scopes expiresAt category (env.clock world.tick)
    by_cases fits : ∀ row ∈ world.db.apiKeys,
        row.keyHash ≠ keyHash ∧ row.slot ≠ (systemId, email)
    · have free : ∀ other ∈ world.db.apiKeys,
          ApiKeyRecord.conflict other record = false := by
        intro other member
        have below : other.id < record.id := Storage.lt_nextApiKeyId member
        simp only [ApiKeyRecord.conflict, Bool.or_eq_false_iff,
          beq_eq_false_iff_ne, ne_eq]
        exact ⟨⟨by omega, (fits other member).1⟩, (fits other member).2⟩
      rcases Table.insert?_isSome free with ⟨apiKeys, insertion⟩
      simp only [show world.db.apiKeys.insert? (Storage.newApiKey world.db
        systemId email keyHash keyPrefix scopes expiresAt category
        (env.clock world.tick)) = some apiKeys from insertion]
      constructor
      · intro error impossible
        cases impossible
      · intro value db outcome
        cases outcome
        exact inserted ⟨works, fits⟩ _ apiKeys _ insertion rfl rfl
    · cases insertion : world.db.apiKeys.insert? record with
      | none =>
          simp only [show world.db.apiKeys.insert? (Storage.newApiKey world.db
            systemId email keyHash keyPrefix scopes expiresAt category
            (env.clock world.tick)) = none from insertion]
          constructor
          · intro error _
            exact refused (fun both => fits both.2) _ _ rfl
          · intro value db impossible
            cases impossible
      | some apiKeys =>
          exfalso
          apply fits
          intro row member
          have free := Table.conflict_false_of_insert? insertion row member
          simp only [ApiKeyRecord.conflict, Bool.or_eq_false_iff,
            beq_eq_false_iff_ne, ne_eq] at free
          exact ⟨free.1.2, free.2⟩

/-! ## How a redemption ends -/

theorem activateAddressCode_ends {ok : String × Int → World → Prop}
    (spared : claimedCode state code emailAddress world = none →
      ∀ error later, later.db = world.db → failed error later)
    (burned : ∀ row, claimedCode state code emailAddress world = some row →
      ¬(state.env.fault (world.tick + 6) = none ∧
        KeyFits state emailAddress row.systemId world) →
      ∀ activationCodes error later,
        Burned (state.sha256Hex code) { world.db with activationCodes } →
        later.db = { world.db with activationCodes } → failed error later)
    (minted : ∀ row, claimedCode state code emailAddress world = some row →
      state.env.fault (world.tick + 6) = none →
      KeyFits state emailAddress row.systemId world →
      ∀ createdAt apiKeys activationCodes later,
        let record := Storage.newApiKey world.db row.systemId emailAddress
          (state.sha256Hex (drawnKey state world))
          (Text.take 8 (drawnKey state world)) ["agent"] none "agent" createdAt
        world.db.apiKeys.insert? record = some apiKeys →
        Burned (state.sha256Hex code) { world.db with activationCodes } →
        later.db = { world.db with
          apiKeys, activationCodes, apiKeySequence := record.id } →
        (state.env.fault (world.tick + 7) = none →
          ok (drawnKey state world, record.id) later) ∧
        (state.env.fault (world.tick + 7) ≠ none →
          ∀ error, failed error later)) :
    (activateAddressCode state code emailAddress).Ends ok failed world := by
  rw [activateAddressCode, ends_bind, Storage.lookupActivationCode, ends_bind,
    ends_now, ends_bind, ends_query]
  constructor
  · intro reason broken
    refine spared ?_ _ _ rfl
    rw [claimedCode, if_neg]
    rintro ⟨works, _⟩
    rw [World.later, works] at broken
    cases broken
  intro looked
  rw [World.later_db, ends_pure]
  have claimable : (fun row : ActivationCodeRecord =>
      row.codeHash == state.sha256Hex code && !row.claimed && !row.isFrozen &&
        !Storage.isExpired (state.env.clock world.tick) row) =
      fun row => isUnclaimed (state.sha256Hex code) row && !row.isFrozen &&
        !Storage.isExpired (state.env.clock world.tick) row := rfl
  rw [claimable]
  cases found : world.db.activationCodes.find? (fun row =>
      isUnclaimed (state.sha256Hex code) row && !row.isFrozen &&
        !Storage.isExpired (state.env.clock world.tick) row) with
  | none =>
      refine spared ?_ _ _ rfl
      rw [claimedCode, found]
      split <;> rfl
  | some row =>
      have unclaimed : isUnclaimed (state.sha256Hex code) row = true := by
        have chosen := (Table.mem_of_find? found).2
        simp only [Bool.and_eq_true] at chosen
        exact chosen.1.1
      have member := (Table.mem_of_find? found).1
      rw [Option.map_some]
      simp only [ends_bind]
      by_cases bound : boundTo emailAddress row = true
      · have admitted : ¬(row.emailAddress ≠ "" ∧
            Text.eqIgnoreAsciiCase emailAddress row.emailAddress = false) := by
          rintro ⟨named, differs⟩
          simp [boundTo, named, differs] at bound
        rw [if_neg admitted, ends_check_ok, noted, ends_mapError]
        apply claimActivationCode_ends
        · intro reason broken error later same _
          refine spared ?_ _ later same
          rw [claimedCode, if_neg]
          rintro ⟨_, works⟩
          rw [show world.later.later.tick + 1 = world.tick + 3 from rfl, works]
            at broken
          cases broken
        · intro works codes later burnt rows changed ticks
          have any : world.later.later.db.activationCodes.rows.any
              (isUnclaimed (state.sha256Hex code)) = true :=
            List.any_eq_true.mpr ⟨row, member, unclaimed⟩
          have claims : claimedCode state code emailAddress world =
              some row := by
            rw [claimedCode, if_pos ⟨looked, works⟩, found]
            simp [bound]
          have ticks : later.tick = world.tick + 4 := ticks
          have changed : later.db =
              { world.db with activationCodes := codes } := changed
          simp only [any, if_true, ends_check_ok, ends_newUuid, noted,
            ends_mapError]
          have key : state.env.uuid later.tick = drawnKey state world := by
            rw [drawnKey, ticks]
          have keys : later.later.db.apiKeys = world.db.apiKeys := by
            rw [World.later_db, changed]
          rw [key]
          apply insertApiKey_decides
          · intro failing error last same
            refine burned row claims ?_ codes _ last burnt ?_
            · rw [keys, show later.later.tick + 1 = world.tick + 6 by
                rw [World.later, ticks]] at failing
              exact failing
            · rw [same, World.later_db, changed]
          · intro fine createdAt apiKeys last insertion db lastTick
            rw [keys, show later.later.tick + 1 = world.tick + 6 by
              rw [World.later, ticks]] at fine
            have lastTick : last.tick = world.tick + 7 := by
              rw [lastTick, World.later, ticks]
            have fresh (createdAt : Timestamp) :
                Storage.newApiKey later.later.db row.systemId emailAddress
                  (state.sha256Hex (drawnKey state world))
                  (Text.take 8 (drawnKey state world)) ["agent"] none "agent"
                  createdAt =
                Storage.newApiKey world.db row.systemId emailAddress
                  (state.sha256Hex (drawnKey state world))
                  (Text.take 8 (drawnKey state world)) ["agent"] none "agent"
                  createdAt := by
              rw [World.later_db, changed]
              rfl
            rw [fresh] at insertion ⊢
            rw [keys] at insertion
            have next : Storage.nextApiKeyId later.later.db =
                Storage.nextApiKeyId world.db := by
              rw [World.later_db, changed]
              rfl
            rw [next, World.later_db, changed] at db
            rw [Storage.deleteActivationCode, ends_call, lastTick]
            constructor
            · intro reason broken
              have outcome := minted row claims fine.1 fine.2 createdAt apiKeys
                codes last.later insertion burnt (by rw [World.later_db, db]; rfl)
              exact outcome.2 (by rw [broken]; exact Option.some_ne_none reason) _
            · intro works
              refine ⟨(fun error impossible => by cases impossible), ?_⟩
              intro value after outcome
              cases outcome
              rw [ends_pure]
              refine (minted row claims fine.1 fine.2 createdAt apiKeys
                (codes.delete (·.codeHash == state.sha256Hex code)) _ insertion
                ?_ ?_).1 works
              · intro left kept same
                simp [same] at kept
              · rw [World.withDb_db, db]
                rfl
      · have refused : row.emailAddress ≠ "" ∧
            Text.eqIgnoreAsciiCase emailAddress row.emailAddress = false := by
          simpa [boundTo] using bound
        rw [if_pos refused, ends_check_error]
        refine spared ?_ _ _ rfl
        rw [claimedCode, found]
        split
        · simp [bound]
        · rfl

theorem not_unspent_of_burned {row : ActivationCodeRecord} {after : Database}
    (claims : claimedCode state code emailAddress world = some row)
    (burned : Burned (state.sha256Hex code) after) :
    ¬Unspent (state.sha256Hex code) world.db after := by
  intro unspent
  unfold claimedCode at claims
  split at claims
  · rw [Option.filter_eq_some_iff] at claims
    rcases Table.mem_of_find? claims.1 with ⟨member, chosen⟩
    simp only [isUnclaimed, Bool.and_eq_true, beq_iff_eq,
      Bool.not_eq_true'] at chosen
    rcases chosen with ⟨⟨⟨same, unclaimed⟩, _⟩, _⟩
    have kept := unspent.code row member same unclaimed
    rw [burned row kept same] at unclaimed
    cases unclaimed
  · cases claims

variable (state code emailAddress world) in
/-- A redemption is all or nothing exactly when nothing fails after the
claim. -/
theorem allOrNothing_iff : AllOrNothing state code emailAddress world ↔
    ClaimSucceeds state code emailAddress world := by
  constructor
  · intro holds row claims
    by_contra fails
    have never : (activateAddressCode state code emailAddress).Ends
        (fun _ _ => False)
        (fun _ later => Burned (state.sha256Hex code) later.db) world := by
      apply activateAddressCode_ends
      · intro none
        rw [none] at claims
        cases claims
      · intro _ _ _ codes error later burned same
        rw [same]
        exact burned
      · intro other found works fits createdAt keys codes later record _ burned
          same
        rw [claims] at found
        cases found
        constructor
        · intro deleted
          exact fails ⟨works, deleted, fits⟩
        · intro _ _
          rw [same]
          exact burned
    have both := ends_iff_run.mp (Ends.and never holds)
    rcases outcome : (activateAddressCode state code emailAddress).run world
      with ⟨error | value, later⟩
    · have ends := both.2 error later outcome
      exact not_unspent_of_burned claims ends.1 ends.2
    · exact (both.1 value later outcome).1
  · intro succeeds
    apply activateAddressCode_ends
    · intro _ error later same
      exact .of_same same
    · intro row claims fails
      rcases succeeds row claims with ⟨works, _, fits⟩
      exact absurd ⟨works, fits⟩ fails
    · intro row claims _ _ _ _ _ _ _ _ _ _
      refine ⟨fun _ => trivial, fun fails => ?_⟩
      exact absurd (succeeds row claims).2.1 fails

end Redemption

/-! ## An address that already holds a key -/

/-- A code for an address of system `a`. -/
def addressCode : ActivationCodeRecord :=
  Storage.newActivationCode "addr-1" "addr-1" "address" "a" "x.org"
    "bob@x.org" none 0

/-- The address holds a key and a code is out for it. -/
def reactivation : Database :=
  { Database.empty with
    apiKeys := ⟨[sampleKey 1 "a" "bob@x.org" "first" ["agent"] "agent"],
      List.pairwise_singleton _ _⟩
    activationCodes := ⟨[addressCode], List.pairwise_singleton _ _⟩ }

/-- The code of an address that has a key is burned without giving one. -/
theorem reactivation_burns :
    ¬∀ state code emailAddress world,
      AllOrNothing state code emailAddress world := by
  intro all
  have unspent := (ends_iff_run.mp (all sampleState "addr-1" "bob@x.org"
    (World.start reactivation))).2
  have ran : ((activateAddressCode sampleState "addr-1" "bob@x.org").run
      (World.start reactivation)).1 =
        .error (.internal
          "create key: database error: UNIQUE constraint failed") := by
    decide +kernel
  have kept := (unspent _ _ (Prod.ext ran rfl)).code addressCode
    List.mem_cons_self rfl rfl
  have gone : addressCode ∉ ((activateAddressCode sampleState "addr-1"
      "bob@x.org").run (World.start reactivation)).2.db.activationCodes.rows := by
    decide +kernel
  exact gone kept

end AimailGateway.Api
