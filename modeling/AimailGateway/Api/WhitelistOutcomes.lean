import AimailGateway.Api.Whitelists

/-! # How the whitelist handlers end

One lemma for each handler states every way it can end: nothing written, or
one upsert, update or deletion under the checks that admitted it.
-/

namespace AimailGateway.Api

open Library Action

/-! ## What the checks admit -/

/-- The metadata of the address names the key's address as its manager. -/
def Manages (tables : CaseTables) (db : Database) (key : ApiKeyRecord)
    (domainAddr : String) : Prop :=
  ∃ row ∈ db.domainAddrMeta, row.emailAddress = tables.toLowercase domainAddr ∧
    row.managerAddress = key.emailAddress

def WhitelistAccess (db : Database) (key : ApiKeyRecord) (domainAddr : String) :
    Prop :=
  isPlatformAdminScope key = true ∨ isSystemAdminScope key = true ∨
    (isAgentAdminScope key = true ∧
      EnvFactory.Owns db key.systemId domainAddr) ∨
    (isAgentScope key = true ∧ key.emailAddress = domainAddr)

/-- A rule an agent or an agent admin may name by id. -/
def OwnEntry (tables : CaseTables) (db : Database) (key : ApiKeyRecord)
    (entry : WhitelistRecord) : Prop :=
  (if isAgentAdminScope key then Manages tables db key entry.domainAddr
    else entry.apiKeyId = some key.id) ∧
    WhitelistAccess db key entry.domainAddr

def MayUpdate (tables : CaseTables) (db : Database) (key : ApiKeyRecord)
    (entry : WhitelistRecord) : Prop :=
  if isAgentScope key || isAgentAdminScope key then
    OwnEntry tables db key entry
  else isSystemAdminScope key = true ∨ isPlatformAdminScope key = true

def MayDelete (tables : CaseTables) (db : Database) (key : ApiKeyRecord)
    (entry : WhitelistRecord) : Prop :=
  MayUpdate tables db key entry ∧
    (isPlatformAdminScope key = true ∨ isSystemAdminScope key = true →
      isAgentEntry entry = false)

def MayCreate (tables : CaseTables) (db : Database) (key : ApiKeyRecord)
    (domainAddr : String) : Prop :=
  if isAgentScope key || isAgentAdminScope key then
    if isAgentAdminScope key then Manages tables db key domainAddr
    else WhitelistAccess db key domainAddr
  else isSystemAdminScope key = true

/-- The rule is one a by-parameters request may act on. -/
def Matched (tables : CaseTables) (db : Database) (key : ApiKeyRecord)
    (query : WhitelistByParams) (entry : WhitelistRecord) : Prop :=
  entry ∈ db.whitelists ∧ entry.value = query.value ∧
  (∃ row ∈ db.systemDomains,
    row.domain = query.domainAddr ∧ row.systemId = entry.systemId) ∧
  if isAgentScope key || isAgentAdminScope key then
    if isAgentAdminScope key then Manages tables db key query.domainAddr
    else entry.apiKeyId = some key.id
  else
    (isSystemAdminScope key = true ∨ isPlatformAdminScope key = true) ∧
      isAgentEntry entry = false

/-- The rules listing shows to a key. -/
def Listed (tables : CaseTables) (db : Database) (key : ApiKeyRecord)
    (domain : String) (entry : WhitelistRecord) : Prop :=
  entry ∈ db.whitelists ∧
  (∃ row ∈ db.systemDomains,
    row.domain = domain ∧ row.systemId = entry.systemId) ∧
  if isAgentScope key && !isAdminScope key then
    isAgentEntry entry = true ∧ entry.apiKeyId = some key.id
  else if isAgentAdminScope key && !isSystemAdminScope key &&
      !isPlatformAdminScope key then
    isAgentEntry entry = true ∧ Manages tables db key entry.domainAddr
  else isAdminScope key = true

section Outcomes

variable {state : HttpState} {key : ApiKeyRecord} {world : World}
  {failed : HttpError → World → Prop} {ok : Unit → World → Prop}
  {req : UpdateWhitelistRequest}
  {query : WhitelistByParams} {id : Int} {domainAddr : String}

theorem requireManager_ends (refused : ∀ error, failed error world.later)
    (managed : Manages state.env.tables world.db key domainAddr →
      ok () world.later) :
    (requireManager state key domainAddr).Ends ok failed world := by
  rw [requireManager, ends_bind, ends_orDatabaseError]
  apply Storage.getDomainAddrMeta_ends
  · exact fun _ => refused _
  · exact fun _ => refused _
  · intro row member named
    by_cases manager : row.managerAddress = key.emailAddress
    · simp only [ne_eq, manager, not_true_eq_false, if_false]
      exact managed ⟨row, member, named, manager⟩
    · simp only [ne_eq, manager, not_false_eq_true, if_true]
      exact refused _

theorem requireWhitelistAccess_ends (refused : AllowsFailure failed world)
    (passed : WhitelistAccess world.db key domainAddr →
      ∀ later, later.db = world.db → ok () later) :
    (requireWhitelistAccess state key domainAddr).Ends ok failed world := by
  rw [requireWhitelistAccess, ends_bind]
  apply EnvFactory.owningSystemOf_ends
  intro owner later owns same
  rw [ends_check]
  refine ⟨fun _ access => passed ?_ later same, fun _ _ => refused _ _ same⟩
  rcases checkWhitelistAccess_ok.mp access with
    platform | system | ⟨agentAdmin, own⟩ | agent
  · exact Or.inl platform
  · exact Or.inr (Or.inl system)
  · exact Or.inr (Or.inr (Or.inl ⟨agentAdmin, owns _ own⟩))
  · exact Or.inr (Or.inr (Or.inr agent))

theorem requireOwnEntry_ends (refused : AllowsFailure failed world)
    (own : ∀ entry ∈ world.db.whitelists, entry.id = id →
      OwnEntry state.env.tables world.db key entry →
      ∀ later, later.db = world.db → ok () later) :
    (requireOwnEntry state key id).Ends ok failed world := by
  rw [requireOwnEntry, ends_bind, ends_orDatabaseError]
  apply Storage.getWhitelistById_ends
  · exact fun _ => refused _ _ rfl
  · exact refused _ _ rfl
  · intro entry member sameId
    by_cases manager : isAgentAdminScope key = true
    · simp only [manager, if_true, ends_bind]
      apply requireManager_ends
      · exact fun _ => refused _ _ rfl
      · intro manages
        apply requireWhitelistAccess_ends
        · exact fun error later same => refused error later same
        · intro access later same
          refine own entry member sameId ⟨?_, access⟩ later same
          rw [if_pos manager]
          exact manages
    · simp only [manager, Bool.false_eq_true, if_false]
      split
      · exact refused _ _ rfl
      · next created =>
          apply requireWhitelistAccess_ends
          · exact fun error later same => refused error later same
          · intro access later same
            refine own entry member sameId ⟨?_, access⟩ later same
            rw [if_neg manager]
            exact not_not.mp created

/-! ## Creation -/

theorem bindAgentKey_ends {ok : Option Int → World → Prop}
    (refused : AllowsFailure failed world)
    (bound : (if isAgentAdminScope key then
        Manages state.env.tables world.db key domainAddr
      else WhitelistAccess world.db key domainAddr) →
      ∀ apiKeyId later, later.db = world.db → ok apiKeyId later) :
    (bindAgentKey state key domainAddr).Ends ok failed world := by
  rw [bindAgentKey]
  by_cases manager : isAgentAdminScope key = true
  · rw [if_pos manager] at bound
    rw [if_pos manager, ends_bind]
    apply requireManager_ends
    · exact fun _ => refused _ _ rfl
    · intro manages
      simp only [ends_bind, ends_orDatabaseError]
      exact query_ends (fun _ => refused _ _ rfl) (bound manages _ _ rfl)
  · rw [if_neg manager] at bound
    rw [if_neg manager, ends_bind]
    apply requireWhitelistAccess_ends
    · exact refused
    · exact fun access later same => bound access _ later same

/-- When a creation reads the rowid inserted last: after its checks, the lookup
of the system and the clock. -/
def rowidTick (state : HttpState) (key : ApiKeyRecord) (domainAddr : String)
    (world : World) : Nat :=
  (if isAgentScope key || isAgentAdminScope key then
    (bindAgentKey state key domainAddr world).2
  else (requireWhitelistAccess state key domainAddr world).2).tick + 2

theorem createWhitelist_ends {req : CreateWhitelistRequest}
    {ok : WhitelistResponse → World → Prop}
    (refused : AllowsFailure failed world)
    (executed : MayCreate state.env.tables world.db key req.domainAddr →
      ∀ row ∈ world.db.systemDomains, row.domain = req.domainAddr →
      ∀ parsed category apiKeyId createdAt answer later,
      WhitelistDirection.parse req.direction = some parsed →
      Storage.upsertWhitelist (Storage.newWhitelist world.db row.systemId
        req.domainAddr parsed req.value category apiKeyId req.description
        createdAt)
        (state.env.lastInsertRowid (rowidTick state key req.domainAddr world))
        world.db = .ok (answer, later.db) →
      ok (.ofRecord answer) later) :
    (createWhitelist state key req).Ends ok failed world := by
  have creates (category : String) (apiKeyId : Option Int)
      (may : MayCreate state.env.tables world.db key req.domainAddr)
      (later : World) (same : later.db = world.db)
      (moment : later.tick + 2 = rowidTick state key req.domainAddr world) :
      (orDatabaseError (EnvFactory.createWhitelistEntryFull state.env
        req.domainAddr req.direction req.value category apiKeyId
        req.description)).Ends
        (fun record => ok (.ofRecord record)) failed later := by
    rw [ends_orDatabaseError]
    apply EnvFactory.createWhitelistEntryFull_ends
    · exact fun _ final unchanged => refused _ _ (unchanged.trans same)
    · rw [same, moment]
      exact fun row member named parsed createdAt answer final =>
        executed may row member named parsed category apiKeyId createdAt
          answer final
  rw [MayCreate] at creates
  rw [createWhitelist]
  split
  · next agent =>
      rw [if_pos agent] at creates
      have bound : (bindAgentKey state key req.domainAddr).Ends
          (fun _ later => (if isAgentAdminScope key then
              Manages state.env.tables world.db key req.domainAddr
            else WhitelistAccess world.db key req.domainAddr) ∧
            later.db = world.db) failed world :=
        bindAgentKey_ends refused fun may _ _ same => ⟨may, same⟩
      rw [ends_bind]
      refine bound.traced.mono ?_ fun _ _ ended => ended
      intro apiKeyId later reached
      rcases reached with ⟨reached, may, same⟩
      rw [ends_bind]
      apply creates "agent" apiKeyId may later same
      rw [rowidTick, if_pos agent, reached]
  · next notAgent =>
      rw [if_neg notAgent] at creates
      split
      · next system =>
          have passed : (requireWhitelistAccess state key req.domainAddr).Ends
              (fun _ later => later.db = world.db) failed world :=
            requireWhitelistAccess_ends refused fun _ _ same => same
          rw [ends_bind]
          refine passed.traced.mono ?_ fun _ _ ended => ended
          intro _ later reached
          rw [ends_bind]
          apply creates "system" none system later reached.2
          rw [rowidTick, if_neg notAgent, reached.1]
      · split
        · exact refused _ _ rfl
        · exact refused _ _ rfl

theorem managedEntries_ends {entries : List WhitelistRecord}
    {ok : List WhitelistRecord → World → Prop}
    (answered : ∀ rows later,
      (∀ entry ∈ rows, entry ∈ entries ∧ isAgentEntry entry = true ∧
        Manages state.env.tables world.db key entry.domainAddr) →
      later.db = world.db → ok rows later) :
    (managedEntries state key entries).Ends ok failed world := by
  induction entries generalizing world ok with
  | nil => exact answered [] _ (fun _ none => absurd none List.not_mem_nil) rfl
  | cons entry rest induction =>
      have skips (later : World) (same : later.db = world.db) :
          (managedEntries state key rest).Ends ok failed later := by
        apply induction
        intro rows final managed unchanged
        refine answered rows final (fun shown member => ?_) (unchanged.trans same)
        rcases managed shown member with ⟨listed, agent, manages⟩
        rw [same] at manages
        exact ⟨List.mem_cons_of_mem _ listed, agent, manages⟩
      rw [managedEntries]
      split
      · next agent =>
          rw [ends_bind, ends_attempt]
          apply Storage.getDomainAddrMeta_ends
          · exact fun _ => skips _ rfl
          · exact fun _ => skips _ rfl
          · intro row member named
            simp only [ends_bind]
            apply induction
            intro rows final managed unchanged
            have kept : ∀ shown ∈ rows, shown ∈ entry :: rest ∧
                isAgentEntry shown = true ∧
                Manages state.env.tables world.db key shown.domainAddr := by
              intro shown listed
              rcases managed shown listed with ⟨inRest, agentShown, manages⟩
              exact ⟨List.mem_cons_of_mem _ inRest, agentShown, manages⟩
            split
            · next manager =>
                refine answered _ final (fun shown listed => ?_) unchanged
                rcases List.mem_cons.mp listed with equal | later
                · subst equal
                  exact ⟨List.mem_cons_self, agent, row, member, named, manager⟩
                · exact kept shown later
            · exact answered rows final kept unchanged
      · exact skips world rfl

theorem listWhitelists_ends {domain : Option String}
    {ok : List WhitelistResponse → World → Prop}
    (refused : AllowsFailure failed world)
    (shown : ∀ (rows : List WhitelistRecord) later,
      (∀ entry ∈ rows,
        Listed state.env.tables world.db key (domain.getD "") entry) →
      later.db = world.db →
      ok (rows.map WhitelistResponse.ofRecord) later) :
    (listWhitelists state key domain).Ends ok failed world := by
  rw [listWhitelists]
  split
  · next agent =>
      rw [ends_bind, ends_orDatabaseError]
      apply EnvFactory.listWhitelistEntries_ends
      · exact fun _ later same => refused _ later same
      · intro rows later listed same
        refine shown _ later (fun entry member => ?_) same
        simp only [List.mem_filter, Bool.and_eq_true, beq_iff_eq] at member
        rcases listed entry member.1 with ⟨stored, system⟩
        refine ⟨stored, system, ?_⟩
        rw [if_pos agent]
        exact member.2
  · next notAgent =>
      split
      · next agentAdmin =>
          rw [ends_bind, ends_orDatabaseError]
          apply EnvFactory.listWhitelistEntries_ends
          · exact fun _ later same => refused _ later same
          · intro rows later listed same
            rw [ends_bind]
            apply managedEntries_ends
            intro managed final entries unchanged
            refine shown managed final (fun entry member => ?_)
              (unchanged.trans same)
            rcases entries entry member with ⟨inRows, agent, manages⟩
            rcases listed entry inRows with ⟨stored, system⟩
            rw [same] at manages
            refine ⟨stored, system, ?_⟩
            rw [if_neg notAgent, if_pos agentAdmin]
            exact ⟨agent, manages⟩
      · next notAgentAdmin =>
          split
          · next admin =>
              rw [ends_bind, ends_orDatabaseError]
              apply EnvFactory.listWhitelistEntries_ends
              · exact fun _ later same => refused _ later same
              · intro rows later listed same
                refine shown rows later (fun entry member => ?_) same
                rcases listed entry member with ⟨stored, system⟩
                refine ⟨stored, system, ?_⟩
                rw [if_neg notAgent, if_neg notAgentAdmin]
                exact admin
          · exact refused _ _ rfl

theorem checkWhitelist_ends {query : CheckWhitelistQuery}
    {ok : CheckWhitelistResponse → World → Prop}
    (refused : AllowsFailure failed world)
    (answered : ∀ response later, later.db = world.db → ok response later) :
    (checkWhitelist state key query).Ends ok failed world := by
  have access : (requireCheckAccess state key query.domainAddr).Ends
      (fun _ later => later.db = world.db) (fun _ later => later.db = world.db)
      world := by
    rw [requireCheckAccess]
    split
    · exact rfl
    · rw [ends_bind, ends_check]
      refine ⟨fun _ _ => ?_, fun _ _ => rfl⟩
      rw [ends_bind, ends_when]
      have agentCheck (later : World) (same : later.db = world.db) :
          (if isAgentScope key && key.emailAddress != query.domainAddr then
              (fail ⟨.forbidden, "forbidden", some
                "Agent can only check whitelist for their own email address"⟩ :
                Handler Unit)
            else pure ()).Ends (fun _ later => later.db = world.db)
            (fun _ later => later.db = world.db) later := by
        split
        · exact same
        · exact same
      refine ⟨fun _ => ?_, fun _ => agentCheck world rfl⟩
      apply requireManager_ends
      · exact fun _ => rfl
      · exact fun _ => agentCheck _ rfl
  rw [checkWhitelist, ends_bind]
  refine access.mono (fun _ later same => ?_) (fun _ => refused _)
  simp only
  split
  · exact answered _ _ same
  · rw [ends_bind, ends_orDatabaseError]
    apply EnvFactory.checkWhitelisted_ends
    · exact fun _ final unchanged => refused _ _ (unchanged.trans same)
    · exact fun _ unchanged => answered _ _ (unchanged.trans same)

/-! ## Update and deletion -/

/-- The answer to a change of the rule. -/
def AnswersChange (db : Database) (req : UpdateWhitelistRequest)
    (ok : WhitelistResponse → World → Prop) (entry : WhitelistRecord) : Prop :=
  ∀ parsed whitelists later,
    db.whitelists.update? (·.id == entry.id)
      (Storage.changeWhitelist req.isActive parsed) = some whitelists →
    later.db = { db with whitelists } →
    ok (.ofRecord (Storage.changeWhitelist req.isActive parsed entry)) later

theorem writeUpdate_ends {ok : WhitelistResponse → World → Prop}
    (refused : AllowsFailure failed world)
    (changed : Storage.DirectionFits req.direction →
      ∀ entry ∈ world.db.whitelists, entry.id = id →
      AnswersChange world.db req ok entry) :
    (writeUpdate state id req).Ends ok failed world := by
  rw [writeUpdate, ends_bind, ends_orDatabaseError]
  apply Storage.updateWhitelist_ends
  · exact fun _ later same => refused _ later same
  · exact fun later same => refused _ later same
  · exact changed

theorem updateWhitelist_ends {ok : WhitelistResponse → World → Prop}
    (refused : AllowsFailure failed world)
    (changed : Storage.DirectionFits req.direction →
      ∀ entry ∈ world.db.whitelists, entry.id = id →
      MayUpdate state.env.tables world.db key entry →
      AnswersChange world.db req ok entry) :
    (updateWhitelist state key id req).Ends ok failed world := by
  rw [updateWhitelist]
  split
  · next agent =>
      rw [ends_bind]
      apply requireOwnEntry_ends
      · exact refused
      · intro entry member sameId own later same
        apply writeUpdate_ends
        · exact fun error final unchanged =>
            refused error final (unchanged.trans same)
        · rw [same]
          intro fits other otherMember otherId parsed whitelists final
          have equal : other = entry :=
            Whitelists.eq_of_id otherMember member (otherId.trans sameId.symm)
          subst equal
          refine changed fits other member sameId ?_ parsed whitelists final
          rw [MayUpdate, if_pos agent]
          exact own
  · next notAgent =>
      have admin (scope : isSystemAdminScope key = true ∨
          isPlatformAdminScope key = true) :
          (writeUpdate state id req).Ends ok failed world := by
        apply writeUpdate_ends refused
        intro fits entry member sameId
        apply changed fits entry member sameId
        rw [MayUpdate, if_neg notAgent]
        exact scope
      split
      · next system => exact admin (Or.inl system)
      · split
        · next platform => exact admin (Or.inr platform)
        · exact refused _ _ rfl

theorem refuseAgentEntry_ends (refused : AllowsFailure failed world)
    (passed : (isPlatformAdminScope key = true ∨ isSystemAdminScope key = true →
        ∃ entry ∈ world.db.whitelists, entry.id = id ∧
          isAgentEntry entry = false) →
      ∀ later, later.db = world.db → ok () later) :
    (refuseAgentEntry state key id).Ends ok failed world := by
  rw [refuseAgentEntry]
  split
  · rw [ends_bind, ends_orDatabaseError]
    apply Storage.getWhitelistById_ends
    · exact fun _ => refused _ _ rfl
    · exact refused _ _ rfl
    · intro entry member sameId
      simp only
      split
      · exact refused _ _ rfl
      · next notAgentEntry =>
          refine passed (fun _ => ⟨entry, member, sameId, ?_⟩) _ rfl
          rw [Bool.not_eq_true] at notAgentEntry
          exact notAgentEntry
  · next notAdmin =>
      rw [Bool.or_eq_true] at notAdmin
      exact passed (fun admin => absurd admin notAdmin) _ rfl

theorem deleteById_ends {entry : WhitelistRecord}
    (member : entry ∈ world.db.whitelists)
    (may : MayUpdate state.env.tables world.db key entry)
    (refused : AllowsFailure failed world)
    (deleted : MayDelete state.env.tables world.db key entry →
      ∀ later, later.db = { world.db with
        whitelists := world.db.whitelists.delete (·.id == entry.id) } →
      ok () later) :
    (deleteById state key entry.id).Ends ok failed world := by
  rw [deleteById, ends_bind]
  apply refuseAgentEntry_ends
  · exact refused
  · intro notAgentEntry later same
    rw [ends_orDatabaseError]
    apply EnvFactory.deleteWhitelistEntry_ends
    · exact fun _ final unchanged => refused _ final (unchanged.trans same)
    · rw [same]
      intro final
      refine deleted ⟨may, fun admin => ?_⟩ final
      rcases notAgentEntry admin with ⟨other, otherMember, sameId, notAgent⟩
      rw [Whitelists.eq_of_id member otherMember sameId.symm]
      exact notAgent

theorem deleteWhitelist_ends (refused : AllowsFailure failed world)
    (deleted : ∀ entry ∈ world.db.whitelists, entry.id = id →
      MayDelete state.env.tables world.db key entry →
      ∀ later, later.db = { world.db with
        whitelists := world.db.whitelists.delete (·.id == id) } →
      ok () later) :
    (deleteWhitelist state key id).Ends ok failed world := by
  have deletes (entry : WhitelistRecord) (member : entry ∈ world.db.whitelists)
      (sameId : entry.id = id)
      (may : MayUpdate state.env.tables world.db key entry) (later : World)
      (same : later.db = world.db) :
      (deleteById state key id).Ends ok failed later := by
    subst sameId
    apply deleteById_ends
    · rw [same]
      exact member
    · rw [same]
      exact may
    · exact fun error final unchanged =>
        refused error final (unchanged.trans same)
    · rw [same]
      exact deleted entry member rfl
  rw [deleteWhitelist]
  split
  · next agent =>
      rw [ends_bind]
      apply requireOwnEntry_ends
      · exact refused
      · intro entry member sameId own later same
        refine deletes entry member sameId ?_ later same
        rw [MayUpdate, if_pos agent]
        exact own
  · next notAgent =>
      split
      · next system =>
          rw [ends_bind, ends_orDatabaseError]
          apply Storage.getWhitelistById_ends
          · exact fun _ => refused _ _ rfl
          · exact refused _ _ rfl
          · intro entry member sameId
            simp only [ends_bind]
            apply requireWhitelistAccess_ends
            · exact refused
            · intro _ later same
              refine deletes entry member sameId ?_ later same
              rw [MayUpdate, if_neg notAgent]
              exact Or.inl system
      · split
        · next platform =>
            rw [deleteById, ends_bind]
            apply refuseAgentEntry_ends
            · exact refused
            · intro notAgentEntry later same
              rcases notAgentEntry (Or.inl platform) with
                ⟨entry, member, sameId, notAgentCategory⟩
              rw [ends_orDatabaseError]
              apply EnvFactory.deleteWhitelistEntry_ends
              · exact fun _ final unchanged =>
                  refused _ final (unchanged.trans same)
              · rw [same]
                refine deleted entry member sameId ⟨?_, fun _ => notAgentCategory⟩
                rw [MayUpdate, if_neg notAgent]
                exact Or.inr platform
        · exact refused _ _ rfl

/-! ## By parameters -/

theorem firstEntry_ends {entries : List WhitelistRecord}
    {test : WhitelistRecord → Bool} {ok : WhitelistRecord → World → Prop}
    (refused : ∀ error, failed error world)
    (found : ∀ entry ∈ entries, test entry = true → ok entry world) :
    (firstEntry entries test).Ends ok failed world := by
  rw [firstEntry]
  split
  · next entry search =>
      exact found entry (List.mem_of_find?_eq_some search)
        (List.find?_some search)
  · exact refused _

theorem findEntry_ends {verb : String} {ok : WhitelistRecord → World → Prop}
    (refused : AllowsFailure failed world)
    (found : ∀ entry, Matched state.env.tables world.db key query entry →
      ∀ later, later.db = world.db → ok entry later) :
    (findEntry state key query verb).Ends ok failed world := by
  rw [findEntry]
  split
  · next agent =>
      have finds (manages : isAgentAdminScope key = true →
          Manages state.env.tables world.db key query.domainAddr)
          (later : World) (same : later.db = world.db) :
          ((orDatabaseError
              (EnvFactory.listWhitelistEntries state.env query.domainAddr) :
              Handler (List WhitelistRecord)) >>= fun entries =>
            firstEntry entries fun entry => entry.value == query.value &&
              (isAgentAdminScope key || entry.apiKeyId == some key.id)).Ends ok
            failed later := by
        rw [ends_bind, ends_orDatabaseError]
        apply EnvFactory.listWhitelistEntries_ends
        · exact fun _ final unchanged => refused _ _ (unchanged.trans same)
        · intro rows final listed unchanged
          apply firstEntry_ends
          · exact fun _ => refused _ _ (unchanged.trans same)
          · intro entry shown chosen
            rw [Bool.and_eq_true, beq_iff_eq, Bool.or_eq_true, beq_iff_eq]
              at chosen
            rcases listed entry shown with ⟨stored, system⟩
            rw [same] at stored system
            refine found entry ⟨stored, chosen.1, system, ?_⟩ final
              (unchanged.trans same)
            rw [if_pos agent]
            split
            · next manager => exact manages manager
            · next notManager => exact chosen.2.resolve_left notManager
      rw [ends_bind, ends_when]
      refine ⟨fun manager => ?_, fun notManager => ?_⟩
      · apply requireManager_ends
        · exact fun _ => refused _ _ rfl
        · exact fun manages => finds (fun _ => manages) _ rfl
      · refine finds (fun manager => ?_) world rfl
        rw [notManager] at manager
        cases manager
  · next notAgent =>
      split
      · next admin =>
          rw [Bool.or_eq_true] at admin
          rw [ends_bind]
          apply requireWhitelistAccess_ends
          · exact refused
          · intro _ later same
            rw [ends_bind, ends_orDatabaseError]
            apply EnvFactory.listWhitelistEntries_ends
            · exact fun _ final unchanged => refused _ _ (unchanged.trans same)
            · intro rows final listed unchanged
              rw [ends_bind]
              apply firstEntry_ends
              · exact fun _ => refused _ _ (unchanged.trans same)
              · intro entry shown chosen
                rw [beq_iff_eq] at chosen
                rcases listed entry shown with ⟨stored, system⟩
                rw [same] at stored system
                split
                · exact refused _ _ (unchanged.trans same)
                · next notAgentEntry =>
                    rw [Bool.not_eq_true] at notAgentEntry
                    refine found entry ⟨stored, chosen, system, ?_⟩ final
                      (unchanged.trans same)
                    rw [if_neg notAgent]
                    exact ⟨admin, notAgentEntry⟩
      · exact refused _ _ rfl

theorem deleteWhitelistByParams_ends (refused : AllowsFailure failed world)
    (deleted : ∀ entry, Matched state.env.tables world.db key query entry →
      ∀ later, later.db = { world.db with
        whitelists := world.db.whitelists.delete (·.id == entry.id) } →
      ok () later) :
    (deleteWhitelistByParams state key query).Ends ok failed world := by
  rw [deleteWhitelistByParams, ends_bind]
  apply findEntry_ends
  · exact refused
  · intro entry matched later same
    rw [ends_orDatabaseError]
    apply EnvFactory.deleteWhitelistEntry_ends
    · exact fun _ final unchanged => refused _ _ (unchanged.trans same)
    · rw [same]
      exact deleted entry matched

theorem updateWhitelistByParams_ends {ok : WhitelistResponse → World → Prop}
    (refused : AllowsFailure failed world)
    (changed : Storage.DirectionFits req.direction →
      ∀ entry, Matched state.env.tables world.db key query entry →
      AnswersChange world.db req ok entry) :
    (updateWhitelistByParams state key query req).Ends ok failed world := by
  rw [updateWhitelistByParams, ends_bind]
  apply findEntry_ends
  · exact refused
  · intro entry matched later same
    apply writeUpdate_ends
    · exact fun error final unchanged =>
        refused error final (unchanged.trans same)
    · rw [same]
      intro fits other otherMember sameId
      have equal : other = entry :=
        Whitelists.eq_of_id otherMember matched.1 sameId
      subst equal
      exact changed fits other matched

end Outcomes

end AimailGateway.Api
