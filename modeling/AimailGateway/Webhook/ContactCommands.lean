import AimailGateway.Api.ManagerReach

/-! # What the contact commands leave

A contact that is added is admitted in both directions, one that is removed is
listed no more. The rules are written and deleted under the exact spellings of
the mail, while the check matches them in any letter case.
-/

namespace AimailGateway.Webhook.ContactCommands

open Library Action

section Statement

variable (env : Surroundings) (agent email : String)
  (description : Option String) (row : DomainAddrMetaRecord)

def SameAddress (first second : String) : Prop :=
  env.tables.toLowercase first = env.tables.toLowercase second

/-- What a contact command that ends with `Ok` leaves behind. -/
structure TakesEffect (world : World) : Prop where
  added : ∀ applied later,
    (executeRegular env .addContact (.addContact email description) agent row :
        Storage _) world = (.ok (.ok applied), later) →
      ∀ direction ∈ ["from", "to"],
        EnvFactory.whitelistVerdict env later.db agent email direction = true
  removed : ∀ applied later,
    (executeRegular env .removeContact (.removeContact email) agent row :
        Storage _) world = (.ok (.ok applied), later) →
      ∀ rule ∈ later.db.whitelists, rule.isActive = true →
        SameAddress env rule.domainAddr agent →
        ¬ SameAddress env rule.value email
  othersAdded : ∀ outcome later,
    (executeRegular env .addContact (.addContact email description) agent row :
        Storage _) world = (outcome, later) →
      ∀ rule : WhitelistRecord, rule.domainAddr ≠ agent →
        (rule ∈ later.db.whitelists ↔ rule ∈ world.db.whitelists)
  othersRemoved : ∀ outcome later,
    (executeRegular env .removeContact (.removeContact email) agent row :
        Storage _) world = (outcome, later) →
      ∀ rule : WhitelistRecord, rule.domainAddr ≠ agent →
        (rule ∈ later.db.whitelists ↔ rule ∈ world.db.whitelists)

/-- The agent is registered under this spelling, and neither of the two
statements of an addition fails. -/
structure Adds (world : World) : Prop where
  registered : ∃ domain ∈ world.db.systemDomains, domain.domain = agent
  lookup : env.fault world.tick = none
  insertion : env.fault (world.tick + 3) = none

/-- The contact fits into a pattern and the agent is no board, unless the
contact is admitted already; and its rules are spelled as in the mail. -/
structure Spelled (world : World) : Prop where
  added : Adds env agent world →
    (Board.isBoardAddress agent = false ∧
        Text.byteLength email ≤ maxPatternLen) ∨
      ∀ direction ∈ ["from", "to"],
        EnvFactory.whitelistVerdict env world.db agent email direction = true
  removed : env.fault world.tick = none →
    ∀ rule ∈ world.db.whitelists, rule.isActive = true →
      SameAddress env rule.domainAddr agent →
      SameAddress env rule.value email →
        rule.domainAddr = agent ∧ rule.value = email

end Statement

/-! ## The table after an addition -/

section Table

variable {env : Surroundings} {db after : Database}
  {record answer : WhitelistRecord} {lastRowid : Int}
  {agent email direction : String} {domain : SystemDomainRecord}

theorem mem_upsertWhitelist (active : record.isActive = true)
    (executed : Storage.upsertWhitelist record lastRowid db =
      .ok (answer, after)) :
    ∃ stored : WhitelistRecord, stored.rule = record.rule ∧
      stored.direction = record.direction ∧ stored.isActive = true ∧
      ∀ rule, rule ∈ after.whitelists ↔
        rule = stored ∨ rule ∈ db.whitelists ∧ rule.rule ≠ record.rule := by
  rcases Storage.upsertWhitelist_ok executed with
    ⟨_, free, whitelists, inserted, rfl⟩ |
    ⟨_, existing, member, holds, whitelists, updated, rfl⟩
  · refine ⟨record, rfl, rfl, active, fun rule => ?_⟩
    rw [Table.mem_of_insert? inserted]
    constructor
    · rintro (member | same)
      · exact .inr ⟨member, free rule member⟩
      · exact .inl same
    · rintro (same | ⟨member, _⟩)
      · exact .inr same
      · exact .inl member
  · have unique : ∀ rule ∈ db.whitelists, rule.rule = record.rule →
        rule = existing := fun rule there same =>
      Table.eq_of_conflict WhitelistRecord.conflict_comm there member (by
        simp [WhitelistRecord.conflict, same, holds])
    refine ⟨Storage.overwriteWhitelist record existing, holds, rfl, rfl,
      fun rule => ?_⟩
    rw [Table.mem_of_update? updated]
    constructor
    · rintro ⟨before, there, changed⟩
      by_cases same : before.rule = record.rule
      · rw [if_pos (beq_iff_eq.mpr same), unique before there same] at changed
        exact .inl changed.symm
      · rw [if_neg (by simpa using same)] at changed
        subst changed
        exact .inr ⟨there, same⟩
    · rintro (same | ⟨there, other⟩)
      · exact ⟨existing, member, by rw [if_pos (beq_iff_eq.mpr holds), same]⟩
      · exact ⟨rule, there, by rw [if_neg (by simpa using other)]⟩

def Admits (env : Surroundings) (systemId agent email direction : String)
    (rule : WhitelistRecord) : Prop :=
  (rule.systemId = systemId ∧ rule.domainAddr = agent ∧
    (some rule.direction = WhitelistDirection.parse direction ∨
      rule.direction = .dirAll) ∧ rule.isActive = true) ∧
  Text.byteLength rule.value ≤ maxPatternLen ∧
    matchesPattern env.tables rule.value.toList email.toList = true

theorem whitelistVerdict_iff
    (found : db.systemDomains.find? (·.domain == agent) = some domain) :
    EnvFactory.whitelistVerdict env db agent email direction = true ↔
      if Board.isBoardAddress agent then
        db.boardWhitelists.contains (agent, email) = true
      else
        (∃ rule ∈ db.whitelists,
          Admits env domain.systemId agent email direction rule) ∨
        (Board.isBoardAddress email &&
          db.boardWhitelists.contains (email, agent)) = true := by
  rw [EnvFactory.whitelistVerdict]
  split
  · rfl
  · rw [found]
    simp only [isWhitelistedWildcard, Bool.or_eq_true, List.any_map,
      List.any_eq_true, Function.comp_apply, Admits]
    simp [Table.mem_select, and_assoc]

theorem whitelistVerdict_added {description : Option String}
    {createdAt : Timestamp}
    (found : db.systemDomains.find? (·.domain == agent) = some domain)
    (executed : Storage.upsertWhitelist (Storage.newWhitelist db domain.systemId
      agent .dirAll email "system" none description createdAt) lastRowid db =
        .ok (answer, after)) :
    EnvFactory.whitelistVerdict env after agent email direction = true ↔
      (Board.isBoardAddress agent = false ∧
        Text.byteLength email ≤ maxPatternLen) ∨
      EnvFactory.whitelistVerdict env db agent email direction = true := by
  have record : ∀ rule : WhitelistRecord, rule.rule =
      (Storage.newWhitelist db domain.systemId agent .dirAll email "system" none
        description createdAt).rule →
      rule.systemId = domain.systemId ∧ rule.domainAddr = agent ∧
        rule.value = email := by
    intro rule same
    have parts := Prod.mk.inj same
    exact ⟨parts.1, (Prod.mk.inj parts.2).1, (Prod.mk.inj parts.2).2⟩
  have frame : after.systemDomains = db.systemDomains ∧
      after.boardWhitelists = db.boardWhitelists := by
    rcases Storage.upsertWhitelist_ok executed with
      ⟨_, _, _, _, rfl⟩ | ⟨_, _, _, _, _, _, rfl⟩
    · exact ⟨rfl, rfl⟩
    · exact ⟨rfl, rfl⟩
  obtain ⟨stored, same, everyway, active, rules⟩ :=
    mem_upsertWhitelist rfl executed
  obtain ⟨system, address, value⟩ := record stored same
  have still : after.systemDomains.find? (·.domain == agent) = some domain := by
    rw [frame.1, found]
  rw [whitelistVerdict_iff still, whitelistVerdict_iff found, frame.2]
  have listed : Text.byteLength email ≤ maxPatternLen →
      ∃ rule ∈ after.whitelists,
        Admits env domain.systemId agent email direction rule := by
    intro fits
    refine ⟨stored, (rules stored).mpr (.inl rfl),
      ⟨system, address, .inr everyway, active⟩, ?_, ?_⟩
    · rw [value]
      exact fits
    · rw [value]
      exact ManagerReach.matchesPattern_self env.tables email.toList
  cases Board.isBoardAddress agent with
  | true =>
      rw [if_pos rfl, if_pos rfl]
      constructor
      · exact .inr
      · rintro (⟨impossible, _⟩ | member)
        · cases impossible
        · exact member
  | false =>
      rw [if_neg Bool.false_ne_true, if_neg Bool.false_ne_true]
      constructor
      · rintro (⟨rule, there, admits⟩ | member)
        · rcases (rules rule).mp there with rfl | ⟨old, _⟩
          · exact .inl ⟨rfl, value ▸ admits.2.1⟩
          · exact .inr (.inl ⟨rule, old, admits⟩)
        · exact .inr (.inr member)
      · rintro (⟨_, fits⟩ | ⟨rule, old, admits⟩ | member)
        · exact .inl (listed fits)
        · by_cases own : rule.rule = (Storage.newWhitelist db domain.systemId
              agent .dirAll email "system" none description createdAt).rule
          · exact .inl (listed ((record rule own).2.2 ▸ admits.2.1))
          · exact .inl ⟨rule, (rules rule).mpr (.inr ⟨old, own⟩), admits⟩
        · exact .inr member

end Table

/-! ## Runs of the commands -/

section Runs

variable {env : Surroundings} {agent email : String}
  {description : Option String} {row : DomainAddrMetaRecord} {world : World}

theorem createWhitelistEntry_run {domain : SystemDomainRecord}
    (lookup : env.fault world.tick = none)
    (found : world.db.systemDomains.find? (·.domain == agent) = some domain) :
    EnvFactory.createWhitelistEntry env agent "all" email description world =
      call env (Storage.upsertWhitelist (Storage.newWhitelist world.db
        domain.systemId agent .dirAll email "system" none description
          (env.clock (world.tick + 1))) (env.lastInsertRowid (world.tick + 2)))
        ⟨world.db, world.tick + 3⟩ := by
  simp only [EnvFactory.createWhitelistEntry,
    EnvFactory.createWhitelistEntryFull, EnvFactory.resolveSystemIdFromDomain,
    Storage.getSystemDomainByName, bind, query, call, lookup, found]
  rfl

theorem addContact_run :
    (Adds env agent world ∧ ∃ domain applied later createdAt lastRowid answer,
      (executeRegular env .addContact (.addContact email description) agent row :
          Storage _) world = (.ok (.ok applied), later) ∧
      world.db.systemDomains.find? (·.domain == agent) = some domain ∧
      Storage.upsertWhitelist (Storage.newWhitelist world.db domain.systemId
        agent .dirAll email "system" none description createdAt) lastRowid
          world.db = .ok (answer, later.db)) ∨
    (¬ Adds env agent world ∧ ∃ reason later,
      (executeRegular env .addContact (.addContact email description) agent row :
          Storage _) world = (.ok (.error reason), later) ∧
      later.db = world.db) := by
  cases lookup : env.fault world.tick with
  | some fault =>
      refine .inr ⟨fun adds => ?_, fault.error.toText, world.later, ?_, rfl⟩
      · have calm := adds.lookup
        rw [lookup] at calm
        cases calm
      · simp only [executeRegular, EnvFactory.createWhitelistEntry,
          EnvFactory.createWhitelistEntryFull,
          EnvFactory.resolveSystemIdFromDomain, Storage.getSystemDomainByName,
          bind, attempt, query, call, lookup]
        rfl
  | none =>
      cases found : world.db.systemDomains.find? (·.domain == agent) with
      | none =>
          refine .inr ⟨fun adds => ?_, (EnvFactory.notFoundDomain agent).toText,
            world.later, ?_, rfl⟩
          · obtain ⟨domain, member, named⟩ := adds.registered
            have other := Table.find?_eq_none.mp found domain member
            rw [named, beq_self_eq_true] at other
            cases other
          · simp only [executeRegular, EnvFactory.createWhitelistEntry,
              EnvFactory.createWhitelistEntryFull,
              EnvFactory.resolveSystemIdFromDomain,
              Storage.getSystemDomainByName, bind, attempt, query, call, lookup,
              found]
            rfl
      | some domain =>
          obtain ⟨member, chosen⟩ := Table.mem_of_find? found
          have registered : ∃ domain ∈ world.db.systemDomains,
              domain.domain = agent := ⟨domain, member, by simpa using chosen⟩
          have entry := @createWhitelistEntry_run env agent email description
            world domain lookup found
          cases insertion : env.fault (world.tick + 3) with
          | some fault =>
              refine .inr ⟨fun adds => ?_, fault.error.toText,
                ⟨world.db, world.tick + 4⟩, ?_, rfl⟩
              · have calm := adds.insertion
                rw [insertion] at calm
                cases calm
              · simp only [executeRegular, bind, attempt, entry, call, insertion]
                rfl
          | none =>
              obtain ⟨answer, written, upserted⟩ :=
                ManagerReach.upsertWhitelist_succeeds world.db
                  (Storage.newWhitelist world.db domain.systemId agent .dirAll
                    email "system" none description
                      (env.clock (world.tick + 1)))
                  (env.lastInsertRowid (world.tick + 2)) rfl
              refine .inl ⟨⟨registered, lookup, insertion⟩, domain,
                (email ++ " added to your contacts (direction: all)", []),
                ⟨written, world.tick + 4⟩, env.clock (world.tick + 1),
                env.lastInsertRowid (world.tick + 2), answer, ?_, rfl, upserted⟩
              simp only [executeRegular, bind, attempt, entry, call, insertion,
                upserted]
              rfl

theorem removeContact_run :
    (env.fault world.tick = none ∧ ∃ applied,
      (executeRegular env .removeContact (.removeContact email) agent row :
          Storage _) world = (.ok (.ok applied),
        world.withDb { world.db with
          whitelists := world.db.whitelists.delete fun rule =>
            rule.domainAddr == agent && rule.value == email })) ∨
    (env.fault world.tick ≠ none ∧ ∃ reason,
      (executeRegular env .removeContact (.removeContact email) agent row :
          Storage _) world = (.ok (.error reason), world.later)) := by
  simp only [executeRegular, Storage.deleteWhitelistByDomainAndValue, bind,
    attempt, call]
  cases env.fault world.tick with
  | some fault => exact .inr ⟨by rintro ⟨⟩, _, rfl⟩
  | none => exact .inl ⟨rfl, _, rfl⟩

end Runs

/-- The contact commands take effect exactly when the contact can be matched and
its rules are spelled as in the mail. -/
theorem contactCommands_exact (env : Surroundings) (agent email : String)
    (description : Option String) (row : DomainAddrMetaRecord) (world : World) :
    TakesEffect env agent email description row world ↔
      Spelled env agent email world := by
  have addition := @addContact_run env agent email description row world
  have removal := @removeContact_run env agent email row world
  constructor
  · intro effect
    constructor
    · intro adds
      rcases addition with ⟨_, domain, applied, later, createdAt, lastRowid,
        answer, ran, found, executed⟩ | ⟨refused, _⟩
      · by_cases fits : Board.isBoardAddress agent = false ∧
            Text.byteLength email ≤ maxPatternLen
        · exact .inl fits
        · right
          intro direction either
          have admitted := effect.added applied later ran direction either
          exact ((whitelistVerdict_added found executed).mp admitted).resolve_left
            fits
      · exact absurd adds refused
    · intro calm rule member active address value
      rcases removal with ⟨_, applied, ran⟩ | ⟨fails, _⟩
      · by_contra different
        refine effect.removed applied _ ran rule ?_ active address value
        rw [World.withDb_db, Table.mem_delete]
        refine ⟨member, ?_⟩
        rw [Bool.and_eq_false_iff, beq_eq_false_iff_ne, beq_eq_false_iff_ne]
        exact not_and_or.mp different
      · exact absurd calm fails
  · intro spelled
    refine ⟨fun applied later ran direction either => ?_,
      fun applied later ran rule member active address value => ?_,
      fun outcome later ran rule other => ?_,
      fun outcome later ran rule other => ?_⟩
    · rcases addition with ⟨adds, domain, _, _, createdAt, lastRowid, answer,
        again, found, executed⟩ | ⟨_, _, _, again, _⟩
      · rw [ran] at again
        cases again
        rw [whitelistVerdict_added found executed]
        exact (spelled.added adds).imp_right fun already =>
          already direction either
      · rw [ran] at again
        cases again
    · rcases removal with ⟨calm, _, again⟩ | ⟨_, _, again⟩
      · rw [ran] at again
        cases again
        rw [World.withDb_db, Table.mem_delete] at member
        have same := spelled.removed calm rule member.1 active address value
        have kept := member.2
        rw [same.1, same.2, beq_self_eq_true, beq_self_eq_true] at kept
        cases kept
      · rw [ran] at again
        cases again
    · rcases addition with ⟨_, domain, _, _, createdAt, lastRowid, answer,
        again, found, executed⟩ | ⟨_, _, _, again, same⟩
      · rw [ran] at again
        cases again
        obtain ⟨stored, holds, _, _, rules⟩ := mem_upsertWhitelist rfl executed
        rw [rules]
        have foreign : ∀ listed : WhitelistRecord, listed.rule =
            (Storage.newWhitelist world.db domain.systemId agent .dirAll email
              "system" none description createdAt).rule →
            listed.domainAddr = agent :=
          fun listed same => (Prod.mk.inj (Prod.mk.inj same).2).1
        constructor
        · rintro (rfl | ⟨there, _⟩)
          · exact absurd (foreign rule holds) other
          · exact there
        · exact fun there => .inr ⟨there, fun same => other (foreign rule same)⟩
      · rw [ran] at again
        cases again
        rw [same]
    · rcases removal with ⟨_, _, again⟩ | ⟨_, _, again⟩
      · rw [ran] at again
        cases again
        rw [World.withDb_db, Table.mem_delete]
        have kept : (rule.domainAddr == agent && rule.value == email) = false := by
          rw [beq_eq_false_iff_ne.mpr other]
          rfl
        exact ⟨fun left => left.1, fun there => ⟨there, kept⟩⟩
      · rw [ran] at again
        cases again
        rfl

/-! ## Another spelling -/

/-- A rule for `Mia@c.test`. -/
def miaListed : Database :=
  { Database.empty with
    whitelists := ⟨[{
      id := 1
      systemId := "sys-a"
      domainAddr := "eve@a.test"
      direction := .dirAll
      value := "Mia@c.test"
      description := none
      isActive := true
      createdAt := 0
      category := "system"
      apiKeyId := none }], by decide⟩ }

def eveRow : DomainAddrMetaRecord :=
  Storage.newDomainAddrMeta "eve@a.test" "sys-a" "" "" "" 0

/-- The contact is removed, and its rule is still there. -/
theorem removed_contact_stays :
    (∃ applied later,
      (executeRegular (Surroundings.steady 0 "uuid") .removeContact
          (.removeContact "mia@c.test") "eve@a.test" eveRow : Storage _)
        (World.start miaListed) = (.ok (.ok applied), later) ∧
      later.db.whitelists.rows.map (·.value) = ["Mia@c.test"]) ∧
      ¬ ∀ env agent email description row world,
        TakesEffect env agent email description row world := by
  have ran := @removeContact_run (Surroundings.steady 0 "uuid") "eve@a.test"
    "mia@c.test" eveRow (World.start miaListed)
  rcases ran with ⟨_, applied, ran⟩ | ⟨fails, _⟩
  · refine ⟨⟨applied, _, ran, by decide⟩, fun all => ?_⟩
    have gone := (all (Surroundings.steady 0 "uuid") "eve@a.test" "mia@c.test"
      none eveRow (World.start miaListed)).removed applied _ ran
    have letters : (Surroundings.steady 0 "uuid").tables.toLowercase
        "Mia@c.test" =
      (Surroundings.steady 0 "uuid").tables.toLowercase "mia@c.test" := by
      decide
    exact gone _ List.mem_cons_self rfl rfl letters
  · exact absurd rfl fails

end AimailGateway.Webhook.ContactCommands
