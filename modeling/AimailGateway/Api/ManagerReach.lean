import AimailGateway.Api.Domains
import AimailGateway.Api.WhitelistOwnership
import AimailGateway.Library.Execution
import AimailGateway.Webhook.ManagerCommands

/-! # The rule between an agent and its manager

The manager of an agent is stored with its metadata, the permission to write to
each other in the whitelist. Registration, the update of metadata and the
change of manager by mail write the first; the file follows both tables through
any sequence of them.
-/

namespace AimailGateway.ManagerReach

open Library Action Api

/-- Every agent with its manager. -/
def metaPairs (metas : DomainAddrMeta) : List (String × String) :=
  metas.rows.map fun row => (row.emailAddress, row.managerAddress)

def managerPairs (db : Database) : List (String × String) :=
  metaPairs db.domainAddrMeta

/-- The database, with the history of the entries of managers. -/
structure Directory where
  world : World
  /-- The managers agents have had. -/
  seen : List (String × String)
  /-- Entries that someone else has written since the manager was set. -/
  touched : List (String × String)
  /-- Entries that someone else has ever written. -/
  foreign : List (String × String)

def Directory.db (directory : Directory) : Database :=
  directory.world.db

/-- No agent is registered yet. -/
def Directory.start (db : Database) : Directory where
  world := .start { db with domainAddrMeta := .empty }
  seen := []
  touched := []
  foreign := []

/-- After one of the operations. What was written to an entry counts only while
its manager stays. -/
def Directory.after (directory : Directory) (world : World) : Directory where
  world := world
  seen := directory.seen ++ managerPairs directory.db
  touched := directory.touched.filter (managerPairs directory.db).contains
  foreign := directory.foreign

inductive Event where
  | registered (caller : ApiKeyRecord) (systemId : String) (generateCode : Bool)
      (req : RegisterAddressRequest)
  | updated (caller : ApiKeyRecord) (path : String)
      (req : UpdateAgentMetaRequest)
  | transferred (record : EmailRecord)
  /-- A whitelist request or a contact command. -/
  | ruled (agent value : String)

section Steps

variable (state : HttpState)

inductive Step : Directory → Event → Directory → Prop where
  | registered (directory : Directory) (caller : ApiKeyRecord)
      (systemId : String) (generateCode : Bool) (req : RegisterAddressRequest) :
      Step directory (.registered caller systemId generateCode req)
        (directory.after ((registerAddress state caller systemId generateCode
          req).run directory.world).2)
  | updated (directory : Directory) (caller : ApiKeyRecord) (path : String)
      (req : UpdateAgentMetaRequest) :
      Step directory (.updated caller path req)
        (directory.after ((updateAgentMeta state caller path req).run
          directory.world).2)
  | transferred (directory : Directory) (record : EmailRecord) :
      Step directory (.transferred record)
        (directory.after ((Webhook.handleChangeManager state.env record
          (Webhook.kindName .changeManager)).run directory.world).2)
  | ruled (directory : Directory) (agent value : String)
      (whitelists : Whitelists)
      (only : Table.ChangesOnly
        (fun rule => rule.domainAddr = agent ∧ rule.value = value)
        directory.db.whitelists whitelists) :
      Step directory (.ruled agent value)
        { directory with
          world := directory.world.withDb { directory.db with whitelists }
          touched := directory.touched ++ [(agent, value)]
          foreign := directory.foreign ++ [(agent, value)] }

/-- Every manager may write to its agent and be written to, unless someone else
has written its entry; a manager no agent has any more has no entry left,
unless someone else has written it. -/
structure ManagersReached (directory : Directory) : Prop where
  reached : ∀ agent manager, (agent, manager) ∈ managerPairs directory.db →
    manager ≠ "" → (agent, manager) ∉ directory.touched →
      EnvFactory.whitelistVerdict state.env directory.db agent manager "from" =
        true ∧
      EnvFactory.whitelistVerdict state.env directory.db agent manager "to" =
        true
  released : ∀ agent manager, (agent, manager) ∈ directory.seen →
    manager ≠ "" → (agent, manager) ∉ managerPairs directory.db →
      (agent, manager) ∉ directory.foreign →
        ∀ rule ∈ directory.db.whitelists, rule.domainAddr = agent →
          rule.value ≠ manager

/-- The manager is written as it is stored and short enough for a pattern, and
the agent is no board. -/
structure Fits (tables : CaseTables) (agent manager : String) : Prop where
  plain : Board.isBoardAddress agent = false
  stored : tables.toLowercase (Text.trim manager) = manager
  short : Text.byteLength manager ≤ maxPatternLen

/-- Addresses come as they are stored, a registration leaves the manager an
agent has, and no manager sends a change of its own agent's. -/
def KeepsManager (directory : Directory) : Event → Prop
  | .registered caller systemId _ req =>
      state.env.tables.toLowercase req.email = req.email ∧
      ∀ system, checkRegistration state caller systemId req = .ok system →
        Fits state.env.tables req.email
          ((effectiveManager state system req).getD "") ∧
        ∀ manager, (req.email, manager) ∈ managerPairs directory.db →
          manager = "" ∨ manager = (effectiveManager state system req).getD ""
  | .updated _ path req =>
      state.env.tables.toLowercase (state.env.tables.toLowercase path) =
        state.env.tables.toLowercase path ∧
      ∀ manager, req.managerAddress = some manager →
        Fits state.env.tables (state.env.tables.toLowercase path) manager
  | .transferred record => ∀ newManager agent,
      Webhook.matchTransfer state.env.tables record =
        .ok (.transferManager newManager agent) →
      ¬Webhook.ManagedBy state.env.tables directory.db agent record.sender
  | .ruled _ _ => True

end Steps

/-! ## What an operation does to the tables -/

/-- The rule between an agent and its manager is there, both ways. -/
def Ruled (db : Database) (agent manager : String) : Prop :=
  ∃ domain ∈ db.systemDomains, domain.domain = agent ∧
    ∃ rule ∈ db.whitelists, rule.systemId = domain.systemId ∧
      rule.domainAddr = agent ∧ rule.value = manager ∧
      rule.direction = .dirAll ∧ rule.isActive = true

/-- The metadata of one agent is written, with its manager. -/
def MetaSet (agent manager : String) (before after : DomainAddrMeta) : Prop :=
  ∀ other stored, (other, stored) ∈ metaPairs after ↔
    (other = agent ∧ stored = manager) ∨
      (other ≠ agent ∧ (other, stored) ∈ metaPairs before)

/-- Registrations stay in their systems. -/
def DomainsKept (before after : SystemDomains) : Prop :=
  ∀ domain ∈ before, ∃ next ∈ after,
    next.domain = domain.domain ∧ next.systemId = domain.systemId

structure RuleSet (agent manager : String) (before after : Database) : Prop where
  frame : after.systemDomains = before.systemDomains ∧
    after.domainAddrMeta = before.domainAddrMeta
  kept : ∀ rule ∈ before.whitelists,
    ¬(rule.domainAddr = agent ∧ rule.value = manager) →
      rule ∈ after.whitelists
  grown : ∀ rule ∈ after.whitelists, rule ∈ before.whitelists ∨
    (rule.domainAddr = agent ∧ rule.value = manager)
  ruled : Ruled after agent manager

structure Sets (agent manager : String) (before after : Database) : Prop where
  metas : MetaSet agent manager before.domainAddrMeta after.domainAddrMeta
  domains : DomainsKept before.systemDomains after.systemDomains
  registered : ∃ domain ∈ after.systemDomains, domain.domain = agent
  kept : ∀ rule ∈ before.whitelists, rule.domainAddr ≠ agent →
    rule ∈ after.whitelists
  grown : ∀ rule ∈ after.whitelists, rule ∈ before.whitelists ∨
    (rule.domainAddr = agent ∧ rule.value = manager)
  ruled : manager ≠ "" → Ruled after agent manager ∨
    ((agent, manager) ∈ managerPairs before ∧
      after.systemDomains = before.systemDomains ∧
      after.whitelists = before.whitelists)
  released : ∀ stored, (agent, stored) ∈ managerPairs before → stored ≠ "" →
    stored ≠ manager → ∀ rule ∈ after.whitelists, rule.domainAddr = agent →
      rule.value ≠ stored

section Tables

variable {agent manager : String} {before middle after : Database}

theorem mem_metaPairs {metas : DomainAddrMeta} :
    (agent, manager) ∈ metaPairs metas ↔ ∃ row ∈ metas,
      row.emailAddress = agent ∧ row.managerAddress = manager := by
  simp [metaPairs]

theorem metaPairs_unique {metas : DomainAddrMeta} {other : String}
    (one : (agent, manager) ∈ metaPairs metas)
    (two : (agent, other) ∈ metaPairs metas) : manager = other := by
  rcases mem_metaPairs.mp one with ⟨first, member, named, manages⟩
  rcases mem_metaPairs.mp two with ⟨second, there, same, equal⟩
  have row := DomainAddrMeta.eq_of_email member there (named.trans same.symm)
  rw [← manages, row, equal]

theorem upsertMeta_sets (metas : DomainAddrMeta)
    (record : DomainAddrMetaRecord) :
    ∃ written, metas.upsert? (·.emailAddress == record.emailAddress)
        (Storage.overwriteMeta record) record = some written ∧
      MetaSet record.emailAddress record.managerAddress metas written := by
  by_cases known : metas.rows.any (·.emailAddress == record.emailAddress) = true
  · have emails : ∀ row : DomainAddrMetaRecord,
        (if row.emailAddress == record.emailAddress then
          Storage.overwriteMeta record row else row).emailAddress =
            row.emailAddress := by
      intro row
      split
      · next same => exact (beq_iff_eq.mp same).symm
      · rfl
    have succeeds : ∃ written,
        metas.update? (·.emailAddress == record.emailAddress)
          (Storage.overwriteMeta record) = some written := by
      apply Table.update?_isSome
      refine metas.distinct.imp ?_
      intro first second distinct
      rw [DomainAddrMetaRecord.conflict, emails, emails]
      exact distinct
    rcases succeeds with ⟨written, updated⟩
    refine ⟨written, by rw [Table.upsert?, if_pos known, updated], ?_⟩
    intro other stored
    rw [mem_metaPairs]
    constructor
    · rintro ⟨row, member, named, manages⟩
      rcases (Table.mem_of_update? updated).mp member with ⟨old, there, changed⟩
      split at changed
      · subst changed
        exact .inl ⟨named.symm, manages.symm⟩
      · next missed =>
          subst changed
          refine .inr ⟨?_, mem_metaPairs.mpr ⟨old, there, named, manages⟩⟩
          rw [← named]
          simpa using missed
    · rintro (⟨rfl, rfl⟩ | ⟨different, pair⟩)
      · rcases List.any_eq_true.mp known with ⟨row, member, same⟩
        exact ⟨Storage.overwriteMeta record row,
          (Table.mem_of_update? updated).mpr ⟨row, member, if_pos same⟩, rfl, rfl⟩
      · rcases mem_metaPairs.mp pair with ⟨row, member, named, manages⟩
        refine ⟨row, (Table.mem_of_update? updated).mpr
          ⟨row, member, if_neg ?_⟩, named, manages⟩
        rw [beq_iff_eq, named]
        exact different
  · have free : ∀ row ∈ metas, row.emailAddress ≠ record.emailAddress := by
      intro row member same
      exact known (List.any_eq_true.mpr ⟨row, member, beq_iff_eq.mpr same⟩)
    have succeeds : ∃ written, metas.insert? record = some written :=
      Table.insert?_isSome fun row member =>
        beq_eq_false_iff_ne.mpr (free row member)
    rcases succeeds with ⟨written, inserted⟩
    refine ⟨written, by rw [Table.upsert?, if_neg known, inserted], ?_⟩
    intro other stored
    rw [mem_metaPairs]
    constructor
    · rintro ⟨row, member, named, manages⟩
      rcases (Table.mem_of_insert? inserted).mp member with old | rfl
      · refine .inr ⟨?_, mem_metaPairs.mpr ⟨row, old, named, manages⟩⟩
        rw [← named]
        exact free row old
      · exact .inl ⟨named.symm, manages.symm⟩
    · rintro (⟨rfl, rfl⟩ | ⟨_, pair⟩)
      · exact ⟨record, (Table.mem_of_insert? inserted).mpr (.inr rfl), rfl, rfl⟩
      · rcases mem_metaPairs.mp pair with ⟨row, member, named, manages⟩
        exact ⟨row, (Table.mem_of_insert? inserted).mpr (.inl member), named,
          manages⟩

theorem upsertWhitelist_succeeds (db : Database) (record : WhitelistRecord)
    (lastRowid : Int) (fresh : record.id = Storage.nextWhitelistId db) :
    ∃ answer written, Storage.upsertWhitelist record lastRowid db =
      .ok (answer, written) := by
  unfold Storage.upsertWhitelist
  cases search : db.whitelists.find? (·.rule == record.rule) with
  | some existing =>
      have keys : ∀ row : WhitelistRecord,
          (if row.rule == record.rule then
            Storage.overwriteWhitelist record row else row).id = row.id ∧
          (if row.rule == record.rule then
            Storage.overwriteWhitelist record row else row).rule = row.rule := by
        intro row
        split <;> exact ⟨rfl, rfl⟩
      have succeeds : ∃ written, db.whitelists.update? (·.rule == record.rule)
          (Storage.overwriteWhitelist record) = some written := by
        apply Table.update?_isSome
        refine db.whitelists.distinct.imp ?_
        intro first second distinct
        rw [WhitelistRecord.conflict, (keys first).1, (keys first).2,
          (keys second).1, (keys second).2]
        exact distinct
      rcases succeeds with ⟨written, updated⟩
      simp only [updated]
      exact ⟨_, _, rfl⟩
  | none =>
      have free := Table.find?_eq_none.mp search
      have succeeds : ∃ written, db.whitelists.insert? record = some written := by
        apply Table.insert?_isSome
        intro row member
        rw [WhitelistRecord.conflict, free row member, Bool.or_false,
          beq_eq_false_iff_ne, fresh]
        exact Int.ne_of_lt (Storage.lt_nextWhitelistId member)
      rcases succeeds with ⟨written, inserted⟩
      simp only [inserted]
      exact ⟨_, _, rfl⟩

theorem ruleSet_of_upsert {record answer : WhitelistRecord} {lastRowid : Int}
    {domain : SystemDomainRecord} (member : domain ∈ before.systemDomains)
    (named : domain.domain = agent)
    (executed : Storage.upsertWhitelist record lastRowid before =
      .ok (answer, after))
    (rule : record.rule = (domain.systemId, agent, manager))
    (both : record.direction = .dirAll) (active : record.isActive = true) :
    RuleSet agent manager before after := by
  have parts : record.systemId = domain.systemId ∧ record.domainAddr = agent ∧
      record.value = manager :=
    ⟨congrArg Prod.fst rule, congrArg (·.2.1) rule, congrArg (·.2.2) rule⟩
  rcases Storage.upsertWhitelist_ok executed with
    ⟨_, _, whitelists, inserted, rfl⟩ | ⟨_, existing, there, same, whitelists,
      updated, rfl⟩
  · refine ⟨⟨rfl, rfl⟩, ?_, ?_, ?_⟩
    · exact fun old before _ => (Table.mem_of_insert? inserted).mpr (.inl before)
    · intro row written
      rcases (Table.mem_of_insert? inserted).mp written with old | rfl
      · exact .inl old
      · exact .inr parts.2
    · exact ⟨domain, member, named, record,
        (Table.mem_of_insert? inserted).mpr (.inr rfl), parts.1, parts.2.1,
        parts.2.2, both, active⟩
  · refine ⟨⟨rfl, rfl⟩, ?_, ?_, ?_⟩
    · intro old before other
      refine (Table.mem_of_update? updated).mpr ⟨old, before, if_neg ?_⟩
      intro chosen
      have equal := (beq_iff_eq.mp chosen).trans rule
      exact other ⟨congrArg (·.2.1) equal, congrArg (·.2.2) equal⟩
    · intro row written
      rcases (Table.mem_of_update? updated).mp written with ⟨old, before, changed⟩
      split at changed
      · next chosen =>
          subst changed
          have equal := (beq_iff_eq.mp chosen).trans rule
          exact .inr ⟨congrArg (·.2.1) equal, congrArg (·.2.2) equal⟩
      · subst changed
        exact .inl before
    · have equal := same.trans rule
      exact ⟨domain, member, named, Storage.overwriteWhitelist record existing,
        (Table.mem_of_update? updated).mpr
          ⟨existing, there, if_pos (beq_iff_eq.mpr same)⟩,
        congrArg Prod.fst equal, congrArg (·.2.1) equal,
        congrArg (·.2.2) equal, both, rfl⟩

theorem DomainsKept.refl (domains : SystemDomains) :
    DomainsKept domains domains :=
  fun domain member => ⟨domain, member, rfl, rfl⟩

theorem matchesPattern_self (tables : CaseTables) (pattern : List Char) :
    matchesPattern tables pattern pattern = true := by
  induction pattern with
  | nil => rfl
  | cons head tail induction =>
      by_cases star : head = '*'
      · subst star
        have rest : anyRest (matchesPattern tables tail) tail = true := by
          cases tail with
          | nil => exact induction
          | cons next others =>
              rw [anyRest, induction]
              rfl
        rw [matchesPattern, anyRest, rest]
        simp
      · have step : matchesPattern tables (head :: tail) (head :: tail) =
            (tables.foldCase head == tables.foldCase head &&
              matchesPattern tables tail tail) := by
          rw [matchesPattern]
          exact star
        rw [step, induction]
        simp

theorem Ruled.verdict {env : Surroundings} {db : Database} {direction : String}
    (ruled : Ruled db agent manager) (fits : Fits env.tables agent manager) :
    EnvFactory.whitelistVerdict env db agent manager direction = true := by
  rcases ruled with ⟨domain, member, named, rule, there, system, address, value,
    both, active⟩
  have found : db.systemDomains.find? (·.domain == agent) = some domain :=
    named ▸ SystemDomains.find?_domain member
  have passes : isWhitelistedWildcard env.tables
      ((db.whitelists.select fun rule =>
        rule.systemId == domain.systemId && rule.domainAddr == agent &&
          (some rule.direction == WhitelistDirection.parse direction ||
            rule.direction == .dirAll) && rule.isActive).map (·.value))
      manager = true := by
    refine List.any_eq_true.mpr ⟨manager, ?_, ?_⟩
    · refine List.mem_map.mpr ⟨rule, Table.mem_select.mpr ⟨there, ?_⟩, value⟩
      simp [system, address, both, active]
    · simp [fits.short, matchesPattern_self]
  rw [EnvFactory.whitelistVerdict, fits.plain, if_neg (by simp), found]
  simp [passes]

end Tables

/-! ## The invariant -/

/-- What every reachable state keeps. -/
structure Reach (tables : CaseTables) (directory : Directory) : Prop where
  registered : ∀ agent manager, (agent, manager) ∈ managerPairs directory.db →
    ∃ domain ∈ directory.db.systemDomains, domain.domain = agent
  fits : ∀ agent manager, (agent, manager) ∈ managerPairs directory.db →
    Fits tables agent manager
  ruled : ∀ agent manager, (agent, manager) ∈ managerPairs directory.db →
    manager ≠ "" → (agent, manager) ∉ directory.touched →
      Ruled directory.db agent manager
  released : ∀ agent manager, (agent, manager) ∈ directory.seen →
    manager ≠ "" → (agent, manager) ∉ managerPairs directory.db →
      (agent, manager) ∉ directory.foreign →
        ∀ rule ∈ directory.db.whitelists, rule.domainAddr = agent →
          rule.value ≠ manager

section Invariant

variable {tables : CaseTables} {directory : Directory} {world : World}
  {agent manager : String}

theorem Ruled.kept {before after : Database} (ruled : Ruled before agent manager)
    (domains : DomainsKept before.systemDomains after.systemDomains)
    (kept : ∀ rule ∈ before.whitelists, rule.domainAddr = agent →
      rule.value = manager → rule ∈ after.whitelists) :
    Ruled after agent manager := by
  rcases ruled with ⟨domain, member, named, rule, there, system, address, value,
    both, active⟩
  rcases domains domain member with ⟨next, nextMember, same, owner⟩
  exact ⟨next, nextMember, same.trans named, rule, kept rule there address value,
    system.trans owner.symm, address, value, both, active⟩

theorem Reach.unchanged (reach : Reach tables directory)
    (same : world.db = directory.db) : Reach tables (directory.after world) := by
  have equal : (directory.after world).db = directory.db := same
  constructor
  · rw [equal]
    exact reach.registered
  · rw [equal]
    exact reach.fits
  · rw [equal]
    intro agent manager pair named untouched
    refine reach.ruled agent manager pair named fun touched => untouched ?_
    exact List.mem_filter.mpr ⟨touched, List.contains_iff_mem.mpr pair⟩
  · rw [equal]
    intro agent manager seen named gone own
    rcases List.mem_append.mp seen with before | current
    · exact reach.released agent manager before named gone own
    · exact absurd current gone

theorem Reach.sets (reach : Reach tables directory)
    (fits : Fits tables agent manager)
    (sets : Sets agent manager directory.db world.db) :
    Reach tables (directory.after world) where
  registered := by
    intro other stored pair
    rcases (sets.metas other stored).mp pair with ⟨rfl, _⟩ | ⟨_, before⟩
    · exact sets.registered
    · rcases reach.registered other stored before with ⟨domain, member, named⟩
      rcases sets.domains domain member with ⟨next, there, same, _⟩
      exact ⟨next, there, same.trans named⟩
  fits := by
    intro other stored pair
    rcases (sets.metas other stored).mp pair with ⟨rfl, rfl⟩ | ⟨_, before⟩
    · exact fits
    · exact reach.fits other stored before
  ruled := by
    intro other stored pair named untouched
    have known : (other, stored) ∈ managerPairs directory.db →
        Ruled directory.db other stored := by
      intro before
      refine reach.ruled other stored before named fun touched => untouched ?_
      exact List.mem_filter.mpr ⟨touched, List.contains_iff_mem.mpr before⟩
    rcases (sets.metas other stored).mp pair with ⟨rfl, rfl⟩ | ⟨different, before⟩
    · rcases sets.ruled named with ruled | ⟨before, domains, rules⟩
      · exact ruled
      · refine (known before).kept ?_ fun rule there _ _ => ?_
        · show DomainsKept directory.db.systemDomains world.db.systemDomains
          rw [domains]
          exact DomainsKept.refl _
        · show rule ∈ world.db.whitelists
          rwa [rules]
    · refine (known before).kept sets.domains fun rule there address _ => ?_
      refine sets.kept rule there ?_
      rw [address]
      exact different
  released := by
    intro other stored seen named gone own rule there address value
    rcases List.mem_append.mp seen with before | current
    · by_cases managed : (other, stored) ∈ managerPairs directory.db
      · by_cases same : other = agent
        · subst same
          have moved : stored ≠ manager := by
            rintro rfl
            exact gone ((sets.metas other stored).mpr (.inl ⟨rfl, rfl⟩))
          exact sets.released stored managed named moved rule there address value
        · exact gone ((sets.metas other stored).mpr (.inr ⟨same, managed⟩))
      · rcases sets.grown rule there with old | ⟨mine, set⟩
        · exact reach.released other stored before named managed own rule old
            address value
        · refine gone ((sets.metas other stored).mpr (.inl ?_))
          exact ⟨address.symm.trans mine, value.symm.trans set⟩
    · by_cases same : other = agent
      · subst same
        have moved : stored ≠ manager := by
          rintro rfl
          exact gone ((sets.metas other stored).mpr (.inl ⟨rfl, rfl⟩))
        exact sets.released stored current named moved rule there address value
      · exact gone ((sets.metas other stored).mpr (.inr ⟨same, current⟩))

theorem Reach.written {value : String} {whitelists : Whitelists}
    (reach : Reach tables directory)
    (only : Table.ChangesOnly
      (fun rule => rule.domainAddr = agent ∧ rule.value = value)
      directory.db.whitelists whitelists) :
    Reach tables { directory with
      world := directory.world.withDb { directory.db with whitelists }
      touched := directory.touched ++ [(agent, value)]
      foreign := directory.foreign ++ [(agent, value)] } where
  registered := reach.registered
  fits := reach.fits
  ruled := by
    intro other stored pair named untouched
    have before := reach.ruled other stored pair named fun touched =>
      untouched (List.mem_append_left _ touched)
    refine before.kept (DomainsKept.refl _) fun rule there address kept => ?_
    refine (only rule ?_).mp there
    rintro ⟨mine, written⟩
    refine untouched (List.mem_append_right _ (List.mem_singleton.mpr ?_))
    rw [← address, mine, ← kept, written]
  released := by
    intro other stored seen named gone own rule there address kept
    have before : rule ∈ directory.db.whitelists := by
      refine (only rule ?_).mpr there
      rintro ⟨mine, written⟩
      refine own (List.mem_append_right _ (List.mem_singleton.mpr ?_))
      rw [← address, mine, ← kept, written]
    exact reach.released other stored seen named gone
      (fun foreign => own (List.mem_append_left _ foreign)) rule before address
      kept

theorem Reach.start (tables : CaseTables) (db : Database) :
    Reach tables (.start db) where
  registered := fun _ _ pair => absurd pair List.not_mem_nil
  fits := fun _ _ pair => absurd pair List.not_mem_nil
  ruled := fun _ _ pair => absurd pair List.not_mem_nil
  released := fun _ _ seen => absurd seen List.not_mem_nil

theorem Reach.managersReached {state : HttpState}
    (reach : Reach state.env.tables directory) :
    ManagersReached state directory where
  reached := by
    intro agent manager pair named untouched
    have ruled := reach.ruled agent manager pair named untouched
    have fits := reach.fits agent manager pair
    exact ⟨ruled.verdict fits, ruled.verdict fits⟩
  released := reach.released

end Invariant

/-! ## What the operations do -/

section Operations

variable {state : HttpState} {env : Surroundings} {world : World}
  {agent manager : String}
  {failed : AppError → World → Prop} {systemId : String}
  {ok : Unit → World → Prop} {domain : SystemDomainRecord}
  {caller : ApiKeyRecord}
  {before middle after : Database} {req : RegisterAddressRequest}

theorem ends_calm_call (calm : env.Calm)
    {statement : Database → Except AppError (α × Database)}
    {ok : α → World → Prop}
    (accepted : ∀ error, statement world.db ≠ .error error)
    (answer : ∀ value db, statement world.db = .ok (value, db) →
      ok value (world.withDb db)) : (call env statement).Ends ok failed world := by
  cases outcome : statement world.db with
  | error error => exact absurd outcome (accepted error)
  | ok pair => exact (calm.ends_call outcome).mpr (answer pair.1 pair.2 outcome)

theorem upsertDomainAddrMeta_sets (calm : env.Calm)
    {managerAddress agentSignature agentPersona : Option String}
    (lower : env.tables.toLowercase agent = agent)
    (stored : env.tables.toLowercase (Text.trim (managerAddress.getD "")) =
      manager)
    {ok : DomainAddrMetaRecord → World → Prop}
    (written : ∀ record metas later,
      MetaSet agent manager world.db.domainAddrMeta metas →
      later.db = { world.db with domainAddrMeta := metas } → ok record later) :
    (Storage.upsertDomainAddrMeta env agent systemId managerAddress
      agentSignature agentPersona).Ends ok failed world := by
  rw [Storage.upsertDomainAddrMeta, ends_bind, ends_now]
  rcases upsertMeta_sets world.db.domainAddrMeta (Storage.newDomainAddrMeta
    (env.tables.toLowercase agent) systemId
    (env.tables.toLowercase (Text.trim (managerAddress.getD "")))
    (agentSignature.getD "") (agentPersona.getD "") (env.clock world.tick)) with
    ⟨metas, upserted, sets⟩
  simp only [Storage.newDomainAddrMeta, lower, stored] at upserted sets ⊢
  apply ends_calm_call calm
  · intro error refused
    simp only [World.later_db, upserted] at refused
    cases refused
  · intro record db outcome
    simp only [World.later_db, upserted] at outcome
    cases outcome
    exact written _ metas _ sets rfl

theorem createWhitelistEntry_sets (calm : env.Calm)
    {description : Option String}
    (member : domain ∈ world.db.systemDomains) (named : domain.domain = agent)
    {ok : WhitelistRecord → World → Prop}
    (written : ∀ answer later, RuleSet agent manager world.db later.db →
      ok answer later) :
    (EnvFactory.createWhitelistEntry env agent "all" manager
      description).Ends ok failed world := by
  have found : world.db.systemDomains.find? (·.domain == agent) = some domain :=
    named ▸ SystemDomains.find?_domain member
  rw [EnvFactory.createWhitelistEntry, EnvFactory.createWhitelistEntryFull,
    ends_bind, EnvFactory.resolveSystemIdFromDomain, ends_bind,
    Storage.getSystemDomainByName, query, calm.ends_call rfl]
  simp only [found, ends_pure]
  rw [Storage.insertWhitelist]
  simp only [ends_bind, ends_now, ends_staleRowid]
  have direction : WhitelistDirection.parse "all" = some .dirAll := rfl
  apply ends_calm_call calm
  · intro error refused
    simp only [direction] at refused
    rcases upsertWhitelist_succeeds _ (Storage.newWhitelist _ domain.systemId
      agent .dirAll manager "system" none description _) _ rfl with
      ⟨answer, after, executed⟩
    rw [executed] at refused
    cases refused
  · intro answer db executed
    simp only [direction] at executed
    exact written answer _ (ruleSet_of_upsert member named executed rfl rfl rfl)

theorem createManagerRule_sets (calm : state.env.Calm)
    (member : domain ∈ world.db.systemDomains) (named : domain.domain = agent)
    {failed : ε → World → Prop}
    (written : ∀ later, RuleSet agent manager world.db later.db → ok () later) :
    (createManagerRule state agent manager : Action World ε Unit).Ends ok failed
      world := by
  rw [createManagerRule, ends_ignore]
  exact createWhitelistEntry_sets calm member named fun _ later set =>
    written later set

/-! ### Registration -/

/-- An address is registered with its metadata; its rules are still to come. -/
structure Placed (agent manager : String) (before after : Database) : Prop where
  metas : MetaSet agent manager before.domainAddrMeta after.domainAddrMeta
  domains : DomainsKept before.systemDomains after.systemDomains
  registered : ∃ domain ∈ after.systemDomains, domain.domain = agent
  rules : after.whitelists = before.whitelists

theorem domainsKept_update {before after : SystemDomains} {id : String}
    {webhookUrl webhookSecret : Option String} {isActive : Option Bool}
    {updatedAt : Timestamp}
    (updated : before.update? (·.id == id) (Storage.changeSystemDomain webhookUrl
      webhookSecret isActive updatedAt) = some after) :
    DomainsKept before after := by
  intro domain member
  refine ⟨_, (Table.mem_of_update? updated).mpr ⟨domain, member, rfl⟩, ?_⟩
  split <;> exact ⟨rfl, rfl⟩

theorem domainsKept_insert {before after : SystemDomains}
    {record : SystemDomainRecord} (inserted : before.insert? record = some after) :
    DomainsKept before after :=
  fun domain member =>
    ⟨domain, (Table.mem_of_insert? inserted).mpr (.inl member), rfl, rfl⟩

theorem syncDomainMeta_sets (calm : env.Calm) {managerAddress : Option String}
    (address : Text.containsChar '@' agent = true)
    (lower : env.tables.toLowercase agent = agent)
    (stored : env.tables.toLowercase (Text.trim (managerAddress.getD "")) =
      manager)
    (written : ∀ metas later,
      MetaSet agent manager world.db.domainAddrMeta metas →
      later.db = { world.db with domainAddrMeta := metas } → ok () later) :
    (EnvFactory.syncDomainMeta env agent systemId managerAddress).Ends ok failed
      world := by
  rw [EnvFactory.syncDomainMeta, if_pos address, ends_ignore]
  exact upsertDomainAddrMeta_sets calm lower stored fun _ metas later set same =>
    written metas later set same

theorem createDomain_sets (calm : env.Calm) {id systemId : String}
    {webhookUrl webhookSecret managerAddress : Option String}
    (address : Text.containsChar '@' agent = true)
    (lower : env.tables.toLowercase agent = agent)
    (stored : env.tables.toLowercase (Text.trim (managerAddress.getD "")) =
      manager)
    {ok : SystemDomainRecord → World → Prop}
    (refused : ∀ error, error.notConflict →
      ∀ later, later.db = world.db → failed error later)
    (conflicts : ∀ existing ∈ world.db.systemDomains, existing.domain = agent →
      ∀ error later, later.db = world.db → failed error later)
    (written : ∀ record later, Placed agent manager world.db later.db →
      ok record later) :
    (EnvFactory.createDomain env id systemId agent webhookUrl webhookSecret
      managerAddress).Ends ok failed world := by
  rw [EnvFactory.createDomain, ends_bind]
  apply EnvFactory.validateWebhookUrl_ends
  · exact refused
  intro checked checkedDb
  rw [ends_bind, Storage.getSystemDomainByName, query, calm.ends_call rfl]
  cases search : checked.db.systemDomains.find? (·.domain == agent) with
  | none =>
      simp only [ends_bind]
      apply Storage.fails_insertSystemDomain.ends
      apply Storage.insertSystemDomain_ends
      · exact fun error later same notConflict =>
          refused error notConflict later (same.trans checkedDb)
      · intro createdAt systemDomains inserted record insertion changed
        rw [World.withDb_db, checkedDb] at insertion changed
        apply syncDomainMeta_sets calm address lower stored
        intro metas later set same
        rw [changed] at set same
        refine written _ later ?_
        rw [same]
        exact ⟨set, domainsKept_insert insertion,
          ⟨_, (Table.mem_of_insert? insertion).mpr (.inr rfl), rfl⟩, rfl⟩
  | some existing =>
      rcases Table.mem_of_find? search with ⟨member, chosen⟩
      rw [checkedDb] at member
      have named : existing.domain = agent := beq_iff_eq.mp chosen
      simp only
      by_cases owned : existing.systemId = systemId
      · simp only [ne_eq, owned, not_true_eq_false, if_false, ends_bind]
        apply Storage.fails_updateSystemDomain.ends
        apply Storage.updateSystemDomain_ends
        · exact fun error later same notConflict =>
            refused error notConflict later (same.trans checkedDb)
        · exact fun _ later same =>
            refused (.internal _) True.intro later (same.trans checkedDb)
        · intro row _ _ updatedAt systemDomains refreshed change updated changed
          rw [World.withDb_db, checkedDb] at updated changed
          simp only [ends_bind]
          apply syncDomainMeta_sets calm address lower stored
          intro metas later set same
          rw [changed] at set same
          refine written _ later ?_
          rw [same]
          have kept := domainsKept_update updated
          rcases kept existing member with ⟨next, there, equal, _⟩
          exact ⟨set, kept, ⟨next, there, equal.trans named⟩, rfl⟩
      · simp only [ne_eq, owned, not_false_eq_true, if_true]
        exact conflicts existing member named _ _ checkedDb

theorem Placed.sets (placed : Placed agent manager before middle)
    (ruled : (manager = "" ∧ after = middle) ∨
      RuleSet agent manager middle after)
    (settled : ∀ stored, (agent, stored) ∈ managerPairs before →
      stored = "" ∨ stored = manager) : Sets agent manager before after := by
  have released : ∀ stored, (agent, stored) ∈ managerPairs before →
      stored ≠ "" → stored ≠ manager → ∀ rule ∈ after.whitelists,
        rule.domainAddr = agent → rule.value ≠ stored := by
    intro stored pair named other
    exact absurd ((settled stored pair).resolve_left named) other
  rcases ruled with ⟨unmanaged, rfl⟩ | ruled
  · refine ⟨placed.metas, placed.domains, placed.registered, ?_, ?_,
      fun managed => absurd unmanaged managed, released⟩
    · intro rule member _
      rwa [placed.rules]
    · intro rule member
      rw [placed.rules] at member
      exact .inl member
  · refine ⟨?_, ?_, ?_, ?_, ?_, fun _ => .inl ruled.ruled, released⟩
    · rw [ruled.frame.2]
      exact placed.metas
    · rw [ruled.frame.1]
      exact placed.domains
    · rw [ruled.frame.1]
      exact placed.registered
    · intro rule member other
      refine ruled.kept rule ?_ fun mine => other mine.1
      rwa [placed.rules]
    · intro rule member
      rw [← placed.rules]
      exact ruled.grown rule member

theorem Sets.codes (sets : Sets agent manager before middle)
    (codes : CodesWrite systemId middle after) :
    Sets agent manager before after := by
  rw [codes.frame]
  exact ⟨sets.metas, sets.domains, sets.registered, sets.kept, sets.grown,
    sets.ruled, sets.released⟩

theorem address_of_checkRegistration {system : SystemRecord}
    (checked : checkRegistration state caller systemId req = .ok system) :
    Text.containsChar '@' req.email = true := by
  by_contra bare
  have refused : ∃ error, checkAddressShape systemId req.email =
      .error error := by
    rw [checkAddressShape, if_pos (by simp [bare])]
    exact ⟨_, rfl⟩
  rcases refused with ⟨error, refused⟩
  unfold checkRegistration at checked
  rw [refused] at checked
  cases scope : requireScopeAny caller ["system", "agent_admin"] with
  | error reason =>
      rw [scope] at checked
      cases checked
  | ok value =>
      rw [scope] at checked
      cases checked

theorem registerAddress_sets (calm : state.env.Calm) {generateCode : Bool}
    (lower : state.env.tables.toLowercase req.email = req.email)
    (fits : ∀ system, checkRegistration state caller systemId req = .ok system →
      Fits state.env.tables req.email
        ((effectiveManager state system req).getD "") ∧
      ∀ stored, (req.email, stored) ∈ managerPairs world.db →
        stored = "" ∨ stored = (effectiveManager state system req).getD "")
    {left : World → Prop}
    (kept : ∀ later : World, later.db = world.db → left later)
    (sets : ∀ manager (later : World), Fits state.env.tables req.email manager →
      Sets req.email manager world.db later.db → left later) :
    (registerAddress state caller systemId generateCode req).Ends
      (fun _ later => left later) (fun _ later => left later) world := by
  rw [registerAddress, ends_bind, ends_check]
  refine ⟨fun system checked => ?_, fun _ _ => kept _ rfl⟩
  have address := address_of_checkRegistration checked
  rcases fits system checked with ⟨fitting, settled⟩
  rw [ends_bind]
  apply requireAnchor_ends
  · exact fun _ later same => kept later same
  intro _ _ _ _ _
  rw [ends_bind, ends_check]
  refine ⟨fun _ _ => ?_, fun _ _ => kept _ rfl⟩
  simp only
  rw [ends_bind, ends_attempt]
  apply createDomain_sets calm address lower fitting.stored
  · intro error notConflict later same
    cases error with
    | conflict text => exact notConflict.elim
    | _ => exact kept later same
  · intro existing member named error later same
    have conflicts : ∀ text, (answerConflict state systemId req
        (effectiveManager state system req) text).Ends
          (fun _ later => left later) (fun _ later => left later)
            later := by
      intro text
      rw [answerConflict, ends_bind]
      cases manages : effectiveManager state system req with
      | none => exact kept later same
      | some manager =>
          rw [manages] at fitting settled
          rw [optionally, syncForeignAddress, ends_bind, ends_ignore]
          apply upsertDomainAddrMeta_sets calm lower fitting.stored
          intro _ metas middle set changed
          rw [same] at set changed
          have there : existing ∈ middle.db.systemDomains := by
            rw [changed]
            exact member
          apply createManagerRule_sets calm there named
          intro last ruled
          have placed : Placed req.email manager world.db middle.db := by
            rw [changed]
            exact ⟨set, DomainsKept.refl _, ⟨existing, member, named⟩, rfl⟩
          exact sets manager _ fitting (placed.sets (.inr ruled) settled)
    cases error with
    | conflict text => exact conflicts _
    | _ => exact kept later same
  · intro record middle placed
    simp only
    have completes : ∀ ruled : World, Sets req.email
        ((effectiveManager state system req).getD "") world.db ruled.db →
        (completeRegistration state systemId req generateCode none record).Ends
          (fun _ later => left later) (fun _ later => left later) ruled := by
      intro ruled set
      rw [completeRegistration, optionally, ends_bind, ends_pure]
      split
      · rw [ends_bind, ends_mapError]
        apply generateActivationCodes_ends
        · exact fun _ later codes => sets _ _ fitting (set.codes codes)
        · intro codes later written _
          cases codes with
          | nil => exact sets _ _ fitting (set.codes written)
          | cons code rest => exact sets _ _ fitting (set.codes written)
      · exact sets _ _ fitting set
    cases manages : effectiveManager state system req with
    | none =>
        rw [manages] at placed settled completes
        exact completes middle (placed.sets (.inl ⟨rfl, rfl⟩) settled)
    | some manager =>
        rw [manages] at placed settled completes
        rcases placed.registered with ⟨domain, member, named⟩
        rw [completeRegistration, ends_bind]
        apply createManagerRule_sets calm member named
        intro later ruled
        exact completes later (placed.sets (.inr ruled) settled)

/-! ### Update of metadata and change of manager -/

theorem syncManagerRule_sets (calm : state.env.Calm) {oldManager : String}
    (member : domain ∈ world.db.systemDomains) (named : domain.domain = agent)
    {failed : HttpError → World → Prop}
    (moved : ∀ later dropped, dropped = { world.db with
        whitelists := world.db.whitelists.delete fun row =>
          row.domainAddr == agent && row.value == oldManager } →
      (oldManager ≠ "" → (manager = "" ∧ later.db = dropped) ∨
        RuleSet agent manager dropped later.db) →
      (oldManager = "" → (manager = "" ∧ later.db = world.db) ∨
        RuleSet agent manager world.db later.db) → ok () later) :
    (syncManagerRule state agent oldManager manager).Ends ok failed world := by
  have creates : ∀ middle : World, domain ∈ middle.db.systemDomains →
      (∀ later, (manager = "" ∧ later.db = middle.db) ∨
        RuleSet agent manager middle.db later.db → ok () later) →
      ((EnvFactory.createWhitelistEntry state.env agent "all" manager
        (some "Agent ↔ Manager (auto-synced)")).ignore.when (manager != "") :
          Handler Unit).Ends ok failed middle := by
    intro middle there ends
    rw [ends_when]
    refine ⟨fun _ => ?_, fun unmanaged => ?_⟩
    · rw [ends_ignore]
      exact createWhitelistEntry_sets calm there named fun _ later ruled =>
        ends later (.inr ruled)
    · exact ends middle (.inl ⟨by simpa using unmanaged, rfl⟩)
  rw [syncManagerRule, ends_bind, ends_when]
  refine ⟨fun managed => ?_, fun unmanaged => ?_⟩
  · have old : oldManager ≠ "" := by simpa using managed
    rw [ends_ignore, Storage.deleteWhitelistByDomainAndValue,
      calm.ends_call rfl]
    refine creates _ member fun later ruled => ?_
    exact moved later _ rfl (fun _ => ruled) fun none => absurd none old
  · have none : oldManager = "" := by simpa using unmanaged
    refine creates world member fun later ruled => ?_
    exact moved later _ rfl (fun old => absurd none old) fun _ => ruled

theorem sets_of_dropped {oldManager : String} {before dropped after : Database}
    (metas : MetaSet agent manager before.domainAddrMeta dropped.domainAddrMeta)
    (domains : dropped.systemDomains = before.systemDomains)
    (rules : ∀ rule, rule ∈ dropped.whitelists ↔ rule ∈ before.whitelists ∧
      ¬(rule.domainAddr = agent ∧ rule.value = oldManager))
    (registered : ∃ domain ∈ before.systemDomains, domain.domain = agent)
    (current : (agent, oldManager) ∈ managerPairs before)
    (moved : manager ≠ oldManager)
    (ruled : (manager = "" ∧ after = dropped) ∨
      RuleSet agent manager dropped after) : Sets agent manager before after := by
  have frame : after.systemDomains = before.systemDomains ∧
      after.domainAddrMeta = dropped.domainAddrMeta := by
    rcases ruled with ⟨_, rfl⟩ | ruled
    · exact ⟨domains, rfl⟩
    · exact ⟨ruled.frame.1.trans domains, ruled.frame.2⟩
  have grown : ∀ rule ∈ after.whitelists, rule ∈ dropped.whitelists ∨
      (rule.domainAddr = agent ∧ rule.value = manager) := by
    rcases ruled with ⟨_, rfl⟩ | ruled
    · exact fun rule member => .inl member
    · exact ruled.grown
  refine ⟨?_, ?_, ?_, ?_, ?_, ?_, ?_⟩
  · rw [frame.2]
    exact metas
  · rw [frame.1]
    exact DomainsKept.refl _
  · rw [frame.1]
    exact registered
  · intro rule member other
    have left : rule ∈ dropped.whitelists :=
      (rules rule).mpr ⟨member, fun mine => other mine.1⟩
    rcases ruled with ⟨_, rfl⟩ | ruled
    · exact left
    · exact ruled.kept rule left fun mine => other mine.1
  · intro rule member
    exact (grown rule member).imp_left fun left => ((rules rule).mp left).1
  · intro named
    rcases ruled with ⟨unmanaged, _⟩ | ruled
    · exact absurd unmanaged named
    · exact .inl ruled.ruled
  · intro stored pair _ _ rule member address value
    have old := metaPairs_unique pair current
    rcases grown rule member with left | ⟨_, set⟩
    · exact ((rules rule).mp left).2 ⟨address, value.trans old⟩
    · exact moved (set.symm.trans (value.trans old))

theorem updateAgentMeta_sets (calm : state.env.Calm)
    {path : String} {req : UpdateAgentMetaRequest}
    (lower : state.env.tables.toLowercase (state.env.tables.toLowercase path) =
      state.env.tables.toLowercase path)
    (fits : ∀ manager, req.managerAddress = some manager →
      Fits state.env.tables (state.env.tables.toLowercase path) manager)
    (fitting : ∀ agent manager, (agent, manager) ∈ managerPairs world.db →
      Fits state.env.tables agent manager)
    (registered : ∀ agent manager, (agent, manager) ∈ managerPairs world.db →
      ∃ domain ∈ world.db.systemDomains, domain.domain = agent)
    {left : World → Prop}
    (kept : ∀ later : World, later.db = world.db → left later)
    (sets : ∀ manager (later : World),
      Fits state.env.tables (state.env.tables.toLowercase path) manager →
      Sets (state.env.tables.toLowercase path) manager world.db later.db →
        left later) :
    (updateAgentMeta state caller path req).Ends (fun _ later => left later)
      (fun _ later => left later) world := by
  rw [updateAgentMeta, ends_bind, ends_check]
  refine ⟨fun _ _ => ?_, fun _ _ => kept world rfl⟩
  rw [ends_bind, ends_orDatabaseError]
  apply Storage.getDomainAddrMeta_ends
  · exact fun _ => kept _ rfl
  · exact fun _ => kept _ rfl
  intro existing member named
  rw [lower] at named
  have current : (state.env.tables.toLowercase path, existing.managerAddress) ∈
      managerPairs world.db := mem_metaPairs.mpr ⟨existing, member, named, rfl⟩
  have chosen : Fits state.env.tables (state.env.tables.toLowercase path)
      (req.managerAddress.getD existing.managerAddress) := by
    cases asked : req.managerAddress with
    | none => exact fitting _ _ current
    | some manager => exact fits manager asked
  have place := registered _ _ current
  simp only
  rw [ends_bind, ends_check]
  refine ⟨fun _ _ => ?_, fun _ _ => kept _ rfl⟩
  rw [ends_bind, ends_orDatabaseError]
  have stored : state.env.tables.toLowercase (Text.trim
      ((some (req.managerAddress.getD existing.managerAddress)).getD "")) =
        req.managerAddress.getD existing.managerAddress := chosen.stored
  apply upsertDomainAddrMeta_sets calm lower stored
  intro _ metas middle set changed
  rw [World.later_db] at set changed
  rw [ends_bind, ends_when]
  refine ⟨fun moves => ?_, fun stays => ?_⟩
  · have moved : req.managerAddress.getD existing.managerAddress ≠
        existing.managerAddress := by simpa using moves
    obtain ⟨domain, there, same⟩ := id place
    have found : domain ∈ middle.db.systemDomains := by
      rw [changed]
      exact there
    apply syncManagerRule_sets calm found same
    intro later dropped drop managed unmanaged
    by_cases old : existing.managerAddress = ""
    · have placed : Placed (state.env.tables.toLowercase path)
          (req.managerAddress.getD existing.managerAddress) world.db middle.db := by
        rw [changed]
        exact ⟨set, DomainsKept.refl _, place, rfl⟩
      refine sets _ _ chosen (placed.sets (unmanaged old) ?_)
      intro stored pair
      exact .inl ((metaPairs_unique pair current).trans old)
    · refine sets _ _ chosen (sets_of_dropped ?_ ?_ ?_ place current moved
        (managed old))
      · rw [drop, changed]
        exact set
      · rw [drop, changed]
      · intro rule
        rw [drop, changed, Table.mem_delete]
        simp
  · have same : req.managerAddress.getD existing.managerAddress =
        existing.managerAddress := by simpa using stays
    refine sets _ _ chosen ?_
    rw [same] at set ⊢
    rw [changed]
    refine ⟨set, DomainsKept.refl _, place, fun rule there _ => there,
      fun rule there => .inl there, fun _ => .inr ⟨current, rfl, rfl⟩, ?_⟩
    intro stored pair _ other
    exact absurd (metaPairs_unique pair current) other

theorem handleChangeManager_unchanged {record : EmailRecord} {name : String}
    (refused : ∀ newManager agent,
      Webhook.matchTransfer env.tables record =
        .ok (.transferManager newManager agent) →
      ¬Webhook.ManagedBy env.tables world.db agent record.sender) :
    (Webhook.handleChangeManager env record name).Ends
      (fun _ later => later.db = world.db) (fun _ later => later.db = world.db)
      world := by
  rw [Webhook.handleChangeManager, ends_bind, ends_check]
  refine ⟨fun payload matched => ?_, fun _ _ => rfl⟩
  split
  · exact Webhook.refuseTransfer_keeps
  · next newManager agent =>
      rw [Webhook.transferManager, ends_bind, ends_attempt]
      apply Storage.getDomainAddrMeta_ends
      · exact fun _ => rfl
      · exact fun _ => rfl
      · intro row member named
        dsimp only
        split
        · rfl
        · next manages =>
            refine absurd ⟨row, member, named, Webhook.isManager_iff.mp
              (by simpa using manages)⟩ (refused newManager agent ?_)
            exact Except.ok.inj matched
  · exact rfl

end Operations

/-! ## Runs -/

theorem Reach.step {state : HttpState} (calm : state.env.Calm)
    {directory next : Directory} {event : Event}
    (reach : Reach state.env.tables directory)
    (keeps : KeepsManager state directory event)
    (moved : Step state directory event next) : Reach state.env.tables next := by
  cases moved with
  | registered caller systemId generateCode req =>
      exact (registerAddress_sets calm keeps.1 keeps.2
        (fun _ same => reach.unchanged same)
        fun _ _ fits sets => reach.sets fits sets).after
  | updated caller path req =>
      exact (updateAgentMeta_sets calm keeps.1 keeps.2 reach.fits
        reach.registered (fun _ same => reach.unchanged same)
        fun _ _ fits sets => reach.sets fits sets).after
  | transferred record =>
      exact reach.unchanged (handleChangeManager_unchanged keeps).after
  | ruled agent value whitelists only => exact reach.written only

/-- While nothing fails and every operation keeps the manager it finds or moves
its rule, managers and agents reach each other. -/
theorem managers_reached (state : HttpState) (calm : state.env.Calm)
    {db : Database} {events : List Event} {last : Directory}
    (run : Run (Guarded (KeepsManager state) (Step state)) (.start db) events
      last) : ManagersReached state last := by
  have preserved : ∀ directory event next, Reach state.env.tables directory →
      Guarded (KeepsManager state) (Step state) directory event next →
        Reach state.env.tables next := by
    intro directory event next reach moved
    exact reach.step calm moved.1 moved.2
  exact (run.invariant preserved (.start state.env.tables db)).managersReached

def oneDomain : Database :=
  { Database.empty with
    systemDomains := ⟨[sampleDomain "d1" "a.test"], by decide⟩ }

def oneSystem : ApiKeyRecord :=
  sampleKey 1 "sys-a" "" "hash-1" ["system"] "system"

/-- `eve@a.test` is registered with the manager `mia@c.test`. -/
def eveRegistered : Event :=
  .registered oneSystem "sys-a" false
    ⟨"d2", "eve@a.test", none, none, some "mia@c.test"⟩

/-- The administrator of the system makes `zoe@c.test` the manager. -/
def eveUpdated : Event :=
  .updated oneSystem "eve@a.test" ⟨some "zoe@c.test", none, none⟩

theorem managers_reached_sample :
    ∃ last, Run (Guarded (KeepsManager sampleState) (Step sampleState))
        (.start oneDomain) [eveRegistered, eveUpdated] last ∧
      ManagersReached sampleState last := by
  have runs : ∃ last, Run (Guarded (KeepsManager sampleState)
      (Step sampleState)) (.start oneDomain) [eveRegistered, eveUpdated]
        last := by
    refine ⟨_, .cons ⟨⟨by decide, ?_⟩, .registered _ _ _ _ _⟩
      (.cons ⟨⟨by decide, ?_⟩, .updated _ _ _ _⟩ (.nil _))⟩
    · intro system _
      have fits : Fits sampleState.env.tables "eve@a.test" "mia@c.test" :=
        ⟨by decide, by decide, by decide⟩
      refine ⟨fits, ?_⟩
      intro manager managed
      cases managed
    · intro manager named
      cases named
      exact ⟨by decide, by decide, by decide⟩
  rcases runs with ⟨last, run⟩
  exact ⟨last, run, managers_reached sampleState (Surroundings.steady_calm _ _)
    run⟩

/-- `mia@c.test` sends the mail that makes `zoe@c.test` the manager. -/
def eveHandedOn : EmailRecord where
  id := "m1"
  status := .readying
  systemId := "sys-a"
  direction := .inbound
  sender := "mia@c.test"
  recipients := ⟨["zoe@c.test"], ["eve@a.test"], ["eve@a.test"]⟩
  subject := "[CMD] change manager"
  body := "change manager of eve@a.test to zoe@c.test"
  headers := []
  attachments := none
  sendCount := 0
  lastSentAt := 0
  nextRetryAt := none
  maxAttempts := 3
  createdAt := 0

def afterRegistration : Directory :=
  (Directory.start oneDomain).after
    ((registerAddress sampleState oneSystem "sys-a" false
      ⟨"d2", "eve@a.test", none, none, some "mia@c.test"⟩).run
        (Directory.start oneDomain).world).2

def afterTransfer : Directory :=
  afterRegistration.after
    ((Webhook.handleChangeManager sampleState.env eveHandedOn
      (Webhook.kindName .changeManager)).run afterRegistration.world).2

/-- The new manager may not write to the agent, and the former one still may. -/
theorem transferred_manager_unreached :
    ¬∀ (state : HttpState) (db : Database) (events : List Event)
      (last : Directory), state.env.Calm →
        Run (Step state) (.start db) events last →
          ManagersReached state last := by
  intro all
  have run : Run (Step sampleState) (.start oneDomain)
      [eveRegistered, .transferred eveHandedOn] afterTransfer :=
    .cons (.registered _ _ _ _ _) (.cons (.transferred _ _) (.nil _))
  have reached := all sampleState oneDomain _ _ (Surroundings.steady_calm _ _) run
  have written := (reached.reached "eve@a.test" "zoe@c.test" (by decide +kernel)
    (by decide) (by decide +kernel)).1
  have refused : EnvFactory.whitelistVerdict sampleState.env afterTransfer.db
      "eve@a.test" "zoe@c.test" "from" = false := by decide +kernel
  rw [refused] at written
  cases written

end AimailGateway.ManagerReach
