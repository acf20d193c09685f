import AimailGateway.Factory

/-! # What an update of a domain leaves alone

A registration within its own system and an update overwrite the webhook, and
a registration of an address its metadata too, whether or not the request gives
the fields.
-/

namespace AimailGateway

open Library Action

namespace EnvFactory

/-! ## Fields a request does not give -/

/-- The fields that a request leaves out are those of the row before. -/
structure KeepsDomain (webhookUrl webhookSecret : Option String)
    (isActive : Option Bool) (before after : SystemDomainRecord) : Prop where
  id : after.id = before.id
  systemId : after.systemId = before.systemId
  domain : after.domain = before.domain
  webhookUrl : webhookUrl = none → after.webhookUrl = before.webhookUrl
  webhookSecret : webhookSecret = none →
    after.webhookSecret = before.webhookSecret
  isActive : isActive = none → after.isActive = before.isActive
  createdAt : after.createdAt = before.createdAt

structure KeepsMeta (managerAddress : Option String)
    (before after : DomainAddrMetaRecord) : Prop where
  emailAddress : after.emailAddress = before.emailAddress
  managerAddress : managerAddress = none →
    after.managerAddress = before.managerAddress
  agentSignature : after.agentSignature = before.agentSignature
  agentPersona : after.agentPersona = before.agentPersona
  isActive : after.isActive = before.isActive
  createdAt : after.createdAt = before.createdAt

/-- An update of the row changes nothing but what the request gives. -/
structure UpdateKeeps (webhookUrl webhookSecret : Option String)
    (isActive : Option Bool) (row : SystemDomainRecord)
    (before after : Database) : Prop where
  kept : ∃ updated ∈ after.systemDomains,
    KeepsDomain webhookUrl webhookSecret isActive row updated
  others : ∀ other, other.id ≠ row.id →
    (other ∈ before.systemDomains ↔ other ∈ after.systemDomains)
  rest : { after with systemDomains := before.systemDomains } = before

/-- A registration of a name that has a row changes nothing but what the
request gives. -/
structure RefreshKeeps (tables : CaseTables)
    (webhookUrl webhookSecret managerAddress : Option String)
    (row : SystemDomainRecord) (before after : Database) : Prop where
  kept : ∃ updated ∈ after.systemDomains,
    KeepsDomain webhookUrl webhookSecret none row updated
  others : ∀ other, other.id ≠ row.id →
    (other ∈ before.systemDomains ↔ other ∈ after.systemDomains)
  agent : ∀ agent ∈ before.domainAddrMeta,
    agent.emailAddress = tables.toLowercase row.domain →
    ∃ updated ∈ after.domainAddrMeta, KeepsMeta managerAddress agent updated
  agents : ∀ agent, agent.emailAddress ≠ tables.toLowercase row.domain →
    (agent ∈ before.domainAddrMeta ↔ agent ∈ after.domainAddrMeta)
  rest : { after with
    systemDomains := before.systemDomains
    domainAddrMeta := before.domainAddrMeta } = before

/-! ## Updates of rows -/

section Rows

variable {webhookUrl webhookSecret managerAddress : Option String}
  {isActive : Option Bool} {updatedAt : Timestamp} {row : SystemDomainRecord}
  {systemDomains updated : SystemDomains}
  {other : SystemDomainRecord}

theorem mem_updated_iff (member : row ∈ systemDomains)
    (update : systemDomains.update? (·.id == row.id)
      (Storage.changeSystemDomain webhookUrl webhookSecret isActive
        updatedAt) = some updated) :
    other ∈ updated ↔
      other = Storage.changeSystemDomain webhookUrl webhookSecret isActive
          updatedAt row ∨
        other.id ≠ row.id ∧ other ∈ systemDomains := by
  rw [Table.mem_of_update? update]
  constructor
  · rintro ⟨before, listed, changed⟩
    by_cases same : before.id = row.id
    · have equal := SystemDomains.eq_of_id listed member same
      rw [if_pos (beq_iff_eq.mpr same), equal] at changed
      exact .inl changed.symm
    · rw [if_neg (by simpa using same)] at changed
      rw [← changed]
      exact .inr ⟨same, listed⟩
  · rintro (equal | ⟨different, listed⟩)
    · exact ⟨row, member, by rw [if_pos (beq_self_eq_true row.id), equal]⟩
    · exact ⟨other, listed, if_neg (by simpa using different)⟩

theorem others_updated_iff (member : row ∈ systemDomains)
    (update : systemDomains.update? (·.id == row.id)
      (Storage.changeSystemDomain webhookUrl webhookSecret isActive
        updatedAt) = some updated)
    (different : other.id ≠ row.id) :
    other ∈ systemDomains ↔ other ∈ updated := by
  rw [mem_updated_iff member update]
  constructor
  · exact fun listed => .inr ⟨different, listed⟩
  · rintro (equal | ⟨-, listed⟩)
    · exact absurd (congrArg SystemDomainRecord.id equal) different
    · exact listed

theorem keepsDomain_iff (member : row ∈ systemDomains)
    (update : systemDomains.update? (·.id == row.id)
      (Storage.changeSystemDomain webhookUrl webhookSecret isActive
        updatedAt) = some updated) {given : Option Bool} :
    (∃ other ∈ updated,
        KeepsDomain webhookUrl webhookSecret given row other) ↔
      (webhookUrl = none → row.webhookUrl = none) ∧
        (webhookSecret = none → row.webhookSecret = none) ∧
        (given = none → isActive.getD row.isActive = row.isActive) := by
  constructor
  · rintro ⟨other, listed, keeps⟩
    rw [mem_updated_iff member update] at listed
    rcases listed with equal | ⟨different, -⟩
    · subst equal
      refine ⟨fun absent => ?_, fun absent => ?_, fun absent => ?_⟩
      · exact (keeps.webhookUrl absent).symm.trans absent
      · exact (keeps.webhookSecret absent).symm.trans absent
      · exact keeps.isActive absent
    · exact absurd keeps.id different
  · rintro ⟨url, secret, kept⟩
    refine ⟨_, (mem_updated_iff member update).mpr (.inl rfl), rfl, rfl, rfl,
      fun absent => ?_, fun absent => ?_, fun absent => ?_, rfl⟩
    · exact absent.trans (url absent).symm
    · exact absent.trans (secret absent).symm
    · exact kept absent

end Rows

/-! ## Updates -/

section Update

variable {env : Surroundings} {world : World}
  {webhookUrl webhookSecret managerAddress : Option String}

theorem updateDomain_keeps_iff {id : String} {isActive : Option Bool}
    {record : SystemDomainRecord} {later : World}
    (ran : (updateDomain env id webhookUrl webhookSecret isActive).run world =
      (.ok (some record), later))
    {row : SystemDomainRecord} (member : row ∈ world.db.systemDomains)
    (named : row.id = id) :
    UpdateKeeps webhookUrl webhookSecret isActive row world.db later.db ↔
      (webhookUrl = none → row.webhookUrl = none) ∧
        (webhookSecret = none → row.webhookSecret = none) := by
  have ends : (updateDomain env id webhookUrl webhookSecret isActive).Ends
      (fun answer later => answer ≠ none → ∃ updatedAt systemDomains,
        world.db.systemDomains.update? (·.id == id)
          (Storage.changeSystemDomain webhookUrl webhookSecret isActive
            updatedAt) = some systemDomains ∧
        later.db = { world.db with systemDomains })
      (fun _ _ => True) world := by
    apply updateDomain_ends
    · exact fun _ _ _ => trivial
    · exact fun _ _ absent => absurd rfl absent
    · exact fun _ _ _ updatedAt systemDomains later update changed _ =>
        ⟨updatedAt, systemDomains, update, changed⟩
  rcases ends.of_ok ran (by simp) with ⟨updatedAt, systemDomains, update, changed⟩
  rw [← named] at update
  constructor
  · intro keeps
    have kept := keeps.kept
    rw [changed] at kept
    have fields := (keepsDomain_iff member update).mp kept
    exact ⟨fields.1, fields.2.1⟩
  · rintro ⟨url, secret⟩
    rw [changed]
    refine ⟨(keepsDomain_iff member update).mpr ⟨url, secret, ?_⟩, ?_, rfl⟩
    · intro absent
      rw [absent]
      rfl
    · exact fun other different => others_updated_iff member update different

end Update

/-! ## Registrations of a name that has a row -/

/-- How a registration leaves the metadata of its address. -/
inductive AgentWrite (env : Surroundings) (domain systemId : String)
    (managerAddress : Option String) (tick : Nat) (before after : Database) :
    Prop where
  | bare (domainOnly : Text.containsChar '@' domain = false)
      (same : after = before)
  | failed (fault : (env.fault tick).isSome = true) (same : after = before)
  | written (address : Text.containsChar '@' domain = true)
      (calm : env.fault tick = none) (record : DomainAddrMetaRecord)
      (createdAt : Timestamp) (domainAddrMeta : DomainAddrMeta)
      (built : record = Storage.newDomainAddrMeta
        (env.tables.toLowercase domain) systemId
        (env.tables.toLowercase (Text.trim (managerAddress.getD ""))) "" ""
        createdAt)
      (upserted : before.domainAddrMeta.upsert?
        (·.emailAddress == record.emailAddress)
        (Storage.overwriteMeta record) record = some domainAddrMeta)
      (changed : after = { before with domainAddrMeta })

theorem upsertMeta_isSome (table : DomainAddrMeta)
    (record : DomainAddrMetaRecord) :
    ∃ after, table.upsert? (·.emailAddress == record.emailAddress)
      (Storage.overwriteMeta record) record = some after := by
  rw [Table.upsert?]
  split
  · apply Table.update?_isSome
    refine table.distinct.imp ?_
    intro first second free
    have kept : ∀ row : DomainAddrMetaRecord,
        (if row.emailAddress == record.emailAddress then
          Storage.overwriteMeta record row else row).emailAddress =
          row.emailAddress := by
      intro row
      split
      · next same => exact (beq_iff_eq.mp same).symm
      · rfl
    rw [DomainAddrMetaRecord.conflict] at free ⊢
    rw [kept, kept, free]
  · next absent =>
      apply Table.insert?_isSome
      intro other member
      rw [Bool.not_eq_true, List.any_eq_false] at absent
      have free := absent other member
      rw [DomainAddrMetaRecord.conflict]
      simpa using free

section Refresh

variable {env : Surroundings} {world : World}
  {webhookUrl webhookSecret managerAddress : Option String}
  {row : SystemDomainRecord}
  {table after : DomainAddrMeta} {other : DomainAddrMetaRecord}
  {id systemId domain : String}

theorem syncDomainMeta_writes {domain systemId : String} :
    (syncDomainMeta env domain systemId managerAddress).Ends
      (fun _ later => AgentWrite env domain systemId managerAddress
        (world.tick + 1) world.db later.db)
      (fun _ _ => False) world := by
  rw [syncDomainMeta]
  split
  · next address =>
      rw [ends_ignore, Storage.upsertDomainAddrMeta, ends_bind, ends_now,
        ends_call]
      refine ⟨?_, ?_⟩
      · intro fault found
        refine .failed ?_ rfl
        change (env.fault world.later.tick).isSome = true
        rw [found]
        rfl
      · intro calm
        rcases upsertMeta_isSome world.db.domainAddrMeta
          (Storage.newDomainAddrMeta (env.tables.toLowercase domain) systemId
            (env.tables.toLowercase (Text.trim (managerAddress.getD "")))
            "" "" (env.clock world.tick)) with ⟨metas, upserted⟩
        simp only [World.later_db, Option.getD_none, upserted]
        refine ⟨by rintro _ ⟨⟩, ?_⟩
        intro record db executed
        cases executed
        exact .written address calm _ _ metas rfl upserted rfl
  · next bare => exact .bare (by simpa using bare) rfl

/-- The calls of a registration before its metadata is written. -/
def metaTick (tick : Nat) (webhookUrl : Option String) : Nat :=
  tick + 4 + ((webhookUrl.map Text.trim).filter (· != "")).toList.length

theorem metaTick_eq {tick : Nat} {before after : Database} :
    metaTick tick webhookUrl = ((World.later ⟨before, tick +
      ((webhookUrl.map Text.trim).filter (· != "")).toList.length⟩).later.withDb
        after).tick + 1 := by
  simp only [metaTick, World.withDb, World.later]
  omega

theorem validateWebhookUrl_later :
    (validateWebhookUrl env webhookUrl).Ends
      (fun _ later => later = ⟨world.db, world.tick +
        ((webhookUrl.map Text.trim).filter (· != "")).toList.length⟩)
      (fun _ later => later.db = world.db) world := by
  rw [validateWebhookUrl]
  split
  · next url given =>
      rw [given]
      exact webhookCheck_ends (fun _ => rfl) rfl
  · next absent =>
      rw [absent]
      exact rfl

theorem createDomain_refreshes (member : row ∈ world.db.systemDomains)
    (named : row.domain = domain) (owned : row.systemId = systemId) :
    (createDomain env id systemId domain webhookUrl webhookSecret
      managerAddress).Ends
      (fun _ later => ∃ updatedAt systemDomains,
        world.db.systemDomains.update? (·.id == row.id)
          (Storage.changeSystemDomain webhookUrl webhookSecret (some true)
            updatedAt) = some systemDomains ∧
        AgentWrite env domain systemId managerAddress
          (metaTick world.tick webhookUrl) { world.db with systemDomains }
          later.db)
      (fun _ later => later.db = world.db) world := by
  have byName : world.db.systemDomains.find? (·.domain == domain) = some row :=
    named ▸ SystemDomains.find?_domain member
  have byId : world.db.systemDomains.find? (·.id == row.id) = some row :=
    SystemDomains.find?_id member
  rw [createDomain, ends_bind]
  refine validateWebhookUrl_later.mono ?_ (fun _ _ same => same)
  intro _ checked same
  subst same
  rw [ends_bind, Storage.getSystemDomainByName, ends_query]
  refine ⟨fun _ _ => rfl, ?_⟩
  intro _
  simp only [byName, owned, ne_eq, not_true_eq_false, if_false]
  rw [ends_bind, Storage.updateSystemDomain, ends_bind, ends_now, ends_call]
  refine ⟨fun _ _ => rfl, ?_⟩
  intro _
  simp only [World.later_db, byId]
  split
  · next systemDomains update =>
      refine ⟨by rintro _ ⟨⟩, ?_⟩
      intro updated db executed
      cases executed
      simp only [ends_bind]
      refine syncDomainMeta_writes.mono ?_ (fun _ _ never => never.elim)
      intro _ later wrote
      rw [← metaTick_eq] at wrote
      exact ⟨_, systemDomains, update, wrote⟩
  · exact ⟨fun _ _ => trivial, by rintro _ _ ⟨⟩⟩

theorem keepsMeta_iff {email systemId manager : String}
    {createdAt : Timestamp} {agent : DomainAddrMetaRecord}
    (email_eq : agent.emailAddress = email) :
    KeepsMeta managerAddress agent (Storage.overwriteMeta
        (Storage.newDomainAddrMeta email systemId manager "" "" createdAt)
        agent) ↔
      agent.agentSignature = "" ∧ agent.agentPersona = "" ∧
        (managerAddress = none → agent.managerAddress = manager) := by
  constructor
  · intro keeps
    exact ⟨keeps.agentSignature.symm, keeps.agentPersona.symm,
      fun absent => (keeps.managerAddress absent).symm⟩
  · rintro ⟨signature, persona, kept⟩
    exact ⟨email_eq.symm, fun absent => (kept absent).symm, signature.symm,
      persona.symm, rfl, rfl⟩

theorem mem_upserted_iff
    {record agent : DomainAddrMetaRecord} (member : agent ∈ table)
    (same : agent.emailAddress = record.emailAddress)
    (upserted : table.upsert? (·.emailAddress == record.emailAddress)
      (Storage.overwriteMeta record) record = some after) :
    other ∈ after ↔ other = Storage.overwriteMeta record agent ∨
      other.emailAddress ≠ record.emailAddress ∧ other ∈ table := by
  have present : table.rows.any (·.emailAddress == record.emailAddress) = true :=
    List.any_eq_true.mpr ⟨agent, member, beq_iff_eq.mpr same⟩
  rw [Table.upsert?, if_pos present] at upserted
  rw [Table.mem_of_update? upserted]
  constructor
  · rintro ⟨before, listed, changed⟩
    by_cases named : before.emailAddress = record.emailAddress
    · have equal := DomainAddrMeta.eq_of_email listed member
        (named.trans same.symm)
      rw [if_pos (beq_iff_eq.mpr named), equal] at changed
      exact .inl changed.symm
    · rw [if_neg (by simpa using named)] at changed
      rw [← changed]
      exact .inr ⟨named, listed⟩
  · rintro (equal | ⟨different, listed⟩)
    · exact ⟨agent, member, by rw [if_pos (beq_iff_eq.mpr same), equal]⟩
    · exact ⟨other, listed, if_neg (by simpa using different)⟩

theorem others_upserted_iff {record : DomainAddrMetaRecord}
    (upserted : table.upsert? (·.emailAddress == record.emailAddress)
      (Storage.overwriteMeta record) record = some after)
    (different : other.emailAddress ≠ record.emailAddress) :
    other ∈ table ↔ other ∈ after := by
  have changes : Table.ChangesOnly
      (fun agent => agent.emailAddress = record.emailAddress) table after := by
    apply Table.changesOnly_upsert? upserted
    · exact fun agent _ chosen => beq_iff_eq.mp chosen
    · exact fun agent _ _ => rfl
    · rfl
  exact changes other different

/-- Nothing of the agent is overwritten with blanks. -/
structure Unadorned (env : Surroundings) (managerAddress : Option String)
    (agent : DomainAddrMetaRecord) : Prop where
  agentSignature : agent.agentSignature = ""
  agentPersona : agent.agentPersona = ""
  managerAddress : managerAddress = none →
    agent.managerAddress = env.tables.toLowercase (Text.trim "")

theorem refreshKeeps_untouched {db : Database}
    {updatedAt : Timestamp} {systemDomains : SystemDomains}
    (member : row ∈ db.systemDomains)
    (update : db.systemDomains.update? (·.id == row.id)
      (Storage.changeSystemDomain webhookUrl webhookSecret (some true)
        updatedAt) = some systemDomains) :
    RefreshKeeps env.tables webhookUrl webhookSecret managerAddress row db
        { db with systemDomains } ↔
      (webhookUrl = none → row.webhookUrl = none) ∧
        (webhookSecret = none → row.webhookSecret = none) ∧
        row.isActive = true := by
  have fields : (∃ other ∈ systemDomains,
      KeepsDomain webhookUrl webhookSecret none row other) ↔ _ :=
    keepsDomain_iff member update
  constructor
  · intro keeps
    have kept := fields.mp keeps.kept
    exact ⟨kept.1, kept.2.1, (kept.2.2 rfl).symm⟩
  · rintro ⟨url, secret, active⟩
    refine ⟨fields.mpr ⟨url, secret, fun _ => active.symm⟩, ?_, ?_,
      fun _ _ => Iff.rfl, rfl⟩
    · exact fun other different => others_updated_iff member update different
    · exact fun agent listed _ =>
        ⟨agent, listed, rfl, fun _ => rfl, rfl, rfl, rfl, rfl⟩

theorem createDomain_keeps_iff {record : SystemDomainRecord} {later : World}
    (ran : (createDomain env id systemId domain webhookUrl webhookSecret
      managerAddress).run world = (.ok record, later))
    (member : row ∈ world.db.systemDomains)
    (named : row.domain = domain) (owned : row.systemId = systemId) :
    RefreshKeeps env.tables webhookUrl webhookSecret managerAddress row world.db
        later.db ↔
      (webhookUrl = none → row.webhookUrl = none) ∧
        (webhookSecret = none → row.webhookSecret = none) ∧
        row.isActive = true ∧
        (Text.containsChar '@' domain = true →
          env.fault (metaTick world.tick webhookUrl) = none →
          ∀ agent ∈ world.db.domainAddrMeta,
            agent.emailAddress = env.tables.toLowercase domain →
            Unadorned env managerAddress agent) := by
  rcases (createDomain_refreshes member named owned).of_ok ran with
    ⟨updatedAt, systemDomains, update, wrote⟩
  have fields : (∃ other ∈ systemDomains,
      KeepsDomain webhookUrl webhookSecret none row other) ↔ _ :=
    keepsDomain_iff member update
  subst named
  cases wrote with
  | bare domainOnly same =>
      rw [same, refreshKeeps_untouched member update]
      simp [domainOnly]
  | failed fault same =>
      have faulty : env.fault (metaTick world.tick webhookUrl) ≠ none :=
        Option.isSome_iff_ne_none.mp fault
      rw [same, refreshKeeps_untouched member update]
      simp [faulty]
  | written address calm record createdAt metas built upserted changed =>
      subst built
      rw [changed]
      constructor
      · intro keeps
        have kept := fields.mp keeps.kept
        refine ⟨kept.1, kept.2.1, (kept.2.2 rfl).symm, ?_⟩
        intro _ _ agent listed email
        rcases keeps.agent agent listed email with ⟨updated, present, same⟩
        rw [mem_upserted_iff listed email upserted] at present
        rcases present with equal | ⟨different, -⟩
        · rw [equal, keepsMeta_iff email] at same
          exact ⟨same.1, same.2.1, fun absent => by
            rw [same.2.2 absent, absent]
            rfl⟩
        · exact absurd (same.emailAddress.trans email) different
      · rintro ⟨url, secret, active, adorned⟩
        refine ⟨fields.mpr ⟨url, secret, fun _ => active.symm⟩, ?_, ?_, ?_,
          rfl⟩
        · exact fun other different =>
            others_updated_iff member update different
        · intro agent listed email
          have bare := adorned address calm agent listed email
          refine ⟨_, (mem_upserted_iff listed email upserted).mpr (.inl rfl),
            (keepsMeta_iff email).mpr ⟨bare.agentSignature, bare.agentPersona,
              fun absent => ?_⟩⟩
          rw [bare.managerAddress absent, absent]
          rfl
        · exact fun agent different => others_upserted_iff upserted different

end Refresh

def hookedDomain : SystemDomainRecord where
  id := "d1"
  systemId := "sys-a"
  domain := "alice@a.test"
  webhookUrl := some "https://hooks.a.test/in"
  webhookSecret := some "s3cret"
  isActive := true
  createdAt := 0
  updatedAt := 0

def hookedWorld : World :=
  World.start { Database.empty with
    systemDomains := ⟨[hookedDomain], by decide⟩ }

end EnvFactory

end AimailGateway
