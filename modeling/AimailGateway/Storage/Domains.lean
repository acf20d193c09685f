import AimailGateway.Storage.Call

/-! # Statements on `system_domains` and `domain_addr_meta`

The 30 s cache of positive domain lookups is left out: every statement evicts
what it changes, so a sequence of calls answers as if it read the table.
-/

namespace AimailGateway

open Library

namespace Storage

section Statements

variable (env : Surroundings)

def newSystemDomain (id systemId domain : String)
    (webhookUrl webhookSecret : Option String) (createdAt : Timestamp) :
    SystemDomainRecord where
  id := id
  systemId := systemId
  domain := domain
  webhookUrl := webhookUrl
  webhookSecret := webhookSecret
  isActive := true
  createdAt := createdAt
  updatedAt := createdAt

def insertSystemDomain (id systemId domain : String)
    (webhookUrl webhookSecret : Option String) : Storage SystemDomainRecord := do
  let createdAt ← now env
  call env fun db =>
    let record := newSystemDomain id systemId domain webhookUrl webhookSecret
      createdAt
    match db.systemDomains.insert? record with
    | some systemDomains => .ok (record, { db with systemDomains })
    | none => .error constraintFailed

def getSystemDomainByName (domain : String) :
    Storage (Option SystemDomainRecord) :=
  query env fun db => db.systemDomains.find? (·.domain == domain)

def getActiveSystemDomainByDomain (domain : String) :
    Storage (Option SystemDomainRecord) :=
  query env fun db =>
    db.systemDomains.find? fun row => row.domain == domain && row.isActive

/-- What `update_system_domain` makes of a row: the webhook is overwritten,
the active flag only when given. -/
def changeSystemDomain (webhookUrl webhookSecret : Option String)
    (isActive : Option Bool) (updatedAt : Timestamp) (row : SystemDomainRecord) :
    SystemDomainRecord :=
  { row with
    webhookUrl := webhookUrl
    webhookSecret := webhookSecret
    isActive := isActive.getD row.isActive
    updatedAt := updatedAt }

def updateSystemDomain (id : String) (webhookUrl webhookSecret : Option String)
    (isActive : Option Bool) : Storage (Option SystemDomainRecord) := do
  let updatedAt ← now env
  call env fun db =>
    match db.systemDomains.find? (·.id == id) with
    | none => .ok (none, db)
    | some row =>
        let change := changeSystemDomain webhookUrl webhookSecret isActive
          updatedAt
        match db.systemDomains.update? (·.id == id) change with
        | some systemDomains =>
            .ok (some (change row), { db with systemDomains })
        | none => .error constraintFailed

def deleteSystemDomain (id : String) : Storage Unit :=
  call env fun db =>
    .ok ((), { db with
      systemDomains := db.systemDomains.delete (·.id == id) })

def newDomainAddrMeta (email systemId managerAddress agentSignature
    agentPersona : String) (createdAt : Timestamp) : DomainAddrMetaRecord where
  emailAddress := email
  systemId := systemId
  managerAddress := managerAddress
  agentSignature := agentSignature
  agentPersona := agentPersona
  isActive := true
  createdAt := createdAt
  updatedAt := createdAt

/-- `DO UPDATE SET system_id = excluded.system_id, …`: everything but the
active flag and the creation time. -/
def overwriteMeta (excluded row : DomainAddrMetaRecord) : DomainAddrMetaRecord :=
  { excluded with isActive := row.isActive, createdAt := row.createdAt }

def upsertDomainAddrMeta (email systemId : String)
    (managerAddress agentSignature agentPersona : Option String) :
    Storage DomainAddrMetaRecord := do
  let createdAt ← now env
  call env fun db =>
    let record := newDomainAddrMeta (env.tables.toLowercase email) systemId
      (env.tables.toLowercase (Text.trim (managerAddress.getD "")))
      (agentSignature.getD "") (agentPersona.getD "") createdAt
    match db.domainAddrMeta.upsert? (·.emailAddress == record.emailAddress)
        (overwriteMeta record) record with
    | some domainAddrMeta => .ok (record, { db with domainAddrMeta })
    | none => .error constraintFailed

def getDomainAddrMeta (email : String) : Storage (Option DomainAddrMetaRecord) :=
  query env fun db =>
    db.domainAddrMeta.find? (·.emailAddress == env.tables.toLowercase email)

end Statements

/-! ## What the statements do to the tables -/

open Action

variable {env : Surroundings} {world : World}
  {failed : AppError → World → Prop}
  {ok : Option SystemDomainRecord → World → Prop}
  {webhookUrl webhookSecret : Option String}
  {id : String}
  {domain : String}

theorem insertSystemDomain_ends {id systemId domain : String}
    {ok : SystemDomainRecord → World → Prop}
    (fault : AllowsFailure failed world)
    (inserted : ∀ createdAt systemDomains later,
      let record := newSystemDomain id systemId domain webhookUrl webhookSecret
        createdAt
      world.db.systemDomains.insert? record = some systemDomains →
      later.db = { world.db with systemDomains } →
      ok record later) :
    (insertSystemDomain env id systemId domain webhookUrl webhookSecret).Ends ok
      failed world := by
  rw [insertSystemDomain, ends_bind, ends_now]
  apply call_ends
  · exact fun error => fault error _ rfl
  · intro record db outcome
    simp only [World.later_db] at outcome
    split at outcome
    · next systemDomains insertion =>
        cases outcome
        exact inserted _ systemDomains _ insertion rfl
    · cases outcome

theorem getSystemDomainByName_ends (fault : ∀ error, failed error world.later)
    (missing : (∀ row ∈ world.db.systemDomains, row.domain ≠ domain) →
      ok none world.later)
    (found : ∀ row ∈ world.db.systemDomains, row.domain = domain →
      ok (some row) world.later) :
    (getSystemDomainByName env domain).Ends ok failed world := by
  apply find_ends fault
  · exact fun free => missing fun row member => by simpa using free row member
  · exact fun row member chosen => found row member (by simpa using chosen)

theorem getActiveSystemDomainByDomain_ends
    (fault : ∀ error, failed error world.later) (missing : ok none world.later)
    (found : ∀ row ∈ world.db.systemDomains, row.domain = domain →
      row.isActive = true → ok (some row) world.later) :
    (getActiveSystemDomainByDomain env domain).Ends ok failed world := by
  apply find_ends fault
  · exact fun _ => missing
  · intro row member chosen
    rw [Bool.and_eq_true, beq_iff_eq] at chosen
    exact found row member chosen.1 chosen.2

theorem updateSystemDomain_ends {isActive : Option Bool}
    (fault : AllowsFailure failed world)
    (missing : (∀ row ∈ world.db.systemDomains, row.id ≠ id) →
      ∀ later, later.db = world.db → ok none later)
    (changed : ∀ row ∈ world.db.systemDomains, row.id = id →
      ∀ updatedAt systemDomains later,
      let change := changeSystemDomain webhookUrl webhookSecret isActive
        updatedAt
      world.db.systemDomains.update? (·.id == id) change = some systemDomains →
      later.db = { world.db with systemDomains } →
      ok (some (change row)) later) :
    (updateSystemDomain env id webhookUrl webhookSecret isActive).Ends ok failed
      world := by
  rw [updateSystemDomain, ends_bind, ends_now]
  apply call_ends
  · exact fun error => fault error _ rfl
  · intro answer db outcome
    simp only [World.later_db] at outcome
    cases search : world.db.systemDomains.find? (·.id == id) with
    | none =>
        simp only [search] at outcome
        cases outcome
        refine missing (fun row member => ?_) _ rfl
        simpa using Table.find?_eq_none.mp search row member
    | some row =>
        rcases Table.mem_of_find? search with ⟨member, selected⟩
        simp only [search] at outcome
        split at outcome
        · next systemDomains updated =>
            cases outcome
            exact changed row member (by simpa using selected) _ systemDomains _
              updated rfl
        · cases outcome

theorem deleteSystemDomain_ends {ok : Unit → World → Prop}
    (fault : AllowsFailure failed world)
    (deleted : ∀ later,
      later.db = { world.db with
        systemDomains := world.db.systemDomains.delete (·.id == id) } →
      ok () later) :
    (deleteSystemDomain env id).Ends ok failed world := by
  apply call_ends
  · exact fun error => fault error _ rfl
  · intro answer db outcome
    cases outcome
    exact deleted _ rfl

theorem upsertDomainAddrMeta_ends {email systemId : String}
    {managerAddress agentSignature agentPersona : Option String}
    {ok : DomainAddrMetaRecord → World → Prop}
    (fault : AllowsFailure failed world)
    (upserted : ∀ record domainAddrMeta later,
      record.emailAddress = env.tables.toLowercase email →
      record.systemId = systemId →
      world.db.domainAddrMeta.upsert? (·.emailAddress == record.emailAddress)
        (overwriteMeta record) record = some domainAddrMeta →
      later.db = { world.db with domainAddrMeta } →
      ok record later) :
    (upsertDomainAddrMeta env email systemId managerAddress agentSignature
      agentPersona).Ends ok failed world := by
  rw [upsertDomainAddrMeta, ends_bind, ends_now]
  apply call_ends
  · exact fun error => fault error _ rfl
  · intro record db outcome
    simp only [World.later_db] at outcome
    split at outcome
    · next domainAddrMeta upsertion =>
        cases outcome
        exact upserted _ domainAddrMeta _ rfl rfl upsertion rfl
    · cases outcome

theorem getDomainAddrMeta_ends {email : String}
    {ok : Option DomainAddrMetaRecord → World → Prop}
    (fault : ∀ error, failed error world.later)
    (missing : (∀ row ∈ world.db.domainAddrMeta,
        row.emailAddress ≠ env.tables.toLowercase email) →
      ok none world.later)
    (found : ∀ row ∈ world.db.domainAddrMeta,
      row.emailAddress = env.tables.toLowercase email →
      ok (some row) world.later) :
    (getDomainAddrMeta env email).Ends ok failed world := by
  apply find_ends fault
  · exact fun free => missing fun row member => by simpa using free row member
  · exact fun row member chosen => found row member (by simpa using chosen)

/-! ### Their errors -/

theorem fails_getSystemDomainByName :
    (getSystemDomainByName env domain).Fails AppError.notConflict :=
  fails_query

theorem fails_insertSystemDomain {id systemId domain : String} :
    (insertSystemDomain env id systemId domain webhookUrl webhookSecret).Fails
      AppError.notConflict := by
  apply fails_now.bind
  intro createdAt
  apply fails_call
  intro db error refused
  simp only at refused
  split at refused
  · cases refused
  · cases refused
    trivial

theorem fails_updateSystemDomain {isActive : Option Bool} :
    (updateSystemDomain env id webhookUrl webhookSecret isActive).Fails
      AppError.notConflict := by
  apply fails_now.bind
  intro updatedAt
  apply fails_call
  intro db error refused
  split at refused
  · cases refused
  · simp only at refused
    split at refused
    · cases refused
    · cases refused
      trivial

end Storage

end AimailGateway
