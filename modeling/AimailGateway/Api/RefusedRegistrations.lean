import AimailGateway.Api.Domains

/-! # Refused registrations

A registration writes up to four tables, one after the other, and an error
answer does not take back what is written. This says which refused registrations
leave the database as it was.
-/

namespace AimailGateway.RefusedRegistrations

open Library Action Api

/-- A registration that is answered with an error changes nothing. -/
def Unchanged (state : HttpState) (caller : ApiKeyRecord) (tid : String)
    (generateCode : Bool) (req : RegisterAddressRequest) (world : World) : Prop :=
  ∀ error later,
    registerAddress state caller tid generateCode req world =
      (.error error, later) →
    later.db = world.db

/-- The checks pass, and the writes start from a world. -/
structure Passes (state : HttpState) (caller : ApiKeyRecord) (tid : String)
    (req : RegisterAddressRequest) (world : World) (system : SystemRecord)
    (checked : World) : Prop where
  request : checkRegistration state caller tid req = .ok system
  anchor : requireAnchor state tid req.email world = (.ok (), checked)
  admission : checkAdmitAddress state tid = .ok ()

def writeRow (state : HttpState) (tid : String) (req : RegisterAddressRequest)
    (system : SystemRecord) : Storage SystemDomainRecord :=
  EnvFactory.createDomain state.env req.id tid req.email req.webhookUrl
    req.webhookSecret (effectiveManager state system req)

/-- The manager's rule, and the code that is asked for. -/
def writeCode (state : HttpState) (tid : String) (req : RegisterAddressRequest)
    (manager : Option String) : Storage (List String) := do
  optionally (createManagerRule state req.email) manager
  generateActivationCodes state tid (Text.lastPiece '@' req.email)
    (some req.email) 1

/-- The metadata a registration writes at a moment is refused, or there
already. -/
def MetaSettled (state : HttpState) (tid email : String)
    (manager : Option String) (db : Database) (tick : Nat) : Prop :=
  (state.env.fault (tick + 1)).isSome ∨
    ∃ row ∈ db.domainAddrMeta,
      row.emailAddress = state.env.tables.toLowercase email ∧
      row.systemId = tid ∧
      row.managerAddress =
        state.env.tables.toLowercase (Text.trim (manager.getD "")) ∧
      row.agentSignature = "" ∧ row.agentPersona = "" ∧
      row.updatedAt = state.env.clock tick

/-- The manager's rule at a moment is refused (its system is not found, or a
statement fails) or there already. -/
def RuleSettled (state : HttpState) (email manager : String) (db : Database)
    (tick : Nat) : Prop :=
  (state.env.fault tick).isSome ∨ (state.env.fault (tick + 3)).isSome ∨
    (∀ domain ∈ db.systemDomains, domain.domain ≠ email) ∨
    ∃ domain ∈ db.systemDomains, domain.domain = email ∧
      ∃ row ∈ db.whitelists, row.rule = (domain.systemId, email, manager) ∧
        row.direction = .dirAll ∧ row.isActive = true ∧
        row.description = some "Agent <-> Manager (auto-created)"

/-- The registration is there already, as the request has it. -/
def RowSettled (state : HttpState) (tid : String)
    (req : RegisterAddressRequest) (db : Database) (tick : Nat) : Prop :=
  ∃ row ∈ db.systemDomains, row.domain = req.email ∧ row.systemId = tid ∧
    row.webhookUrl = req.webhookUrl ∧ row.webhookSecret = req.webhookSecret ∧
    row.isActive = true ∧ row.updatedAt = state.env.clock tick

/-- When the row of the address is written: after the check of the webhook and
the lookup of the address. -/
def rowTick (state : HttpState) (req : RegisterAddressRequest)
    (checked : World) : Nat :=
  ((EnvFactory.validateWebhookUrl state.env req.webhookUrl).run
    checked).2.tick + 1

/-- An address of another system meets no manager, or one whose metadata and
rule are refused or there already; and so are row, metadata and rule where a
code fails after them. -/
structure WritesNothing (state : HttpState) (caller : ApiKeyRecord)
    (tid : String) (generateCode : Bool) (req : RegisterAddressRequest)
    (world : World) : Prop where
  foreign : ∀ system checked text refused manager,
    Passes state caller tid req world system checked →
    writeRow state tid req system checked = (.error (.conflict text), refused) →
    effectiveManager state system req = some manager →
    MetaSettled state tid req.email (some manager) world.db refused.tick ∧
      RuleSettled state req.email manager world.db (refused.tick + 2)
  coded : generateCode = true → ∀ system checked record written error failed,
    Passes state caller tid req world system checked →
    writeRow state tid req system checked = (.ok record, written) →
    writeCode state tid req (effectiveManager state system req) written =
      (.error error, failed) →
    RowSettled state tid req world.db (rowTick state req checked) ∧
      (Text.containsChar '@' req.email = true →
        MetaSettled state tid req.email (effectiveManager state system req)
          world.db (rowTick state req checked + 2)) ∧
      ∀ manager, effectiveManager state system req = some manager →
        RuleSettled state req.email manager world.db written.tick

/-! ## Writes without effect -/

section Writes

variable {state : HttpState} {tid email : String} {world : World}
  {req : RegisterAddressRequest}

theorem upsertMetaRow (metas : DomainAddrMeta) (record : DomainAddrMetaRecord) :
    ∃ after, metas.upsert? (·.emailAddress == record.emailAddress)
        (Storage.overwriteMeta record) record = some after ∧
      (after = metas ↔ ∃ row ∈ metas, row.emailAddress = record.emailAddress ∧
        Storage.overwriteMeta record row = row) := by
  rw [Table.upsert?]
  split
  · next present =>
      rcases List.any_eq_true.mp present with ⟨stored, member, own⟩
      rw [beq_iff_eq] at own
      have keys (row : DomainAddrMetaRecord) :
          (if row.emailAddress == record.emailAddress then
            Storage.overwriteMeta record row else row).emailAddress =
              row.emailAddress := by
        split
        · next same => exact (beq_iff_eq.mp same).symm
        · rfl
      have keeps : metas.rows.Pairwise fun first second =>
          DomainAddrMetaRecord.conflict
            (if first.emailAddress == record.emailAddress then
              Storage.overwriteMeta record first else first)
            (if second.emailAddress == record.emailAddress then
              Storage.overwriteMeta record second else second) = false := by
        simp only [DomainAddrMetaRecord.conflict, keys]
        exact metas.distinct
      rcases Table.update?_isSome keeps with ⟨after, updated⟩
      refine ⟨after, updated, (Table.update?_eq_self_iff updated).trans ?_⟩
      constructor
      · exact fun settled =>
          ⟨stored, member, own, settled stored member (beq_iff_eq.mpr own)⟩
      · rintro ⟨row, there, same, settled⟩ other otherMember chosen
        rw [DomainAddrMeta.eq_of_email otherMember there
          ((beq_iff_eq.mp chosen).trans same.symm), settled]
  · next absent =>
      have missing : ∀ row ∈ metas, row.emailAddress ≠ record.emailAddress :=
        fun row member same =>
          absent (List.any_eq_true.mpr ⟨row, member, beq_iff_eq.mpr same⟩)
      have free : ∀ other ∈ metas,
          DomainAddrMetaRecord.conflict other record = false :=
        fun other member => beq_eq_false_iff_ne.mpr (missing other member)
      rcases Table.insert?_isSome free with ⟨after, inserted⟩
      refine ⟨after, inserted, iff_of_false (Table.ne_of_insert? inserted) ?_⟩
      rintro ⟨row, member, same, _⟩
      exact missing row member same

theorem upsertMeta_effect (manager : Option String) :
    let after := (Storage.upsertDomainAddrMeta state.env email tid manager none
      none world).2
    after.tick = world.tick + 2 ∧ ∃ domainAddrMeta,
      after.db = { world.db with domainAddrMeta } ∧
        (domainAddrMeta = world.db.domainAddrMeta ↔
          MetaSettled state tid email manager world.db world.tick) := by
  rcases upsertMetaRow world.db.domainAddrMeta
    (Storage.newDomainAddrMeta (state.env.tables.toLowercase email) tid
      (state.env.tables.toLowercase (Text.trim (manager.getD ""))) "" ""
      (state.env.clock world.tick)) with ⟨metas, written, settled⟩
  cases fault : state.env.fault (world.tick + 1) with
  | some reason =>
      simp only [Storage.upsertDomainAddrMeta, bind, now, call, World.later,
        fault]
      exact ⟨trivial, world.db.domainAddrMeta, rfl,
        iff_of_true rfl (.inl (by rw [fault]; rfl))⟩
  | none =>
      simp only [Storage.upsertDomainAddrMeta, bind, now, call, World.later,
        fault, Option.getD_none, written]
      refine ⟨rfl, metas, rfl, settled.trans ?_⟩
      rw [MetaSettled, fault, or_iff_right (by simp)]
      refine exists_congr fun row => and_congr_right fun _ =>
        and_congr_right fun own => ?_
      constructor
      · intro same
        rw [← same]
        exact ⟨rfl, rfl, rfl, rfl, rfl⟩
      · rintro ⟨system, managed, signature, persona, updated⟩
        rcases row with ⟨_, _, _, _, _, _, _, _⟩
        simp only at own system managed signature persona updated
        subst own system managed signature persona updated
        rfl

/-- A new rule has neither the id nor the rule of another, and so the upsert of a
rule always succeeds. It is without effect where the rule is already what it
makes of it. -/
theorem upsertRule (db : Database) (systemId domainAddr value category : String)
    (direction : WhitelistDirection) (apiKeyId : Option Int)
    (description : Option String) (createdAt : Timestamp) (lastRowid : Int) :
    let record := Storage.newWhitelist db systemId domainAddr direction value
      category apiKeyId description createdAt
    ∃ answer whitelists whitelistSequence,
      Storage.upsertWhitelist record lastRowid db =
        .ok (answer, { db with whitelists, whitelistSequence }) ∧
      (whitelists = db.whitelists ∧ whitelistSequence = db.whitelistSequence ↔
        ∃ row ∈ db.whitelists, row.rule = record.rule ∧
          Storage.overwriteWhitelist record row = row) := by
  intro record
  rw [Storage.upsertWhitelist]
  cases search : db.whitelists.find? (·.rule == record.rule) with
  | some stored =>
      rcases Table.mem_of_find? search with ⟨member, own⟩
      rw [beq_iff_eq] at own
      have keys (row : WhitelistRecord) :
          (if row.rule == record.rule then
            Storage.overwriteWhitelist record row else row).rule = row.rule ∧
          (if row.rule == record.rule then
            Storage.overwriteWhitelist record row else row).id = row.id := by
        split <;> exact ⟨rfl, rfl⟩
      have keeps : db.whitelists.rows.Pairwise fun first second =>
          WhitelistRecord.conflict
            (if first.rule == record.rule then
              Storage.overwriteWhitelist record first else first)
            (if second.rule == record.rule then
              Storage.overwriteWhitelist record second else second) = false := by
        simp only [WhitelistRecord.conflict, (keys _).1, (keys _).2]
        exact db.whitelists.distinct
      rcases Table.update?_isSome keeps with ⟨after, updated⟩
      simp only [updated]
      refine ⟨_, after, db.whitelistSequence, rfl, ?_⟩
      rw [and_iff_left rfl, Table.update?_eq_self_iff updated]
      constructor
      · exact fun settled =>
          ⟨stored, member, own, settled stored member (beq_iff_eq.mpr own)⟩
      · rintro ⟨row, there, same, settled⟩ other otherMember chosen
        rw [Whitelists.eq_of_rule otherMember there
          ((beq_iff_eq.mp chosen).trans same.symm), settled]
  | none =>
      have missing : ∀ row ∈ db.whitelists, row.rule ≠ record.rule :=
        fun row member =>
          beq_eq_false_iff_ne.mp (Table.find?_eq_none.mp search row member)
      have free : ∀ other ∈ db.whitelists,
          WhitelistRecord.conflict other record = false := by
        intro other member
        rw [WhitelistRecord.conflict, Bool.or_eq_false_iff, beq_eq_false_iff_ne,
          beq_eq_false_iff_ne]
        exact ⟨Int.ne_of_lt (Storage.lt_nextWhitelistId member),
          missing other member⟩
      rcases Table.insert?_isSome free with ⟨after, inserted⟩
      simp only [inserted]
      refine ⟨_, after, _, rfl, iff_of_false ?_ ?_⟩
      · exact fun same => Table.ne_of_insert? inserted same.1
      · rintro ⟨row, member, same, _⟩
        exact missing row member same

theorem managerRule_db {ε : Type} (manager : String) :
    ((createManagerRule state email manager : Action World ε Unit)
      world).2.db =
      match state.env.fault world.tick with
      | some _ => world.db
      | none =>
        match world.db.systemDomains.find? (·.domain == email) with
        | none => world.db
        | some domain =>
          match state.env.fault (world.tick + 3) with
          | some _ => world.db
          | none =>
            match Storage.upsertWhitelist (Storage.newWhitelist world.db
                domain.systemId email .dirAll manager "system" none
                (some "Agent <-> Manager (auto-created)")
                (state.env.clock (world.tick + 1)))
              (state.env.lastInsertRowid (world.tick + 2)) world.db with
            | .ok (_, db) => db
            | .error _ => world.db := by
  have parsed : WhitelistDirection.parse "all" = some .dirAll := rfl
  simp only [createManagerRule, ignore, EnvFactory.createWhitelistEntry,
    EnvFactory.createWhitelistEntryFull, EnvFactory.resolveSystemIdFromDomain,
    Storage.getSystemDomainByName, Storage.insertWhitelist, query, bind, now,
    staleRowid, call, World.later, World.withDb, parsed]
  cases lookup : state.env.fault world.tick with
  | some reason => rfl
  | none =>
      cases search : world.db.systemDomains.find? (·.domain == email) with
      | none => simp only [fail]
      | some domain =>
          simp only [pure]
          cases state.env.fault (world.tick + 3) with
          | some reason => rfl
          | none =>
              dsimp only
              split
              · next written => rw [written]
              · next refused => rw [refused]

theorem managerRule_effect {ε : Type} (manager : String) :
    ∃ whitelists whitelistSequence,
      ((createManagerRule state email manager : Action World ε Unit)
          world).2.db =
        { world.db with whitelists, whitelistSequence } ∧
        (whitelists = world.db.whitelists ∧
            whitelistSequence = world.db.whitelistSequence ↔
          RuleSettled state email manager world.db world.tick) := by
  have settled (holds : RuleSettled state email manager world.db world.tick) :
      ∃ whitelists whitelistSequence,
        world.db = { world.db with whitelists, whitelistSequence } ∧
          (whitelists = world.db.whitelists ∧
              whitelistSequence = world.db.whitelistSequence ↔
            RuleSettled state email manager world.db world.tick) :=
    ⟨world.db.whitelists, world.db.whitelistSequence, rfl,
      iff_of_true ⟨rfl, rfl⟩ holds⟩
  rw [managerRule_db]
  cases lookup : state.env.fault world.tick with
  | some reason => exact settled (.inl (by rw [lookup]; rfl))
  | none =>
      cases search : world.db.systemDomains.find? (·.domain == email) with
      | none =>
          refine settled (.inr (.inr (.inl fun domain member => ?_)))
          exact beq_eq_false_iff_ne.mp (Table.find?_eq_none.mp search _ member)
      | some domain =>
          rcases Table.mem_of_find? search with ⟨member, named⟩
          rw [beq_iff_eq] at named
          cases fault : state.env.fault (world.tick + 3) with
          | some reason => exact settled (.inr (.inl (by rw [fault]; rfl)))
          | none =>
              rcases upsertRule world.db domain.systemId email manager "system"
                .dirAll none (some "Agent <-> Manager (auto-created)")
                (state.env.clock (world.tick + 1))
                (state.env.lastInsertRowid (world.tick + 2)) with
                ⟨answer, whitelists, sequence, written, unchanged⟩
              simp only [written]
              refine ⟨whitelists, sequence, rfl, unchanged.trans ?_⟩
              rw [RuleSettled, lookup, fault, or_iff_right (by simp),
                or_iff_right (by simp), or_iff_right
                  (fun none => none domain member named)]
              constructor
              · rintro ⟨row, there, same, overwritten⟩
                refine ⟨domain, member, named, row, there, same, ?_⟩
                rw [← overwritten]
                exact ⟨rfl, rfl, rfl⟩
              · rintro ⟨other, there, called, row, ruled, same, all, active,
                  described⟩
                cases SystemDomains.eq_of_domain there member
                  (called.trans named.symm)
                refine ⟨row, ruled, same, ?_⟩
                rcases row with ⟨_, _, _, _, _, _, _, _, _, _⟩
                simp only at all active described
                subst all active described
                rfl

theorem database_eq_iff {db : Database} {systemDomains : SystemDomains}
    {domainAddrMeta : DomainAddrMeta} {whitelists : Whitelists}
    {whitelistSequence : Int} :
    { db with systemDomains, domainAddrMeta, whitelists, whitelistSequence } =
        db ↔
      systemDomains = db.systemDomains ∧ domainAddrMeta = db.domainAddrMeta ∧
        whitelists = db.whitelists ∧
        whitelistSequence = db.whitelistSequence := by
  constructor
  · intro same
    exact ⟨congrArg (·.systemDomains) same, congrArg (·.domainAddrMeta) same,
      congrArg (·.whitelists) same, congrArg (·.whitelistSequence) same⟩
  · rintro ⟨rfl, rfl, rfl, rfl⟩
    rfl

theorem syncForeignAddress_kept_iff (manager : String) :
    ((syncForeignAddress state tid email manager).run world).2.db = world.db ↔
      MetaSettled state tid email (some manager) world.db world.tick ∧
        RuleSettled state email manager world.db (world.tick + 2) := by
  rcases @upsertMeta_effect state tid email world (some manager) with
    ⟨later, metas, changed, described⟩
  rcases @managerRule_effect state email
    (Storage.upsertDomainAddrMeta state.env email tid (some manager) none none
      world).2 HttpError manager with ⟨whitelists, sequence, ruled, written⟩
  have ends : ((syncForeignAddress state tid email manager).run world).2.db = _ :=
    ruled
  rw [changed, later] at written
  rw [ends, changed, ← described]
  change { world.db with
    systemDomains := world.db.systemDomains
    domainAddrMeta := metas
    whitelists := whitelists
    whitelistSequence := sequence } = world.db ↔ _
  rw [database_eq_iff, and_iff_right rfl]
  exact and_congr_right fun _ => written

theorem generateActivationCodes_failed {domain : String}
    {emailAddress : Option String} :
    (generateActivationCodes state tid domain emailAddress 1).Ends
      (fun _ _ => True) (fun _ later => later.db = world.db) world := by
  rw [generateActivationCodes, ends_bind, ends_now, ends_bind, drawCode,
    ends_bind, ends_newUuid, ends_pure, ends_bind]
  apply Storage.insertActivationCode_ends
  · exact fun _ _ same => same
  · exact fun _ _ _ _ _ => trivial

theorem validateWebhookUrl_kept {webhookUrl : Option String} :
    ((EnvFactory.validateWebhookUrl state.env webhookUrl).run world).2.db =
      world.db := by
  rw [EnvFactory.validateWebhookUrl]
  split
  · next url given =>
      simp only [run, webhookCheck]
      split <;> rfl
  · rfl

end Writes

/-! ## Runs of the handler -/

section Runs

variable {state : HttpState} {caller : ApiKeyRecord} {tid : String}
  {generateCode : Bool} {req : RegisterAddressRequest} {world : World}
  {system : SystemRecord} {checked : World}
  {record : SystemDomainRecord}

theorem requireAnchor_kept {email : String} :
    (requireAnchor state tid email).Ends (fun _ later => later.db = world.db)
      (fun _ later => later.db = world.db) world :=
  requireAnchor_ends (fun _ _ same => same) fun _ _ _ _ _ => rfl

theorem Passes.kept (passes : Passes state caller tid req world system checked) :
    checked.db = world.db := by
  have ends := @requireAnchor_kept state tid world req.email
  rw [Ends, passes.anchor] at ends
  exact ends

theorem writeRow_kept {error : AppError} {refused : World}
    (ran : writeRow state tid req system checked = (.error error, refused)) :
    refused.db = checked.db := by
  have ends : (writeRow state tid req system).Ends (fun _ _ => True)
      (fun _ later => later.db = checked.db) checked :=
    EnvFactory.createDomain_ends (fun _ _ _ same => same)
      (fun _ _ _ _ _ _ same => same) fun _ _ _ _ _ _ => trivial
  rw [Ends, ran] at ends
  exact ends

/-- What is left of a registration once the checks pass. -/
def afterChecks (state : HttpState) (tid : String) (generateCode : Bool)
    (req : RegisterAddressRequest) (system : SystemRecord) :
    Handler RegisterAddressResponse := do
  match ← (writeRow state tid req system).attempt with
  | .ok record =>
      completeRegistration state tid req generateCode
        (effectiveManager state system req) record
  | .error (.conflict text) =>
      answerConflict state tid req (effectiveManager state system req)
        (.conflict text)
  | .error error => fail (databaseError error)

theorem registerAddress_passed
    (passes : Passes state caller tid req world system checked) :
    registerAddress state caller tid generateCode req world =
      afterChecks state tid generateCode req system checked := by
  simp only [registerAddress, bind, check, passes.request, passes.anchor,
    passes.admission]
  rfl

theorem registerAddress_unpassed
    (unpassed : ∀ system checked,
      ¬ Passes state caller tid req world system checked) :
    Unchanged state caller tid generateCode req world := by
  intro error later ran
  simp only [registerAddress, bind, check] at ran
  cases request : checkRegistration state caller tid req with
  | error refusal =>
      rw [request] at ran
      cases ran
      rfl
  | ok system =>
      simp only [request] at ran
      have kept := @requireAnchor_kept state tid world req.email
      rw [Ends] at kept
      rcases anchor : requireAnchor state tid req.email world with
        ⟨refusal | _, checked⟩
      · rw [anchor] at ran kept
        cases ran
        exact kept
      · rw [anchor] at kept
        simp only [anchor] at ran
        cases admission : checkAdmitAddress state tid with
        | error refusal =>
            rw [admission] at ran
            cases ran
            exact kept
        | ok _ =>
            exact (unpassed system checked ⟨request, anchor, admission⟩).elim

theorem afterChecks_conflict {text : String} {refused : World}
    (ran : writeRow state tid req system checked =
      (.error (.conflict text), refused)) :
    afterChecks state tid generateCode req system checked =
      answerConflict state tid req (effectiveManager state system req)
        (.conflict text) refused := by
  simp only [afterChecks, bind, attempt, ran]

theorem afterChecks_written {written : World}
    (ran : writeRow state tid req system checked = (.ok record, written)) :
    afterChecks state tid generateCode req system checked =
      completeRegistration state tid req generateCode
        (effectiveManager state system req) record written := by
  simp only [afterChecks, bind, attempt, ran]

theorem answerConflict_managed {manager : String} {error : AppError} :
    answerConflict state tid req (some manager) error world =
      (.error ⟨.conflict, "already_exists", some error.toText⟩,
        ((syncForeignAddress state tid req.email manager).run world).2) :=
  rfl

/-- What writing the row of an address does to its table and to the one of the
metadata. -/
structure RowWrite (state : HttpState) (tid : String)
    (req : RegisterAddressRequest) (system : SystemRecord)
    (checked written : World) (systemDomains : SystemDomains)
    (domainAddrMeta : DomainAddrMeta) : Prop where
  frame : written.db = { checked.db with systemDomains, domainAddrMeta }
  row : systemDomains = checked.db.systemDomains ↔
    RowSettled state tid req checked.db (rowTick state req checked)
  metadata : domainAddrMeta = checked.db.domainAddrMeta ↔
    (Text.containsChar '@' req.email = true →
      MetaSettled state tid req.email (effectiveManager state system req)
        checked.db (rowTick state req checked + 2))

theorem syncDomainMeta_effect {systemDomains : SystemDomains} {mid : World}
    (now : mid.tick = rowTick state req checked + 2)
    (changed : mid.db = { checked.db with systemDomains })
    (settled : systemDomains = checked.db.systemDomains ↔
      RowSettled state tid req checked.db (rowTick state req checked)) :
    (EnvFactory.syncDomainMeta state.env req.email tid
      (effectiveManager state system req)).Ends
      (fun _ last => ∃ domains metas,
        RowWrite state tid req system checked last domains metas)
      (fun _ _ => True) mid := by
  rw [EnvFactory.syncDomainMeta]
  split
  · next address =>
      rcases @upsertMeta_effect state tid req.email mid
        (effectiveManager state system req) with ⟨_, metas, meant, written⟩
      rw [changed] at meant written
      rw [now] at written
      refine ⟨systemDomains, metas, meant, settled, ?_⟩
      rw [forall_prop_of_true address]
      exact written
  · next bare =>
      exact ⟨systemDomains, checked.db.domainAddrMeta, changed, settled,
        iff_of_true rfl fun impossible => absurd impossible bare⟩

theorem validateWebhookUrl_ends :
    (EnvFactory.validateWebhookUrl state.env req.webhookUrl).Ends
      (fun _ later => later.db = checked.db ∧
        later.tick + 1 = rowTick state req checked)
      (fun _ _ => True) checked := by
  have kept := @validateWebhookUrl_kept state checked req.webhookUrl
  rw [rowTick]
  unfold Ends
  split
  · next reached =>
      simp only [run, reached] at kept ⊢
      exact ⟨kept, trivial⟩
  · trivial

theorem writeRow_effect :
    (writeRow state tid req system).Ends
      (fun _ written => ∃ domains metas,
        RowWrite state tid req system checked written domains metas)
      (fun _ _ => True) checked := by
  rw [writeRow, EnvFactory.createDomain, ends_bind]
  refine (@validateWebhookUrl_ends state req checked).mono ?_
    fun _ _ _ => trivial
  rintro _ ⟨db, tick⟩ ⟨same, moment⟩
  simp only at same moment
  subst same
  rw [ends_bind, Storage.getSystemDomainByName, query, ends_call]
  refine ⟨fun _ _ => trivial, fun _ => ⟨fun _ _ => trivial, ?_⟩⟩
  intro found db looked
  cases looked
  cases search : checked.db.systemDomains.find? (·.domain == req.email) with
  | none =>
      -- A new row is never without effect.
      have missing : ¬ RowSettled state tid req checked.db
          (rowTick state req checked) := by
        rintro ⟨row, member, same, _⟩
        exact beq_eq_false_iff_ne.mp (Table.find?_eq_none.mp search row member)
          same
      rw [ends_bind, Storage.insertSystemDomain, ends_bind, ends_now, ends_call]
      refine ⟨fun _ _ => trivial, fun _ => ⟨fun _ _ => trivial, ?_⟩⟩
      intro record db written
      dsimp only [World.withDb_db, World.later_db] at written
      split at written
      · next systemDomains insertion =>
          cases written
          rw [ends_bind]
          have settled := iff_of_false (Table.ne_of_insert? insertion) missing
          exact (@syncDomainMeta_effect state tid req system checked
            systemDomains _ (congrArg (· + 2) moment) rfl settled).mono
              (fun _ _ ended => ended) fun _ _ _ => trivial
      · cases written
  | some existing =>
      rcases Table.mem_of_find? search with ⟨member, named⟩
      rw [beq_iff_eq] at named
      dsimp only
      split
      · exact trivial
      · next own =>
          have byId : checked.db.systemDomains.find? (·.id == existing.id) =
              some existing := SystemDomains.find?_id member
          rw [ends_bind, Storage.updateSystemDomain, ends_bind, ends_now,
            ends_call]
          refine ⟨fun _ _ => trivial, fun _ => ⟨fun _ _ => trivial, ?_⟩⟩
          intro answer db written
          dsimp only [World.withDb_db, World.later_db] at written
          rw [byId] at written
          dsimp only at written
          split at written
          · next systemDomains update =>
              cases written
              have settled : systemDomains = checked.db.systemDomains ↔
                  RowSettled state tid req checked.db
                    (rowTick state req checked) := by
                rw [Table.update?_eq_self_iff update, ← moment]
                constructor
                · intro same
                  have whole := same existing member
                    (beq_self_eq_true existing.id)
                  refine ⟨existing, member, named, not_not.mp own, ?_⟩
                  rw [← whole]
                  exact ⟨rfl, rfl, rfl, rfl⟩
                · rintro ⟨row, there, called, _, url, secret, active,
                    updated⟩ other otherMember chosen
                  have equal := SystemDomains.eq_of_domain there member
                    (called.trans named.symm)
                  rw [SystemDomains.eq_of_id otherMember member
                    (beq_iff_eq.mp chosen), ← equal]
                  rw [Storage.changeSystemDomain, Option.getD_some, ← url,
                    ← secret, ← active]
                  exact congrArg (SystemDomainRecord.mk _ _ _ _ _ _ _)
                    updated.symm
              dsimp only
              rw [ends_bind]
              exact (@syncDomainMeta_effect state tid req system checked
                systemDomains _ (congrArg (· + 2) moment) rfl settled).mono
                  (fun _ _ ended => ended) fun _ _ _ => trivial
          · cases written

/-! ## Codes -/

theorem managerRule_run (ε : Type) (manager : Option String) :
    (optionally (createManagerRule state req.email) manager :
        Action World ε Unit) world =
      (.ok (), ((optionally (createManagerRule state req.email) manager :
        Storage Unit).run world).2) := by
  cases manager with
  | none => rfl
  | some manager => rfl

theorem generateActivationCodes_filled {domain : String}
    {emailAddress : Option String} {count : Nat} :
    (generateActivationCodes state tid domain emailAddress (count + 1)).Ends
      (fun codes _ => codes ≠ []) (fun _ _ => True) world := by
  rw [generateActivationCodes, ends_bind]
  refine ends_any (fun time timed => ?_) fun _ _ => trivial
  rw [ends_bind]
  refine ends_any (fun code drawn => ?_) fun _ _ => trivial
  rw [ends_bind]
  refine ends_any (fun _ inserted => ?_) fun _ _ => trivial
  rw [ends_bind]
  exact ends_any (fun codes later => List.cons_ne_nil code codes)
    fun _ _ => trivial

theorem completeRegistration_uncoded {manager : Option String}
    {error : HttpError} {later : World} :
    completeRegistration state tid req false manager record world ≠
      (.error error, later) := by
  cases manager with
  | none => rintro ⟨⟩
  | some manager => rintro ⟨⟩

theorem completeRegistration_coded {manager : Option String}
    {error : HttpError} {later : World} :
    completeRegistration state tid req true manager record world =
        (.error error, later) ↔
      ∃ reason, writeCode state tid req manager world = (.error reason, later) ∧
        error = ⟨.internalServerError, "Failed to generate activation code",
          some reason.toText⟩ := by
  simp only [completeRegistration, writeCode, eq_self, if_true]
  simp only [bind, managerRule_run, mapError]
  generalize ((optionally (createManagerRule state req.email) manager :
    Storage Unit).run world).2 = ruled
  have filled := @generateActivationCodes_filled state tid ruled
    (Text.lastPiece '@' req.email) (some req.email) 0
  rw [Ends] at filled
  rcases ran : generateActivationCodes state tid (Text.lastPiece '@' req.email)
    (some req.email) 1 ruled with ⟨reason | codes, drawn⟩
  · constructor
    · rintro ⟨⟩
      exact ⟨reason, rfl, rfl⟩
    · rintro ⟨_, ⟨⟩, rfl⟩
      rfl
  · rw [ran] at filled
    cases codes with
    | nil => exact absurd rfl filled
    | cons code rest =>
        constructor
        · rintro ⟨⟩
        · rintro ⟨_, impossible, _⟩
          cases impossible

theorem codeFailed_kept_iff {written failed : World} {error : AppError}
    (ran : writeRow state tid req system checked = (.ok record, written))
    (stopped : writeCode state tid req (effectiveManager state system req)
      written = (.error error, failed)) :
    failed.db = checked.db ↔
      RowSettled state tid req checked.db (rowTick state req checked) ∧
        (Text.containsChar '@' req.email = true →
          MetaSettled state tid req.email (effectiveManager state system req)
            checked.db (rowTick state req checked + 2)) ∧
        ∀ manager, effectiveManager state system req = some manager →
          RuleSettled state req.email manager checked.db written.tick := by
  have effect := @writeRow_effect state tid req system checked
  rw [Ends, ran] at effect
  rcases effect with ⟨systemDomains, metas, rowed, row, meant⟩
  -- The code fails after the rule, and changes nothing.
  have ruled : failed.db = ((optionally (createManagerRule state req.email)
      (effectiveManager state system req) : Storage Unit).run written).2.db := by
    simp only [writeCode, bind, managerRule_run] at stopped
    have kept := @generateActivationCodes_failed state tid
      ((optionally (createManagerRule state req.email)
        (effectiveManager state system req) : Storage Unit).run written).2
      (Text.lastPiece '@' req.email) (some req.email)
    rw [Ends, stopped] at kept
    exact kept
  rw [ruled, ← row, ← meant]
  cases effectiveManager state system req with
  | none =>
      change written.db = checked.db ↔ _
      rw [rowed]
      rw [show { checked.db with
          systemDomains := systemDomains
          domainAddrMeta := metas } = checked.db ↔ _ from
        @database_eq_iff checked.db systemDomains metas checked.db.whitelists
          checked.db.whitelistSequence]
      simp
  | some manager =>
      rcases @managerRule_effect state req.email written AppError manager with
        ⟨whitelists, sequence, changed, settled⟩
      have ended : ((createManagerRule state req.email manager :
        Storage Unit).run written).2.db = _ := changed
      rw [optionally, ended, rowed]
      rw [rowed] at settled
      change { checked.db with
        systemDomains := systemDomains
        domainAddrMeta := metas
        whitelists := whitelists
        whitelistSequence := sequence } = checked.db ↔ _
      rw [database_eq_iff]
      refine and_congr_right fun domains => and_congr_right fun _ => ?_
      rw [domains] at settled
      refine settled.trans ?_
      constructor
      · intro there other same
        cases same
        exact there
      · exact fun all => all manager rfl

end Runs

def registration (id systemId domain : String) : SystemDomainRecord where
  id := id
  systemId := systemId
  domain := domain
  webhookUrl := none
  webhookSecret := none
  isActive := true
  createdAt := 0
  updatedAt := 0

/-- The address `eve@a.test` belongs to `sys-b`, its bare domain to `sys-a`. -/
def foreignEve : Database :=
  { Database.empty with
    systemDomains := ⟨[registration "d1" "sys-a" "a.test",
      registration "d2" "sys-b" "eve@a.test"], by decide⟩ }

def registerEve : RegisterAddressRequest :=
  ⟨"d3", "eve@a.test", none, none, some "zoe@c.test"⟩

end AimailGateway.RefusedRegistrations
