import AimailGateway.Api.RenameTexts
import AimailGateway.Board.Store

/-! # What a rename has validated

The handler checks the request on its own, reads the database three times and
then runs the batch. This compares what it has checked by then with what the
batch relies on, and with the addresses a registration admits.
-/

namespace AimailGateway.RenamePreconditions

open Library Action Api

section Statement

variable (state : HttpState) (caller : ApiKeyRecord) (tid : String)
  (req : RenameAddressRequest)

/-- What the handler checks before it runs the batch. -/
def renameChecks : Handler Unit := do
  check (checkRename caller tid req (normalized state req.oldEmail)
    (normalized state req.newEmail))
  requireUnregistered state (normalized state req.newEmail)
  requireRegisteredIn state tid (normalized state req.oldEmail)

theorem renameAgentAddress_eq :
    renameAgentAddress state caller tid req = (do
      renameChecks state caller tid req
      orDatabaseError (Storage.renameAgentAddressRefs state.env
        (normalized state req.oldEmail) (normalized state req.newEmail))) := by
  rw [renameChecks]
  simp only [bind_assoc]
  rfl

/-- `rename_agent_address_refs` is called. -/
def CallsRename (world : World) : Prop :=
  ∃ later, renameChecks state caller tid req world = (.ok (), later)

/-- No registration and no metadata carry an address. -/
structure Unregistered (db : Database) (addr : String) : Prop where
  row : ∀ row ∈ db.systemDomains, row.domain ≠ addr
  agentMeta : ∀ row ∈ db.domainAddrMeta,
    row.emailAddress ≠ state.env.tables.toLowercase addr

/-- What `rename_agent_address_refs` relies on, and an address a registration
admits. The members of the boards are in files of their own. -/
structure Preconditions (boards : String → Board.BoardDb) (db : Database) :
    Prop where
  registered : ∃ row ∈ db.systemDomains,
    row.domain = normalized state req.oldEmail ∧ row.systemId = tid
  unregistered : Unregistered state db (normalized state req.newEmail)
  sameDomain : Text.lastPiece '@' (normalized state req.newEmail) =
    Text.lastPiece '@' (normalized state req.oldEmail)
  memberless : ∀ boardId, ∀ member ∈ (boards boardId).members,
    member.email ≠ normalized state req.newEmail
  accepted : checkAddressShape tid (normalized state req.newEmail) = .ok ()

/-- The key may rename the address. -/
def Authorized : Prop :=
  requireScopeAny caller ["system"] = .ok () ∧
    (isAgentAdminScope caller && caller.emailAddress != req.oldEmail) = false

/-- The batch is called only under its preconditions, and under them it is. -/
def Establishes (boards : String → Board.BoardDb) (world : World) : Prop :=
  (CallsRename state caller tid req world →
    Preconditions state tid req boards world.db) ∧
  (Authorized caller req → Preconditions state tid req boards world.db →
    CallsRename state caller tid req world)

/-- The test of `rename_agent_address` on the new local part, which is what
precedes the first `@`. -/
def legalLocal : Bool :=
  let newLocal := Text.firstPiece '@' (normalized state req.newEmail)
  newLocal != "" && Text.byteLength newLocal ≤ 64 &&
    (Text.bytes newLocal).all isAtextNoDot &&
    dotCount newLocal == (if isShared tid then 1 else 0)

/-- The request passes its checks, the old address is found, and the new one is
not, as far as the lookups of it succeed. -/
structure Reaches (world : World) : Prop where
  request : checkRename caller tid req (normalized state req.oldEmail)
    (normalized state req.newEmail) = .ok ()
  registered : ∃ row ∈ world.db.systemDomains,
    row.domain = normalized state req.oldEmail ∧ row.systemId = tid
  readable : state.env.fault (world.tick + 2) = none
  row : state.env.fault world.tick = none → ∀ row ∈ world.db.systemDomains,
    row.domain ≠ normalized state req.newEmail
  agentMeta : state.env.fault (world.tick + 1) = none →
    ∀ row ∈ world.db.domainAddrMeta, row.emailAddress ≠
      state.env.tables.toLowercase (normalized state req.newEmail)

/-- A shared system has no rename to carry out; in another one no failed lookup
hides the new address, no board lists it, and both checks of its local part
agree. -/
structure Sound (boards : String → Board.BoardDb) (world : World) : Prop where
  shared : isShared tid = true → Authorized caller req →
    ¬ Preconditions state tid req boards world.db
  shown : Reaches state caller tid req world →
    Unregistered state world.db (normalized state req.newEmail)
  memberless : Reaches state caller tid req world →
    ∀ boardId, ∀ member ∈ (boards boardId).members,
      member.email ≠ normalized state req.newEmail
  accepted : Reaches state caller tid req world →
    checkAddressShape tid (normalized state req.newEmail) = .ok ()
  carried : isShared tid = false → Authorized caller req →
    Preconditions state tid req boards world.db →
    legalLocal state tid req = true ∧
      state.env.fault (world.tick + 2) = none

end Statement

/-! ## Lookups -/

section Lookups

variable {state : HttpState} {world : World}
  {addr : String}

theorem attempt_query (env : Surroundings) (world : World)
    (read : Database → Option α) (ε : Type) :
    ∃ outcome, ((query env read).attempt : Action World ε _) world =
        (.ok outcome, world.later) ∧
      (isFound outcome = true ↔
        env.fault world.tick = none ∧ (read world.db).isSome = true) := by
  rw [attempt, query, call]
  cases env.fault world.tick with
  | some fault => exact ⟨_, rfl, by rintro ⟨⟩, by rintro ⟨⟨⟩, _⟩⟩
  | none =>
      refine ⟨.ok (read world.db), rfl, ?_⟩
      cases read world.db with
      | none => exact ⟨by rintro ⟨⟩, by rintro ⟨_, ⟨⟩⟩⟩
      | some row => exact ⟨fun _ => ⟨rfl, rfl⟩, fun _ => rfl⟩

theorem isSome_findDomain {db : Database} :
    (db.systemDomains.find? (·.domain == addr)).isSome = true ↔
      ¬ ∀ row ∈ db.systemDomains, row.domain ≠ addr := by
  rw [← Option.ne_none_iff_isSome, Ne, Table.find?_eq_none]
  simp

theorem isSome_findMeta {db : Database} :
    (db.domainAddrMeta.find? (·.emailAddress == addr)).isSome = true ↔
      ¬ ∀ row ∈ db.domainAddrMeta, row.emailAddress ≠ addr := by
  rw [← Option.ne_none_iff_isSome, Ne, Table.find?_eq_none]
  simp

theorem bind_run {action : Action World ε α} {rest : α → Action World ε β}
    {value : α} {next : World} (ran : action world = (.ok value, next)) :
    (action >>= rest) world = rest value next := by
  simp only [bind, ran]

theorem isRegistered_run (addr : String) :
    ∃ registered later,
      isRegistered state addr world = (.ok registered, later) ∧
      (registered = false → later = world.later.later) ∧
      (registered = false ↔
        (state.env.fault world.tick = none →
          ∀ row ∈ world.db.systemDomains, row.domain ≠ addr) ∧
        (state.env.fault (world.tick + 1) = none →
          ∀ row ∈ world.db.domainAddrMeta,
            row.emailAddress ≠ state.env.tables.toLowercase addr)) := by
  obtain ⟨first, ran, found⟩ := attempt_query state.env world
    (fun db => db.systemDomains.find? (·.domain == addr)) HttpError
  obtain ⟨second, again, shown⟩ := attempt_query state.env world.later
    (fun db => db.domainAddrMeta.find?
      (·.emailAddress == state.env.tables.toLowercase addr)) HttpError
  rw [isSome_findDomain] at found
  rw [isSome_findMeta] at shown
  rw [isRegistered, Storage.getSystemDomainByName, bind_run ran]
  by_cases there : isFound first = true
  · obtain ⟨calm, listed⟩ := found.mp there
    rw [if_pos there]
    exact ⟨true, _, rfl, by rintro ⟨⟩, by rintro ⟨⟩, fun free => absurd (free.1 calm) listed⟩
  · have free : state.env.fault world.tick = none →
        ∀ row ∈ world.db.systemDomains, row.domain ≠ addr :=
      fun calm => not_not.mp fun listed => there (found.mpr ⟨calm, listed⟩)
    rw [if_neg there, Storage.getDomainAddrMeta, bind_run again]
    refine ⟨isFound second, _, rfl, fun _ => rfl, ?_⟩
    rw [← Bool.not_eq_true, shown]
    constructor
    · intro unlisted
      exact ⟨free, fun calm => not_not.mp fun kept => unlisted ⟨calm, kept⟩⟩
    · rintro ⟨_, agentMeta⟩ ⟨calm, kept⟩
      exact kept (agentMeta calm)

theorem requireUnregistered_run {later : World} :
    requireUnregistered state addr world = (.ok (), later) ↔
      later = world.later.later ∧
      (state.env.fault world.tick = none →
        ∀ row ∈ world.db.systemDomains, row.domain ≠ addr) ∧
      (state.env.fault (world.tick + 1) = none →
        ∀ row ∈ world.db.domainAddrMeta,
          row.emailAddress ≠ state.env.tables.toLowercase addr) := by
  obtain ⟨registered, middle, ran, last, free⟩ :=
    @isRegistered_run state world addr
  rw [requireUnregistered, bind_run ran, ← free]
  cases registered with
  | true =>
      rw [if_pos rfl]
      constructor
      · rintro ⟨⟩
      · rintro ⟨_, impossible⟩
        cases impossible
  | false =>
      rw [if_neg Bool.false_ne_true, last rfl]
      constructor
      · rintro ⟨⟩
        exact ⟨rfl, rfl⟩
      · rintro ⟨rfl, _⟩
        rfl

theorem requireRegisteredIn_run {tid addr : String} :
    (∃ later, requireRegisteredIn state tid addr world = (.ok (), later)) ↔
      state.env.fault world.tick = none ∧
        ∃ row ∈ world.db.systemDomains, row.domain = addr ∧
          row.systemId = tid := by
  cases calm : state.env.fault world.tick with
  | some fault =>
      have ran : orDatabaseError (Storage.getSystemDomainByName state.env addr)
          world = (.error (databaseError fault.error), world.later) := by
        simp only [orDatabaseError, mapError, Storage.getSystemDomainByName,
          query, call, calm]
      simp only [requireRegisteredIn, bind, ran]
      exact ⟨by rintro ⟨_, ⟨⟩⟩, by rintro ⟨⟨⟩, _⟩⟩
  | none =>
      have ran : orDatabaseError (Storage.getSystemDomainByName state.env addr)
          world = (.ok (world.db.systemDomains.find? (·.domain == addr)),
            world.later) := by
        simp only [orDatabaseError, mapError, Storage.getSystemDomainByName,
          query, call, calm]
        rfl
      rw [requireRegisteredIn, bind_run ran]
      simp only [true_and]
      cases found : world.db.systemDomains.find? (·.domain == addr) with
      | none =>
          have free := Table.find?_eq_none.mp found
          constructor
          · rintro ⟨_, ⟨⟩⟩
          · rintro ⟨row, member, named, _⟩
            have other := free row member
            rw [named, beq_self_eq_true] at other
            cases other
      | some row =>
          obtain ⟨member, named⟩ := Table.mem_of_find? found
          have own : row.domain = addr := by simpa using named
          by_cases foreign : row.systemId ≠ tid
          · simp only [if_pos foreign]
            constructor
            · rintro ⟨_, ⟨⟩⟩
            · rintro ⟨other, listed, same, system⟩
              rw [SystemDomains.eq_of_domain listed member
                (same.trans own.symm)] at system
              exact absurd system foreign
          · simp only [if_neg foreign]
            constructor
            · exact fun _ => ⟨row, member, own, not_not.mp foreign⟩
            · exact fun _ => ⟨_, rfl⟩

end Lookups

/-! ## The checks on the request -/

section Request

variable {state : HttpState} {caller : ApiKeyRecord} {tid : String}
  {req : RenameAddressRequest}

theorem checkRename_iff :
    checkRename caller tid req (normalized state req.oldEmail)
        (normalized state req.newEmail) = .ok () ↔
      Authorized caller req ∧
        normalized state req.oldEmail ≠ normalized state req.newEmail ∧
        Text.lastPiece '@' (normalized state req.oldEmail) ≠ "" ∧
        Text.lastPiece '@' (normalized state req.newEmail) =
          Text.lastPiece '@' (normalized state req.oldEmail) ∧
        legalLocal state tid req = true := by
  rw [checkRename, Authorized]
  generalize normalized state req.oldEmail = old
  cases scope : requireScopeAny caller ["system"] with
  | error refusal =>
      constructor
      · rintro ⟨⟩
      · rintro ⟨⟨impossible, _⟩, _⟩
        cases impossible
  | ok _ =>
      change (if _ then _ else if _ then _ else if _ then _ else _) = _ ↔ _
      split
      · next stranger =>
          constructor
          · rintro ⟨⟩
          · rintro ⟨⟨_, owner⟩, _⟩
            rw [stranger] at owner
            cases owner
      · next owner =>
          split
          · next same =>
              exact ⟨by rintro ⟨⟩, fun checked => absurd same checked.2.1⟩
          · next different =>
              split
              · next crossed =>
                  constructor
                  · rintro ⟨⟩
                  · rintro ⟨_, _, domain, kept, _⟩
                    exact (crossed.elim domain fun moved => moved kept).elim
              · next domain =>
                  rw [not_or, not_not] at domain
                  change (if legalLocal state tid req = true then _ else _) =
                    _ ↔ _
                  cases legal : legalLocal state tid req with
                  | false =>
                      exact ⟨by rintro ⟨⟩, fun checked => absurd checked.2.2.2.2
                        Bool.false_ne_true⟩
                  | true =>
                      rw [Bool.not_eq_true] at owner
                      exact ⟨fun _ => ⟨⟨rfl, owner⟩, different, domain.1,
                        domain.2, rfl⟩, fun _ => rfl⟩

theorem unshared_of_legalLocal (legal : legalLocal state tid req = true) :
    isShared tid = false := by
  rw [legalLocal] at legal
  simp only [Bool.and_eq_true, beq_iff_eq] at legal
  obtain ⟨⟨_, atext⟩, dots⟩ := legal
  cases shared : isShared tid with
  | false => rfl
  | true =>
      rw [shared, if_pos rfl, dotCount] at dots
      have dotted : '.' ∈ (Text.firstPiece '@'
          (normalized state req.newEmail)).toList := by
        rw [← List.count_pos_iff, dots]
        exact Nat.one_pos
      have dot := List.all_eq_true.mp atext 0x2E
        (Storage.mem_bytes dotted (by decide))
      exact absurd dot (by decide)

end Request

/-! ## Result -/

section Result

variable {state : HttpState} {caller : ApiKeyRecord} {tid : String}
  {req : RenameAddressRequest} {boards : String → Board.BoardDb} {world : World}

theorem callsRename_iff :
    CallsRename state caller tid req world ↔
      Reaches state caller tid req world := by
  rw [CallsRename, renameChecks]
  cases request : checkRename caller tid req (normalized state req.oldEmail)
    (normalized state req.newEmail) with
  | error refusal =>
      constructor
      · rintro ⟨_, ⟨⟩⟩
      · intro reaches
        have passed := reaches.request
        rw [request] at passed
        cases passed
  | ok _ =>
      have checked : check (.ok () : Except HttpError Unit) world =
          (.ok (), world) := rfl
      rw [bind_run checked]
      constructor
      · rintro ⟨later, ran⟩
        rcases middle : requireUnregistered state
          (normalized state req.newEmail) world with ⟨refusal | _, between⟩
        · simp only [bind, middle] at ran
          cases ran
        · rw [bind_run middle] at ran
          obtain ⟨rfl, row, agentMeta⟩ := requireUnregistered_run.mp middle
          obtain ⟨readable, registered⟩ :=
            requireRegisteredIn_run.mp ⟨later, ran⟩
          exact ⟨request, registered, readable, row, agentMeta⟩
      · intro reaches
        have middle := requireUnregistered_run.mpr
          ⟨rfl, reaches.row, reaches.agentMeta⟩
        rw [bind_run middle]
        exact requireRegisteredIn_run.mpr ⟨reaches.readable, reaches.registered⟩

end Result

/-! ## A shared system -/

def sharedAnn : Database :=
  { Database.empty with
    systemDomains := ⟨[{
      id := "d1"
      systemId := "shared-1"
      domain := "ann.acme@x.org"
      webhookUrl := none
      webhookSecret := none
      isActive := true
      createdAt := 0
      updatedAt := 0 }], by decide⟩ }

def sharedKey : ApiKeyRecord :=
  sampleKey 1 "shared-1" "" "hash" ["system"] "system"

def toBob : RenameAddressRequest := ⟨"ann.acme@x.org", "bob.acme@x.org"⟩

end AimailGateway.RenamePreconditions
