import AimailGateway.Api.SendHeaders
import AimailGateway.Smtp.Outcomes

/-! # How the two entry points resolve an address

The RCPT command looks an address up as it stands and strips its persona only
if it is not registered. The send API strips first, as the mode of the sender
demands, and looks up what is left.
-/

namespace AimailGateway.Api

open Library Action

/-! ## The resolutions -/

section Resolutions

variable (state : SendState)

/-- The same gateway with a storage in which no call fails. -/
def SendState.undisturbed (state : SendState) : SendState :=
  { state with receiver := { state.receiver with
    env := { state.receiver.env with fault := fun _ => none } } }

theorem undisturbed_calm : state.undisturbed.receiver.env.Calm := fun _ => rfl

/-- The domain record that RCPT resolves an address to. Boards have none. -/
def rcptRecord (db : Database) (addr : String) : Option String :=
  if Board.isBoardAddress addr then none
  else
    match (Smtp.resolveRecipient state.undisturbed.receiver addr).run
        (World.start db) with
    | (.ok target, _) => some target.domain
    | (.error _, _) => none

/-- What is left of an address in a request once its persona is stripped. -/
def requestBase (systemId addr : String) : String :=
  (splitRecipient state (isShared systemId)
    (state.env.tables.toLowercase addr)).1

/-- How a send sorts the address. -/
def sendBuckets (db : Database) (systemId addr : String) : Buckets :=
  match ((splitRecipients state.undisturbed systemId
      [requestBase state systemId addr] : Storage Buckets).run
        (World.start db)) with
  | (.ok buckets, _) => buckets
  | (.error _, _) => .empty

/-- The domain record that a send resolves the address to for internal
delivery. Boards have none. -/
def sendRecord (db : Database) (systemId addr : String) : Option String :=
  if Board.isBoardAddress (requestBase state systemId addr) then none
  else (sendBuckets state db systemId addr).internal.head?

end Resolutions

variable {state : SendState} {db : Database} {systemId addr : String}
  {name : String}

/-- A row that RCPT looks at: the registration of the address, or of what is
left without its persona if the address is not registered. -/
structure LooksAt (state : SendState) (db : Database) (addr : String)
    (row : SystemDomainRecord) : Prop where
  member : row ∈ db.systemDomains
  named : row.domain = state.env.tables.toLowercase addr ∨
    row.domain = state.env.tables.toLowercase
      (Email.stripPersona state.env.tables addr).1 ∧
    ∀ other ∈ db.systemDomains,
      other.domain ≠ state.env.tables.toLowercase addr

/-- RCPT takes what it looks at, system mailboxes apart. -/
structure TakenByRcpt (state : SendState) (db : Database) (addr : String)
    (row : SystemDomainRecord) : Prop where
  agent : Board.isBoardAddress addr = false
  looks : LooksAt state db addr row
  deliverable : Smtp.isSystemAnchor row row.domain = false

/-- A record that a send of the system may deliver to. -/
def Usable (systemId : String) (row : SystemDomainRecord) : Prop :=
  row.isActive = true ∧ (row.systemId = systemId ∨ isShared row.systemId = true)

/-- A send takes the usable registration of what it is left with. -/
structure TakenBySend (state : SendState) (db : Database)
    (systemId addr : String) (row : SystemDomainRecord) : Prop where
  agent : Board.isBoardAddress (requestBase state systemId addr) = false
  recipient : isSystemSink state (requestBase state systemId addr) = false
  member : row ∈ db.systemDomains
  named : row.domain = requestBase state systemId addr
  usable : Usable systemId row

theorem LooksAt.unique {first second : SystemDomainRecord}
    (firstLooks : LooksAt state db addr first)
    (secondLooks : LooksAt state db addr second) : first = second := by
  refine SystemDomains.eq_of_domain firstLooks.member secondLooks.member ?_
  rcases firstLooks.named with named | ⟨named, free⟩
  · rcases secondLooks.named with named' | ⟨_, free⟩
    · rw [named, named']
    · exact absurd named (free first firstLooks.member)
  · rcases secondLooks.named with named' | ⟨named', _⟩
    · exact absurd named' (free second secondLooks.member)
    · rw [named, named']

theorem rowNamed_eq_some {row : SystemDomainRecord} :
    Smtp.rowNamed db name = some row ↔
      row ∈ db.systemDomains ∧ row.domain = name := by
  rw [Smtp.rowNamed]
  constructor
  · intro found
    rcases Table.mem_of_find? found with ⟨member, named⟩
    exact ⟨member, beq_iff_eq.mp named⟩
  · rintro ⟨member, named⟩
    exact named ▸ SystemDomains.find?_domain member

theorem rowNamed_eq_none :
    Smtp.rowNamed db name = none ↔ ∀ row ∈ db.systemDomains, row.domain ≠ name := by
  rw [Smtp.rowNamed, Table.find?_eq_none]
  simp

theorem lookup_ends {world : World}
    {ok : Option SystemDomainRecord → World → Prop}
    {failed : AppError → World → Prop} :
    (Storage.getSystemDomainByName state.undisturbed.receiver.env name).Ends ok
      failed world ↔ ok (Smtp.rowNamed world.db name) world.later :=
  (undisturbed_calm state).ends_query

theorem resolveRecipient_takes {ok : Smtp.Target → World → Prop}
    {failed : Smtp.Response → World → Prop}
    (agent : Board.isBoardAddress addr = false)
    (taken : ∀ row added persona later, TakenByRcpt state db addr row →
      ok (.ofRow row added persona) later)
    (refused : (∀ row, ¬ TakenByRcpt state db addr row) →
      ∀ response later, failed response later) :
    (Smtp.resolveRecipient state.undisturbed.receiver addr).Ends ok failed
      (World.start db) := by
  have accepts {row : SystemDomainRecord} {name persona : String} {later : World}
      (looks : LooksAt state db addr row) (named : row.domain = name) :
      (Smtp.acceptRegistration row name persona).Ends ok failed later := by
    rw [Smtp.acceptRegistration]
    split
    · next anchor =>
        refine refused (fun other takes => ?_) _ _
        have deliverable := takes.deliverable
        rw [takes.looks.unique looks, named, anchor] at deliverable
        cases deliverable
    · next deliverable =>
        refine taken row name persona later ⟨agent, looks, ?_⟩
        rw [named]
        exact Bool.eq_false_iff.mpr deliverable
  rw [Smtp.resolveRecipient, ends_bind, ends_attempt, lookup_ends]
  cases exact : Smtp.rowNamed (World.start db).db
      (state.undisturbed.receiver.env.tables.toLowercase addr) with
  | some row =>
      rcases rowNamed_eq_some.mp exact with ⟨member, named⟩
      exact accepts ⟨member, .inl named⟩ named
  | none =>
      have free := rowNamed_eq_none.mp exact
      simp only
      split
      · next same =>
          refine refused (fun row takes => ?_) _ _
          rcases takes.looks.named with named | ⟨named, _⟩
          · exact free row takes.looks.member named
          · exact free row takes.looks.member (named.trans same)
      · rw [ends_bind, ends_attempt, lookup_ends]
        cases stripped : Smtp.rowNamed (World.start db).later.db
            (state.undisturbed.receiver.env.tables.toLowercase
              (Email.stripPersona state.undisturbed.receiver.env.tables addr).1)
            with
        | some row =>
            rcases rowNamed_eq_some.mp stripped with ⟨member, named⟩
            exact accepts ⟨member, .inr ⟨named, free⟩⟩ named
        | none =>
            refine refused (fun row takes => ?_) _ _
            rcases takes.looks.named with named | ⟨named, _⟩
            · exact free row takes.looks.member named
            · exact rowNamed_eq_none.mp stripped row takes.looks.member named

theorem rcptRecord_iff {domain : String} :
    rcptRecord state db addr = some domain ↔
      ∃ row, TakenByRcpt state db addr row ∧ row.domain = domain := by
  rw [rcptRecord]
  split
  · next board =>
      constructor
      · exact nofun
      · rintro ⟨row, takes, _⟩
        rw [takes.agent] at board
        cases board
  · next agent =>
      have ends : (Smtp.resolveRecipient state.undisturbed.receiver addr).Ends
          (fun target _ => ∃ row, TakenByRcpt state db addr row ∧
            target.domain = row.domain)
          (fun _ _ => ∀ row, ¬ TakenByRcpt state db addr row)
          (World.start db) :=
        resolveRecipient_takes (Bool.eq_false_iff.mpr agent)
          (fun row _ _ _ takes => ⟨row, takes, rfl⟩) fun none _ _ => none
      rw [ends_iff_run] at ends
      rcases outcome : (Smtp.resolveRecipient state.undisturbed.receiver
        addr).run (World.start db) with ⟨response | target, later⟩
      · constructor
        · exact nofun
        · rintro ⟨row, takes, _⟩
          exact absurd takes (ends.2 response later outcome row)
      · rcases ends.1 target later outcome with ⟨row, takes, same⟩
        constructor
        · intro found
          exact ⟨row, takes, same.symm.trans (Option.some.inj found)⟩
        · rintro ⟨other, others, named⟩
          rw [others.looks.unique takes.looks, ← same] at named
          exact congrArg some named

theorem splitRecipients_takes {base : String}
    {ok : Buckets → World → Prop} {failed : AppError → World → Prop}
    (agent : Board.isBoardAddress base = false)
    (named : base = requestBase state systemId addr)
    (taken : ∀ row later, TakenBySend state db systemId addr row →
      ok { Buckets.empty with internal := [base] } later)
    (missed : (∀ row, ¬ TakenBySend state db systemId addr row) →
      ∀ buckets later, buckets.internal = [] → ok buckets later) :
    (splitRecipients state.undisturbed systemId [base]).Ends ok failed
      (World.start db) := by
  rw [splitRecipients]
  split
  · next sink =>
      have recipient (row : SystemDomainRecord) :
          ¬ TakenBySend state db systemId addr row := by
        intro takes
        have other := takes.recipient
        rw [← named] at other
        exact absurd sink (ne_true_of_eq_false other)
      exact missed recipient _ _ rfl
  · next recipient =>
      rw [agent]
      simp only [Bool.false_eq_true, if_false]
      rw [ends_bind, ends_attempt]
      refine lookup_ends.mpr ?_
      have outside (none : ∀ row, ¬ TakenBySend state db systemId addr row)
          {sort : Except AppError (Option SystemDomainRecord) → Buckets →
            Storage Buckets}
          (sorted : ∀ fallback, ∃ buckets, sort fallback .empty = pure buckets ∧
            buckets.internal = []) :
          ((Storage.getSystemDomainByName state.undisturbed.env
            (Text.lastPiece '@' base)).attempt >>= fun fallback =>
              splitRecipients state.undisturbed systemId [] >>= sort fallback :
            Storage Buckets).Ends ok failed (World.start db).later := by
        rw [ends_bind, ends_attempt]
        refine lookup_ends.mpr ?_
        rw [ends_bind]
        refine ends_pure.mpr ?_
        rcases sorted (.ok (Smtp.rowNamed (World.start db).later.db
          (Text.lastPiece '@' base))) with ⟨buckets, same, empty⟩
        rw [same]
        exact missed none buckets _ empty
      cases found : Smtp.rowNamed (World.start db).db base with
      | none =>
          refine outside (fun row takes => ?_) fun fallback => ?_
          · exact rowNamed_eq_none.mp found row takes.member
              (takes.named.trans named.symm)
          · rcases fallback with error | _ | other
            · exact ⟨_, rfl, rfl⟩
            · exact ⟨_, rfl, rfl⟩
            · simp only
              split <;> exact ⟨_, rfl, rfl⟩
      | some row =>
          rcases rowNamed_eq_some.mp found with ⟨member, same⟩
          simp only
          split
          · next usable =>
              rw [Bool.and_eq_true, Bool.or_eq_true, beq_iff_eq] at usable
              refine taken row _ ⟨?_, ?_, member, same.trans named, usable⟩
              · rw [← named]
                exact agent
              · rw [← named]
                exact Bool.eq_false_iff.mpr recipient
          · next useless =>
              refine outside (fun other takes => useless ?_) fun fallback => ?_
              · have both : other = row := SystemDomains.eq_of_domain
                  takes.member member
                    (takes.named.trans (named.symm.trans same.symm))
                rw [Bool.and_eq_true, Bool.or_eq_true, beq_iff_eq, ← both]
                exact takes.usable
              · rcases fallback with error | _ | other
                · exact ⟨_, rfl, rfl⟩
                · exact ⟨_, rfl, rfl⟩
                · simp only
                  split <;> exact ⟨_, rfl, rfl⟩

/-- An address that is delivered to internally is in no other bucket. -/
def InternalAlone (buckets : Buckets) : Prop :=
  buckets.internal ≠ [] → buckets.external = [] ∧ buckets.unregistered = []

theorem sendBuckets_spec
    (agent : Board.isBoardAddress (requestBase state systemId addr) = false) :
    InternalAlone (sendBuckets state db systemId addr) ∧
      ∀ domain, (sendBuckets state db systemId addr).internal.head? = some domain ↔
        ∃ row, TakenBySend state db systemId addr row ∧ row.domain = domain := by
  have ends : (splitRecipients state.undisturbed systemId
        [requestBase state systemId addr] : Storage Buckets).Ends
      (fun buckets _ => InternalAlone buckets ∧
        ∀ domain, buckets.internal.head? = some domain ↔
          ∃ row, TakenBySend state db systemId addr row ∧ row.domain = domain)
      (fun _ _ => False) (World.start db) := by
    apply splitRecipients_takes agent rfl
    · intro row _ takes
      refine ⟨fun _ => ⟨rfl, rfl⟩, fun domain => ?_⟩
      constructor
      · intro same
        exact ⟨row, takes, takes.named.trans (Option.some.inj same)⟩
      · rintro ⟨other, others, same⟩
        rw [others.named] at same
        exact congrArg some same
    · intro none buckets _ empty
      refine ⟨fun some => absurd empty some, fun domain => ?_⟩
      rw [empty]
      constructor
      · exact nofun
      · rintro ⟨row, takes, _⟩
        exact absurd takes (none row)
  rw [ends_iff_run] at ends
  rw [sendBuckets]
  rcases outcome : (splitRecipients state.undisturbed systemId
      [requestBase state systemId addr] : Storage Buckets).run
        (World.start db) with ⟨error | buckets, later⟩
  · exact (ends.2 error later outcome).elim
  · exact ends.1 buckets later outcome

theorem sendRecord_iff {domain : String} :
    sendRecord state db systemId addr = some domain ↔
      ∃ row, TakenBySend state db systemId addr row ∧ row.domain = domain := by
  rw [sendRecord]
  split
  · next board =>
      constructor
      · exact nofun
      · rintro ⟨row, takes, _⟩
        rw [takes.agent] at board
        cases board
  · next agent => exact (sendBuckets_spec (Bool.eq_false_iff.mpr agent)).2 domain

/-! ## Addresses that are resolved alike -/

/-- Both paths resolve the address to the same record, and a send does not
report an agent that RCPT finds. -/
structure ResolvedAlike (state : SendState) (db : Database)
    (systemId addr : String) : Prop where
  same : sendRecord state db systemId addr = rcptRecord state db addr
  found : rcptRecord state db addr ≠ none →
    (sendBuckets state db systemId addr).external = [] ∧
      (sendBuckets state db systemId addr).unregistered = []

/-- The record RCPT takes is one the sender may use, and it is registered as
what the send is left with, which is a recipient of its own; the record the send
takes is no other. -/
structure RegisteredAlike (state : SendState) (db : Database)
    (systemId addr : String) : Prop where
  usable : ∀ row, TakenByRcpt state db addr row → Usable systemId row
  stripped : ∀ row, TakenByRcpt state db addr row →
    row.domain = requestBase state systemId addr
  recipient : ∀ row, TakenByRcpt state db addr row →
    Board.isBoardAddress (requestBase state systemId addr) = false ∧
      isSystemSink state (requestBase state systemId addr) = false
  taken : ∀ row, TakenBySend state db systemId addr row →
    TakenByRcpt state db addr row

theorem resolvedAlike_iff (state : SendState) (db : Database)
    (systemId addr : String) :
    ResolvedAlike state db systemId addr ↔
      RegisteredAlike state db systemId addr := by
  constructor
  · rintro ⟨same, _⟩
    have sends (row : SystemDomainRecord) (takes : TakenByRcpt state db addr row) :
        TakenBySend state db systemId addr row := by
      have found := rcptRecord_iff.mpr ⟨row, takes, rfl⟩
      rw [← same] at found
      rcases sendRecord_iff.mp found with ⟨other, others, named⟩
      have both := SystemDomains.eq_of_domain others.member takes.looks.member named
      rw [← both]
      exact others
    refine ⟨fun row takes => (sends row takes).usable,
      fun row takes => (sends row takes).named,
      fun row takes => ⟨(sends row takes).agent, (sends row takes).recipient⟩,
      fun row takes => ?_⟩
    have found := sendRecord_iff.mpr ⟨row, takes, rfl⟩
    rw [same] at found
    rcases rcptRecord_iff.mp found with ⟨other, others, named⟩
    have both := SystemDomains.eq_of_domain others.looks.member takes.member named
    rw [← both]
    exact others
  · intro alike
    have same : sendRecord state db systemId addr = rcptRecord state db addr := by
      refine Option.ext fun domain => ?_
      rw [sendRecord_iff, rcptRecord_iff]
      constructor
      · rintro ⟨row, takes, named⟩
        exact ⟨row, alike.taken row takes, named⟩
      · rintro ⟨row, takes, named⟩
        have recipient := alike.recipient row takes
        exact ⟨row, ⟨recipient.1, recipient.2, takes.looks.member,
          alike.stripped row takes, alike.usable row takes⟩, named⟩
    refine ⟨same, fun found => ?_⟩
    rw [← same, Option.ne_none_iff_exists'] at found
    rcases found with ⟨domain, found⟩
    rcases sendRecord_iff.mp found with ⟨row, takes, _⟩
    have spec : InternalAlone (sendBuckets state db systemId addr) ∧
        ∀ domain, (sendBuckets state db systemId addr).internal.head? =
          some domain ↔
            ∃ row, TakenBySend state db systemId addr row ∧ row.domain = domain :=
      sendBuckets_spec takes.agent
    refine spec.1 fun empty => ?_
    have head := (spec.2 row.domain).mpr ⟨row, takes, rfl⟩
    rw [empty] at head
    cases head

def sharedDomain : Database :=
  { Database.empty with
    systemDomains := ⟨[Smtp.registration "d1" "shared-acme" "acme@s.test",
      Smtp.registration "d2" "shared-acme" "bob.acme@s.test"], by decide⟩ }

/-- RCPT finds the agent; a send from a system of its own takes its name for a
persona and finds the mailbox of the agent's system. -/
theorem shared_agent_mistaken :
    ¬ ∀ (state : SendState) (db : Database) (systemId addr : String),
      ResolvedAlike state db systemId addr := by
  intro claimed
  have same := (claimed plainSend sharedDomain "sys-a" "bob.acme@s.test").same
  have sent : sendRecord plainSend sharedDomain "sys-a" "bob.acme@s.test" =
      some "acme@s.test" := by decide +kernel
  have received : rcptRecord plainSend sharedDomain "bob.acme@s.test" =
      some "bob.acme@s.test" := by decide +kernel
  rw [sent, received] at same
  exact absurd same (by decide)

end AimailGateway.Api
