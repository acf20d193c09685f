import AimailGateway.Board.Runs

/-! # The tokens of members

Which raw tokens the commands issue is read off their statements: a token that
is generated belongs to the member that is written next. A row holds the last
token issued to its member, raw or as its hash.
-/

namespace AimailGateway.Board

open Library Fallible BoardDb

/-! ## Issued tokens -/

/-- A raw token, with the board and the member it was issued to. -/
structure Issue where
  boardId : String
  email : String
  token : String
  deriving DecidableEq, Repr

/-- A board database, with what was issued. -/
structure Registry where
  world : BoardWorld
  /-- A raw token that is not yet stored. -/
  pending : Option String
  /-- The tokens issued so far, latest first. -/
  issued : List Issue
  /-- What `storesFresh` says of every member written in the last event. -/
  fresh : Bool

/-- The last raw token issued to a member of a board. -/
def Registry.last (registry : Registry) (boardId email : String) :
    Option String :=
  (registry.issued.find? fun issue =>
    issue.boardId == boardId && issue.email == email).map (·.token)

/-- A new token goes to an address without a row, on a board that exists. Else
the row of the member is written, or a row without a token. -/
def storesFresh (db : BoardDb) (pending : Option String) (member : Member) :
    Bool :=
  match pending with
  | some _ => db.hasBoard member.boardId && !db.isMember member.email
  | none =>
      (db.findMember member.boardId member.email).isSome ||
        (member.boardToken.isNone && !db.isMember member.email)

/-- A statement, with what it issues. -/
def observe (host : Host) :
    (statement : Statement) → Registry → statement.Answer × Registry
  | .generateBoardToken, registry =>
      (generateBoardToken (host.randomBytes registry.world.tick),
        { registry with
          world := registry.world.tock
          pending := some
            (generateBoardToken (host.randomBytes registry.world.tick)) })
  | .upsertMember member, registry =>
      let outcome := perform host (.upsertMember member) registry.world
      (outcome.1, {
        world := outcome.2
        pending := none
        issued := (registry.pending.map fun token =>
          ⟨member.boardId, member.email, token⟩).toList ++ registry.issued
        fresh := registry.fresh &&
          storesFresh registry.world.db registry.pending member })
  | statement, registry =>
      let outcome := perform host statement registry.world
      (outcome.1, { registry with world := outcome.2 })

/-! ## Events -/

inductive TokenEvent where
  /-- `add_member` -/
  | add (member : Member)
  /-- The owner's refresh of the board. -/
  | refresh (notifier : Notifier) (cmd : A2aCommand) (sender : String)
  /-- `[A2A] new`, as far as it registers members. -/
  | new (boardId : String) (entries : List Json)
  /-- `verify_member_token_cfg`, under the setting of the moment. -/
  | verify (allowPlaintext : Bool) (boardId token memberEmail : String)

namespace TokenEvent

def raw : TokenEvent → Option String
  | .add member =>
      match member.boardTokenSalt with
      | none => member.boardToken
      | some _ => none
  | _ => none

def command (host : Host) : TokenEvent → Command Unit
  | .add member => Store.addMember host member
  | .refresh notifier cmd sender =>
      ignore (Commands.handleRefresh host notifier cmd sender)
  | .new boardId entries =>
      ignore (Interceptor.registerMembers host boardId entries)
  | .verify allowPlaintext boardId token memberEmail =>
      ignore (Store.verifyMemberTokenCfg host boardId token memberEmail
        allowPlaintext)

end TokenEvent

namespace Registry

def advance (host : Host) (event : TokenEvent) (registry : Registry) :
    Registry :=
  (Program.execute (observe host) (event.command host)
    { registry with pending := event.raw, fresh := true }).2

def Step (host : Host) (registry : Registry) (event : TokenEvent)
    (next : Registry) : Prop :=
  registry.advance host event = next

end Registry

def Generated (token : String) : Prop :=
  ∃ bytes, token = generateBoardToken bytes

/-- Every new token is a generated one and goes to an address without a row. -/
structure IssuesFreshly (host : Host) (registry : Registry)
    (event : TokenEvent) : Prop where
  generated : ∀ raw, event.raw = some raw → Generated raw
  fresh : (registry.advance host event).fresh = true

def accepts (host : Host) (world : BoardWorld) (allowPlaintext : Bool)
    (boardId memberEmail token : String) : Bool :=
  match ((Store.verifyMemberTokenCfg host boardId token memberEmail
      allowPlaintext).run host world).1 with
  | .ok (some _) => true
  | _ => false

/-! ## What a row holds -/

def Stores (host : Host) (row : Member) : Option String → Prop
  | some raw =>
      (row.boardToken = some raw ∧ row.boardTokenSalt = none) ∨
        ∃ salt, row.boardToken = some (host.boardTokenHash raw salt) ∧
          row.boardTokenSalt = some salt
  | none => row.boardToken = none

structure Agrees (host : Host) (registry : Registry) : Prop where
  rows : ∀ row ∈ registry.world.db.members,
    Stores host row (registry.last row.boardId row.email)
  absent : ∀ boardId email,
    registry.world.db.findMember boardId email = none →
      registry.last boardId email = none

section Tables

variable {db : BoardDb} {boardId email : String}

theorem findMember_eq_none : db.findMember boardId email = none ↔
    ∀ row ∈ db.members, ¬ (row.boardId = boardId ∧ row.email = email) := by
  rw [findMember, Table.find?_eq_none]
  refine forall_congr' fun row => imp_congr_right fun _ => ?_
  rw [Bool.and_eq_false_iff, beq_eq_false_iff_ne, beq_eq_false_iff_ne,
    not_and_or]

theorem email_ne_of_absent (absent : db.isMember email = false) :
    ∀ row ∈ db.members, row.email ≠ email := by
  intro row member same
  rw [isMember, List.any_eq_false] at absent
  exact absurd (beq_iff_eq.mpr same) (absent row member)

theorem upsertMember_cases (db : BoardDb) (member : Member) :
    (db.hasBoard member.boardId = false ∧
      ∃ error, db.upsertMember member = .error error) ∨
    ∃ after, db.upsertMember member = .ok after ∧
      ((db.isMember member.email = true ∧ ∀ row, row ∈ after.members ↔
          ∃ old ∈ db.members, memberChange member old = row) ∨
        (db.isMember member.email = false ∧ ∀ row, row ∈ after.members ↔
          row ∈ db.members ∨ row = insertedMember member)) := by
  cases written : db.upsertMember member with
  | error error =>
      rw [upsertMember] at written
      split at written
      · split at written
        · cases written
        · cases written
      · next unknown => exact .inl ⟨Bool.eq_false_iff.mpr unknown, error, rfl⟩
  | ok after =>
      rw [upsertMember] at written
      refine .inr ⟨after, rfl, ?_⟩
      split at written
      · split at written
        · next there =>
            cases written
            have keeps : ∀ first second, Member.conflict (memberChange member first)
                (memberChange member second) = Member.conflict first second :=
              fun first second => by
                simp only [Member.conflict, memberChange_email]
            have changed : ∀ row, row ∈ db.members.mapRows (memberChange member)
                keeps ↔ ∃ old ∈ db.members, memberChange member old = row :=
              fun row => Table.mem_mapRows
            exact .inl ⟨there, changed⟩
        · next absent =>
            cases written
            have missing := Bool.eq_false_iff.mpr absent
            have free : ∀ other ∈ db.members.rows,
                Member.conflict other (insertedMember member) = false :=
              fun other there => beq_eq_false_iff_ne.mpr
                (email_ne_of_absent missing other (Table.mem_rows.mp there))
            have added : ∀ row, row ∈ db.members.insert (insertedMember member)
                free ↔ row ∈ db.members ∨ row = insertedMember member :=
              fun row => Table.mem_insert
            exact .inr ⟨missing, added⟩
      · cases written

end Tables

/-! ## One statement -/

section Statements

variable {host : Host} {registry next : Registry} {member : Member}

theorem Agrees.same (agrees : Agrees host registry)
    (members : next.world.db.members = registry.world.db.members)
    (issued : next.issued = registry.issued) : Agrees host next where
  rows row there := by
    rw [members] at there
    rw [Registry.last, issued]
    exact agrees.rows row there
  absent boardId email missing := by
    rw [findMember, members] at missing
    rw [Registry.last, issued]
    exact agrees.absent boardId email missing

theorem Stores.congr {first second : Member} {token : Option String}
    (stores : Stores host first token)
    (boardToken : second.boardToken = first.boardToken)
    (boardTokenSalt : second.boardTokenSalt = first.boardTokenSalt) :
    Stores host second token := by
  cases token with
  | none =>
      rw [Stores, boardToken]
      exact stores
  | some raw =>
      rw [Stores, boardToken, boardTokenSalt]
      exact stores

theorem Agrees.overwritten (agrees : Agrees host registry) (member : Member)
    (issued : next.issued = registry.issued)
    (own : (registry.world.db.findMember member.boardId member.email).isSome)
    (rows : ∀ row, row ∈ next.world.db.members ↔
      ∃ old ∈ registry.world.db.members, memberChange member old = row) :
    Agrees host next := by
  rcases Option.isSome_iff_exists.mp own with ⟨known, found⟩
  rcases findMember_spec found with ⟨there, sameBoard, sameEmail⟩
  have kept : ∀ old ∈ registry.world.db.members,
      (memberChange member old).boardId = old.boardId ∧
        (memberChange member old).boardToken = old.boardToken ∧
        (memberChange member old).boardTokenSalt = old.boardTokenSalt := by
    intro old present
    rw [memberChange]
    split
    · next same =>
        have equal : old = known :=
          Members.eq_of_email present there (same.trans sameEmail.symm)
        rw [equal]
        exact ⟨sameBoard.symm, rfl, rfl⟩
    · exact ⟨rfl, rfl, rfl⟩
  constructor
  · intro row written
    rcases (rows row).mp written with ⟨old, present, rfl⟩
    rcases kept old present with ⟨board, token, salt⟩
    rw [Registry.last, issued, board, memberChange_email]
    exact (agrees.rows old present).congr token salt
  · intro boardId email missing
    rw [Registry.last, issued]
    refine agrees.absent boardId email (findMember_eq_none.mpr ?_)
    rintro old present ⟨board, same⟩
    refine findMember_eq_none.mp missing _
      ((rows _).mpr ⟨old, present, rfl⟩) ⟨?_, ?_⟩
    · rw [(kept old present).1, board]
    · rw [memberChange_email, same]

theorem Agrees.inserted (agrees : Agrees host registry) (member : Member)
    (absent : registry.world.db.isMember member.email = false)
    (rows : ∀ row, row ∈ next.world.db.members ↔
      row ∈ registry.world.db.members ∨ row = insertedMember member)
    (issued : next.issued = (registry.pending.map fun token =>
      Issue.mk member.boardId member.email token).toList ++ registry.issued)
    (stores : Stores host member registry.pending) : Agrees host next := by
  have missing : registry.last member.boardId member.email = none :=
    agrees.absent _ _ (findMember_eq_none.mpr fun row there same =>
      email_ne_of_absent absent row there same.2)
  have own : next.last member.boardId member.email = registry.pending := by
    rw [Registry.last, issued]
    cases pending : registry.pending with
    | none => exact missing
    | some token => simp
  have others (boardId email : String)
      (different : ¬ (member.boardId = boardId ∧ member.email = email)) :
      next.last boardId email = registry.last boardId email := by
    rw [Registry.last, issued, Registry.last]
    cases pending : registry.pending with
    | none => rfl
    | some token =>
        have skipped : (member.boardId == boardId && member.email == email) =
            false := by
          rw [Bool.and_eq_false_iff, beq_eq_false_iff_ne, beq_eq_false_iff_ne]
          exact not_and_or.mp different
        simp [skipped]
  constructor
  · intro row written
    rcases (rows row).mp written with there | rfl
    · rw [others _ _ fun same =>
        email_ne_of_absent absent row there same.2.symm]
      exact agrees.rows row there
    · rw [show next.last (insertedMember member).boardId
        (insertedMember member).email = registry.pending from own]
      exact stores.congr rfl rfl
  · intro boardId email gone
    have before := findMember_eq_none.mp gone
    rw [others boardId email fun same =>
      before _ ((rows _).mpr (.inr rfl)) same]
    exact agrees.absent boardId email (findMember_eq_none.mpr fun row there =>
      before row ((rows row).mpr (.inl there)))

/-- What a program does with a raw token: it is written next, as its hash. Only
a verification rewrites a token in place. -/
def storing (host : Host) : Program.Rule Statement Statement.Answer (Option String)
  | .generateBoardToken, _, aim => ∀ token, aim token (some token)
  | .upsertMember member, pending, aim =>
      (∀ raw, pending = some raw → ∃ salt,
        member.boardToken = some (host.boardTokenHash raw salt) ∧
          member.boardTokenSalt = some salt) ∧ ∀ answer, aim answer none
  | .migrateToken _ _ _ _, _, _ => False
  | _, pending, aim => ∀ answer, aim answer pending

theorem storing_monotone : (storing host).Monotone := by
  intro statement pending strong weak weaker holds
  cases statement with
  | upsertMember member =>
      exact ⟨holds.1, fun answer => weaker _ _ (holds.2 answer)⟩
  | migrateToken boardId email hashed salt => exact holds
  | _ => exact fun answer => weaker _ _ (holds answer)

theorem perform_members {statement : Statement} {world : BoardWorld}
    (writes : ∀ member, statement ≠ .upsertMember member)
    (migrates : ∀ boardId email hashed salt,
      statement ≠ .migrateToken boardId email hashed salt) :
    (perform host statement world).2.db.members = world.db.members := by
  have committed {outcome : Except AppError BoardDb}
      (kept : ∀ db, outcome = .ok db → db.members = world.db.members) :
      (world.commit outcome).2.db.members = world.db.members := by
    cases outcome with
    | ok db => exact kept db rfl
    | error error => rfl
  cases statement with
  | upsertMember member => exact absurd rfl (writes member)
  | migrateToken boardId email hashed salt =>
      exact absurd rfl (migrates boardId email hashed salt)
  | createBoard board =>
      refine committed fun db created => ?_
      rw [createBoard] at created
      split at created
      · cases created
      · split at created
        · cases created
          rfl
        · cases created
  | insertTask task =>
      refine committed fun db created => ?_
      rw [insertTask] at created
      split at created
      · cases created
      · split at created
        · cases created
          rfl
        · cases created
  | updateTask task =>
      refine committed fun db updated => ?_
      rw [updateTask] at updated
      split at updated
      · split at updated
        · cases updated
          rfl
        · cases updated
      · cases updated
        rfl
  | insertEvent event =>
      refine committed fun db logged => ?_
      rw [insertEvent] at logged
      split at logged
      · cases logged
        rfl
      · cases logged
  | addRolePermission role verb =>
      change (world.db.addRolePermission role verb).members = _
      rw [addRolePermission]
      split <;> rfl
  | _ => rfl

theorem observe_agrees {statement : Statement}
    {aim : statement.Answer → Option String → Prop}
    (holds : storing host statement registry.pending aim)
    (agrees : Agrees host registry)
    (fresh : (observe host statement registry).2.fresh = true) :
    aim (observe host statement registry).1
        (observe host statement registry).2.pending ∧
      Agrees host (observe host statement registry).2 := by
  cases statement with
  | upsertMember member =>
      refine ⟨holds.2 _, ?_⟩
      have free : storesFresh registry.world.db registry.pending member = true :=
        (Bool.and_eq_true_iff.mp fresh).2
      rcases upsertMember_cases registry.world.db member with
        ⟨unknown, error, refused⟩ | ⟨after, written, rows⟩
      · have nothing : registry.pending = none := by
          cases pending : registry.pending with
          | none => rfl
          | some raw =>
              rw [pending, storesFresh, unknown] at free
              cases free
        refine agrees.same ?_ ?_
        · change (registry.world.commit
            (registry.world.db.upsertMember member)).2.db.members = _
          rw [refused]
          rfl
        · change _ ++ registry.issued = _
          rw [nothing]
          rfl
      · have now : (observe host (.upsertMember member) registry).2.world.db =
            after := by
          change (registry.world.commit
            (registry.world.db.upsertMember member)).2.db = _
          rw [written]
          rfl
        rcases rows with ⟨there, changed⟩ | ⟨absent, inserted⟩
        · have nothing : registry.pending = none := by
            cases pending : registry.pending with
            | none => rfl
            | some raw =>
                rw [pending, storesFresh, there] at free
                simp at free
          rw [nothing, storesFresh, there] at free
          refine agrees.overwritten member ?_ (by simpa using free) ?_
          · change _ ++ registry.issued = _
            rw [nothing]
            rfl
          · rw [now]
            exact changed
        · refine agrees.inserted member absent ?_ rfl ?_
          · rw [now]
            exact inserted
          · cases pending : registry.pending with
            | none =>
                rw [pending, storesFresh] at free
                have missing : registry.world.db.findMember member.boardId
                    member.email = none :=
                  findMember_eq_none.mpr fun row there same =>
                    email_ne_of_absent absent row there same.2
                rw [missing, absent] at free
                change member.boardToken = none
                simpa using free
            | some raw =>
                rcases holds.1 raw pending with ⟨salt, token, salted⟩
                exact .inr ⟨salt, token, salted⟩
  | migrateToken boardId email hashed salt => exact holds.elim
  | generateBoardToken => exact ⟨holds _, agrees.same rfl rfl⟩
  | _ =>
      refine ⟨holds _, agrees.same (perform_members ?_ ?_) rfl⟩
      · intro member impossible
        cases impossible
      · intro boardId email hashed salt impossible
        cases impossible

end Statements

/-! ## Programs -/

section Programs

variable {host : Host} {registry : Registry}

open Program (Ensures)

theorem execute_observe_world (program : Program Statement Statement.Answer α)
    (registry : Registry) :
    (program.execute (observe host) registry).1 =
        (program.execute (perform host) registry.world).1 ∧
      (program.execute (observe host) registry).2.world =
        (program.execute (perform host) registry.world).2 := by
  induction program generalizing registry with
  | done value => exact ⟨rfl, rfl⟩
  | request statement next induction =>
      have same : (observe host statement registry).1 =
            (perform host statement registry.world).1 ∧
          (observe host statement registry).2.world =
            (perform host statement registry.world).2 := by
        cases statement <;> exact ⟨rfl, rfl⟩
      have rest := induction (observe host statement registry).1
        (observe host statement registry).2
      rw [same.2] at rest
      rw [same.1] at rest
      simp only [Program.execute]
      rw [same.1]
      exact rest

theorem fresh_of_execute {program : Program Statement Statement.Answer α}
    (fresh : (program.execute (observe host) registry).2.fresh = true) :
    registry.fresh = true := by
  induction program generalizing registry with
  | done value => exact fresh
  | request statement next induction =>
      have before := induction _ fresh
      cases statement with
      | upsertMember member => exact (Bool.and_eq_true_iff.mp before).1
      | _ => exact before

theorem execute_agrees {program : Program Statement Statement.Answer α}
    {ended : α → Option String → Prop}
    (ensures : Ensures (storing host) program ended registry.pending)
    (agrees : Agrees host registry)
    (fresh : (program.execute (observe host) registry).2.fresh = true) :
    Agrees host (program.execute (observe host) registry).2 := by
  induction program generalizing registry with
  | done value => exact agrees
  | request statement next induction =>
      have before : (observe host statement registry).2.fresh = true :=
        fresh_of_execute fresh
      rcases observe_agrees ensures agrees before with ⟨rest, after⟩
      exact induction _ rest after fresh

/-- No raw token is left to store, before and after. -/
def Clean (host : Host) (program : Command α) : Prop :=
  Ensures (storing host) program (fun _ pending => pending = none) none

theorem Clean.bind {first : Command α} {rest : α → Command β}
    (start : Clean host first) (finish : ∀ value, Clean host (rest value)) :
    Clean host (first >>= rest) := by
  rw [Clean, ensures_sequence]
  refine Ensures.mono storing_monotone start ?_
  rintro (error | value) later rfl
  · rfl
  · exact finish value

theorem clean_pure (value : α) : Clean host (pure value : Command α) := rfl

theorem clean_fail (error : AppError) : Clean host (fail error : Command α) := rfl

theorem Clean.ignored {program : Command α} (clean : Clean host program) :
    Clean host (ignore program : Command Unit) := by
  refine Program.ensures_bind.mpr (Ensures.mono storing_monotone clean ?_)
  rintro _ later rfl
  rfl

theorem clean_forEach {β : Type} {body : β → Command Unit}
    (clean : ∀ element, Clean host (body element)) (elements : List β) :
    Clean host (forEach elements body) := by
  induction elements with
  | nil => exact clean_pure ()
  | cons head tail induction =>
      rw [forEach]
      exact (clean head).bind fun _ => induction

theorem addMember_stores {member : Member} {pending : Option String}
    (waits : ∀ raw, pending = some raw →
      member.boardToken = some raw ∧ member.boardTokenSalt = none) :
    Ensures (storing host) (Store.addMember host member)
      (fun _ later => later = none) pending := by
  have written (stored : Member) (hashes : ∀ raw, pending = some raw →
      ∃ salt, stored.boardToken = some (host.boardTokenHash raw salt) ∧
        stored.boardTokenSalt = some salt) :
      Ensures (storing host) (Store.upsertMember stored)
        (fun _ later => later = none) pending :=
    ⟨hashes, fun _ => rfl⟩
  rw [Store.addMember]
  split
  · next raw token salt =>
      intro drawn
      refine written _ fun waiting same => ⟨drawn, ?_, rfl⟩
      have equal := (waits waiting same).1
      rw [token] at equal
      cases equal
      rfl
  · next token salt =>
      refine written _ fun waiting same => ?_
      rw [(waits waiting same).2] at salt
      cases salt
  · next token =>
      refine written _ fun waiting same => ?_
      rw [(waits waiting same).1] at token
      cases token

/-! ## Commands -/

open Commands Interceptor

theorem addRolePermissions_clean
    (permissions : List (String × List String)) :
    Clean host (Store.addRolePermissions permissions) := by
  have adds (role verb : String) :
      Clean host (Store.addRolePermission role verb) := by
    intro _
    rfl
  exact clean_forEach
    (fun entry => clean_forEach (fun verb => adds entry.1 verb) entry.2)
    permissions

theorem knownRole_clean (role note : String) : Clean host (knownRole role note) := by
  rw [knownRole]
  split <;> rfl

theorem overridePermissions_clean (entries : Option (List Json)) :
    Clean host (overridePermissions entries) := by
  cases entries with
  | none => exact clean_pure ()
  | some entries =>
      refine Clean.bind (clean_forEach (fun entry => ?_) _) fun _ =>
        addRolePermissions_clean _
      refine (knownRole_clean _ _).bind fun _ => clean_forEach (fun verb => ?_) _
      rw [knownVerb]
      split <;> rfl

theorem refreshMember_clean (boardId ts : String)
    (creds : List (String × String × Option String)) (entry : Json) :
    Clean host (refreshMember host boardId ts creds entry) := by
  unfold refreshMember
  refine (knownRole_clean _ _).bind fun _ => ?_
  split
  · exact clean_pure ()
  · rw [Clean, ensures_sequence, credential]
    cases creds.lookup ((entry.getStr? "email").getD "") with
    | some stored => exact addMember_stores fun raw none => by cases none
    | none =>
        intro token
        refine addMember_stores fun raw waiting => ?_
        exact ⟨waiting, rfl⟩

theorem clean_send {statement : Statement}
    (plain : storing host statement none fun _ later => later = none) :
    Clean host (Store.send statement) :=
  plain

theorem handleRefresh_clean (notifier : Notifier) (cmd : A2aCommand)
    (sender : String) : Clean host (handleRefresh host notifier cmd sender) := by
  rw [handleRefresh]
  refine Clean.bind (clean_send fun _ => rfl) fun ts => ?_
  refine Clean.bind (clean_send fun _ => rfl) fun member => ?_
  split
  · exact clean_fail _
  · refine Clean.bind (clean_send fun _ => rfl) fun found => ?_
    cases found with
    | none => exact clean_fail _
    | some board =>
        refine Clean.bind (clean_send fun _ => rfl) fun _ => ?_
        refine Clean.bind ?_ fun entries => ?_
        · cases cmd.params.bind (·.getArray? "members") <;> rfl
        · refine Clean.bind (clean_send fun _ => rfl) fun members => ?_
          refine (clean_forEach (refreshMember_clean _ ts _) _).bind fun _ => ?_
          refine (addRolePermissions_clean _).bind fun _ => ?_
          exact (overridePermissions_clean _).bind fun _ => clean_pure _

theorem registerMember_clean (boardId email role displayName : String) :
    Clean host (registerMember host boardId email role displayName) := by
  rw [registerMember]
  refine Clean.bind (clean_send fun _ => rfl) fun found => ?_
  cases found with
  | some member => exact clean_pure ()
  | none =>
      refine ensures_sequence.mpr fun token => ?_
      refine ensures_sequence.mpr fun joinedAt => ?_
      refine Program.ensures_bind.mpr (Ensures.mono storing_monotone
        (addMember_stores fun raw waiting => ⟨waiting, rfl⟩) ?_)
      rintro _ later rfl
      rfl

theorem registerMembers_clean (boardId : String) (entries : List Json) :
    Clean host (registerMembers host boardId entries) := by
  induction entries with
  | nil => exact clean_pure _
  | cons entry rest induction =>
      simp only [registerMembers]
      split
      · exact clean_pure _
      · split
        · exact induction
        · refine (registerMember_clean _ _ _ _).bind fun _ => ?_
          exact induction.bind fun later => clean_pure _

end Programs

/-! ## Verification -/

section Verification

variable {host : Host} {registry : Registry} {allowPlaintext : Bool}
  {boardId email token : String}

theorem accepts_iff {world : BoardWorld} :
    accepts host world allowPlaintext boardId email token = true ↔
      email ≠ "" ∧ token ≠ "" ∧
        ∃ row, world.db.findMember boardId email = some row ∧
          ((∃ salt, row.boardTokenSalt = some salt ∧
              row.boardToken = some (host.boardTokenHash token salt)) ∨
            (row.boardTokenSalt = none ∧ row.boardToken = some token ∧
              allowPlaintext = true)) := by
  rw [accepts, Store.verifyMemberTokenCfg]
  by_cases empty : email = "" ∨ token = ""
  · rw [if_pos empty]
    refine iff_of_false (fun accepted => by cases accepted) ?_
    rintro ⟨named, given, _⟩
    exact empty.elim named given
  · rw [if_neg empty]
    have named : email ≠ "" ∧ token ≠ "" := not_or.mp empty
    rw [← and_assoc, and_iff_right named]
    have asked {rest : Option Member → Command (Option String)} :
        Command.run host (Store.getMember boardId email >>= rest) world =
          Command.run host (rest (world.db.findMember boardId email)) world :=
      rfl
    rw [asked]
    cases found : world.db.findMember boardId email with
    | none =>
        refine iff_of_false (fun accepted => by cases accepted) ?_
        rintro ⟨row, impossible, _⟩
        cases impossible
    | some row =>
        simp only [Option.some.injEq, exists_eq_left']
        cases stored : row.boardToken with
        | none =>
            refine iff_of_false (fun accepted => by cases accepted) ?_
            rintro (⟨_, _, impossible⟩ | ⟨_, impossible, _⟩) <;> cases impossible
        | some credential =>
            cases salted : row.boardTokenSalt with
            | some salt =>
                by_cases same : host.boardTokenHash token salt = credential
                · refine iff_of_true ?_ (.inl ⟨salt, rfl, by rw [same]⟩)
                  simp only [same, if_true]
                  rfl
                · refine iff_of_false ?_ ?_
                  · simp only [same, if_false]
                    intro accepted
                    cases accepted
                  · rintro (⟨other, given, equal⟩ | ⟨impossible, _⟩)
                    · cases given
                      exact same (Option.some.inj equal).symm
                    · cases impossible
            | none =>
                by_cases same : allowPlaintext = true ∧ token = credential
                · refine iff_of_true ?_ (.inr ⟨rfl, by rw [same.2], same.1⟩)
                  simp only [same, and_self, if_true]
                  rfl
                · refine iff_of_false ?_ ?_
                  · simp only [same, if_false]
                    intro accepted
                    cases accepted
                  · rintro (⟨_, impossible, _⟩ | ⟨_, equal, allowed⟩)
                    · cases impossible
                    · exact same ⟨allowed, (Option.some.inj equal).symm⟩

theorem Agrees.migrated {next : Registry} {row : Member} {salt : String}
    (agrees : Agrees host registry)
    (found : registry.world.db.findMember boardId email = some row)
    (raw : row.boardToken = some token) (plain : row.boardTokenSalt = none)
    (issued : next.issued = registry.issued)
    (rows : ∀ now, now ∈ next.world.db.members ↔
      ∃ old ∈ registry.world.db.members,
        tokenChange boardId email (host.boardTokenHash token salt) salt old =
          now) : Agrees host next := by
  rcases findMember_spec found with ⟨there, sameBoard, sameEmail⟩
  have own : registry.last boardId email = some token := by
    have stores := agrees.rows row there
    rw [sameBoard, sameEmail] at stores
    cases given : registry.last boardId email with
    | none =>
        rw [given, Stores, raw] at stores
        cases stores
    | some last =>
        rw [given] at stores
        rcases stores with ⟨same, _⟩ | ⟨_, _, salted⟩
        · rw [raw] at same
          exact same.symm
        · rw [plain] at salted
          cases salted
  constructor
  · intro now written
    rcases (rows now).mp written with ⟨old, present, rfl⟩
    rw [Registry.last, issued, tokenChange_boardId, tokenChange_email]
    have stores := agrees.rows old present
    rw [tokenChange]
    split
    · next both =>
        have given : registry.last old.boardId old.email = some token := by
          rw [both.1, both.2, own]
        change Stores host _ (registry.last old.boardId old.email)
        rw [given]
        exact .inr ⟨salt, rfl, rfl⟩
    · exact stores
  · intro board address missing
    rw [Registry.last, issued]
    refine agrees.absent board address (findMember_eq_none.mpr ?_)
    rintro old present ⟨same, named⟩
    refine findMember_eq_none.mp missing _
      ((rows _).mpr ⟨old, present, rfl⟩) ⟨?_, ?_⟩
    · rw [tokenChange_boardId, same]
    · rw [tokenChange_email, named]

theorem verify_agrees (agrees : Agrees host registry) :
    Agrees host (Program.execute (observe host) (ignore
      (Store.verifyMemberTokenCfg host boardId token email allowPlaintext) :
        Command Unit) registry).2 := by
  rw [Store.verifyMemberTokenCfg]
  split
  · exact agrees
  · have asked {rest : Option Member → Command (Option String)} :
        Program.execute (observe host) (ignore
          (Store.getMember boardId email >>= rest) : Command Unit) registry =
          Program.execute (observe host) (ignore
            (rest (registry.world.db.findMember boardId email)) : Command Unit)
              registry := rfl
    rw [asked]
    cases found : registry.world.db.findMember boardId email with
    | none => exact agrees
    | some row =>
        cases stored : row.boardToken with
        | none =>
            simp only [stored]
            exact agrees
        | some credential =>
            cases salted : row.boardTokenSalt with
            | some salt =>
                simp only [stored, salted]
                split <;> exact agrees
            | none =>
                simp only [stored, salted]
                split
                · next same =>
                    rw [← same.2] at stored
                    let salt := Board.generateBoardTokenSalt
                      (host.randomBytes registry.world.tick)
                    have keeps : ∀ first second : Member,
                        Member.conflict
                          (tokenChange boardId email
                            (host.boardTokenHash token salt) salt first)
                          (tokenChange boardId email
                            (host.boardTokenHash token salt) salt second) =
                          Member.conflict first second := fun first second => by
                      simp only [Member.conflict, tokenChange_email]
                    have rows : ∀ now, now ∈ registry.world.db.members.mapRows
                        (tokenChange boardId email (host.boardTokenHash token salt)
                          salt) keeps ↔ _ :=
                      fun now => Table.mem_mapRows
                    exact agrees.migrated found stored salted rfl rows
                · exact agrees

end Verification

/-! ## Generated tokens -/

theorem Generated.ne_hash {token : String} (generated : Generated token)
    (host : Host) (raw salt : String) : token ≠ host.boardTokenHash raw salt := by
  rcases generated with ⟨bytes, rfl⟩
  intro same
  apply Text.not_mem_hexEncode (host.sha256 (raw ++ "|" ++ salt))
  rw [← Host.boardTokenHash, ← same, generateBoardToken, String.toList_append]
  exact List.mem_append_left _ (by decide)

theorem Generated.nonempty {token : String} (generated : Generated token) :
    token ≠ "" := by
  rcases generated with ⟨bytes, rfl⟩
  intro empty
  have characters := congrArg String.toList empty
  rw [generateBoardToken, String.toList_append] at characters
  cases characters

structure Drawn (registry : Registry) : Prop where
  pending : ∀ token, registry.pending = some token → Generated token
  issued : ∀ issue ∈ registry.issued, Generated issue.token

theorem observe_drawn {host : Host} {registry : Registry}
    (statement : Statement) (drawn : Drawn registry) :
    Drawn (observe host statement registry).2 := by
  cases statement with
  | generateBoardToken =>
      refine ⟨fun token same => ?_, drawn.issued⟩
      cases same
      exact ⟨_, rfl⟩
  | upsertMember member =>
      refine ⟨fun _ nothing => (by cases nothing), fun issue listed => ?_⟩
      rcases List.mem_append.mp listed with now | before
      · rcases Option.map_eq_some_iff.mp (Option.mem_toList.mp now) with
          ⟨token, waiting, same⟩
        rw [← same]
        exact drawn.pending token waiting
      · exact drawn.issued issue before
  | _ => exact ⟨drawn.pending, drawn.issued⟩

theorem execute_drawn {host : Host} {registry : Registry}
    (program : Program Statement Statement.Answer α) (drawn : Drawn registry) :
    Drawn (program.execute (observe host) registry).2 := by
  induction program generalizing registry with
  | done value => exact drawn
  | request statement next induction =>
      exact induction _ (observe_drawn statement drawn)

/-! ## Runs -/

theorem advance_agrees {host : Host} {registry : Registry} {event : TokenEvent}
    (agrees : Agrees host registry)
    (fresh : (registry.advance host event).fresh = true) :
    Agrees host (registry.advance host event) := by
  have start : Agrees host
      { registry with pending := event.raw, fresh := true } :=
    agrees.same rfl rfl
  cases event with
  | add member =>
      refine execute_agrees (addMember_stores fun raw waiting => ?_) start fresh
      rw [TokenEvent.raw] at waiting
      cases salted : member.boardTokenSalt with
      | none =>
          rw [salted] at waiting
          exact ⟨waiting, rfl⟩
      | some salt =>
          rw [salted] at waiting
          cases waiting
  | refresh notifier cmd sender =>
      exact execute_agrees (handleRefresh_clean notifier cmd sender).ignored start
        fresh
  | new boardId entries =>
      exact execute_agrees (registerMembers_clean boardId entries).ignored start
        fresh
  | verify allowPlaintext boardId token memberEmail => exact verify_agrees start

theorem advance_drawn {host : Host} {registry : Registry} {event : TokenEvent}
    (issued : ∀ issue ∈ registry.issued, Generated issue.token)
    (generated : ∀ raw, event.raw = some raw → Generated raw) :
    Drawn (registry.advance host event) :=
  execute_drawn (event.command host) ⟨generated, issued⟩

structure TokensSound (host : Host) (registry : Registry) : Prop where
  /-- The last token issued to the member is accepted, and no other; but from an
  empty address none is, and while raw tokens are not allowed none that is still
  stored raw. -/
  exact : ∀ allowPlaintext boardId email token,
    accepts host registry.world allowPlaintext boardId email token = true ↔
      registry.last boardId email = some token ∧ email ≠ "" ∧
        (allowPlaintext = true ∨ ∀ row,
          registry.world.db.findMember boardId email = some row →
            row.boardTokenSalt ≠ none)
  /-- A stored hash is no token. -/
  hidden : ∀ allowPlaintext boardId email row stored,
    registry.world.db.findMember boardId email = some row →
      row.boardToken = some stored → row.boardTokenSalt ≠ none →
        accepts host registry.world allowPlaintext boardId email stored = false
  /-- The token of a member is accepted from no other. -/
  own : ∀ allowPlaintext boardId email other token,
    registry.last boardId email = some token →
      accepts host registry.world allowPlaintext boardId other token = true →
        other = email

theorem issue_of_last {registry : Registry} {boardId email token : String}
    (given : registry.last boardId email = some token) :
    ∃ issue ∈ registry.issued, issue.boardId = boardId ∧
      issue.email = email ∧ issue.token = token := by
  rcases Option.map_eq_some_iff.mp given with ⟨issue, found, same⟩
  have selected := List.find?_some found
  rw [Bool.and_eq_true, beq_iff_eq, beq_iff_eq] at selected
  exact ⟨issue, List.mem_of_find?_eq_some found, selected.1, selected.2, same⟩

section Sound

variable {host : Host} {registry : Registry} {allowPlaintext : Bool}
  {boardId email token : String}

theorem last_of_accepts
    (injective : ∀ salt first second, host.boardTokenHash first salt =
      host.boardTokenHash second salt → first = second)
    (agrees : Agrees host registry)
    (accepted : accepts host registry.world allowPlaintext boardId email token =
      true) : registry.last boardId email = some token := by
  rcases accepts_iff.mp accepted with ⟨_, _, row, found, holds⟩
  rcases findMember_spec found with ⟨there, sameBoard, sameEmail⟩
  have stores := agrees.rows row there
  rw [sameBoard, sameEmail] at stores
  cases given : registry.last boardId email with
  | none =>
      rw [given, Stores] at stores
      rcases holds with ⟨_, _, stored⟩ | ⟨_, stored, _⟩
      · rw [stores] at stored
        cases stored
      · rw [stores] at stored
        cases stored
  | some raw =>
      rw [given] at stores
      rcases holds with ⟨salt, salted, stored⟩ | ⟨plain, stored, _⟩
      · rcases stores with ⟨_, plain⟩ | ⟨other, hashed, saltedToo⟩
        · rw [plain] at salted
          cases salted
        · rw [salted] at saltedToo
          cases saltedToo
          rw [hashed] at stored
          rw [injective salt raw token (Option.some.inj stored)]
      · rcases stores with ⟨same, _⟩ | ⟨_, _, salted⟩
        · rw [← same, stored]
        · rw [plain] at salted
          cases salted

end Sound

/-- In every run in which each new token is generated, and goes to an address
without a row, the tokens of the members are sound. -/
theorem tokens_sound {host : Host} {start last : Registry}
    {events : List TokenEvent}
    (injective : ∀ salt first second, host.sha256 (first ++ "|" ++ salt) =
      host.sha256 (second ++ "|" ++ salt) → first = second)
    (agrees : Agrees host start)
    (generated : ∀ issue ∈ start.issued, Generated issue.token)
    (run : Run (Guarded (IssuesFreshly host) (Registry.Step host)) start events
      last)
    (once : last.issued.Pairwise fun first second =>
      first.token ≠ second.token) : TokensSound host last := by
  have hashInjective (salt first second : String)
      (same : host.boardTokenHash first salt = host.boardTokenHash second salt) :
      first = second :=
    injective salt first second (Text.hexEncode_injective same)
  have preserved : ∀ registry event next,
      (Agrees host registry ∧
        ∀ issue ∈ registry.issued, Generated issue.token) →
      Guarded (IssuesFreshly host) (Registry.Step host) registry event next →
      Agrees host next ∧ ∀ issue ∈ next.issued, Generated issue.token := by
    rintro registry event next ⟨agrees, issued⟩ ⟨fresh, rfl⟩
    exact ⟨advance_agrees agrees fresh.fresh,
      (advance_drawn issued fresh.generated).issued⟩
  rcases run.invariant preserved ⟨agrees, generated⟩ with ⟨reached, drawn⟩
  constructor
  · intro allowPlaintext boardId email token
    constructor
    · intro accepted
      refine ⟨last_of_accepts hashInjective reached accepted, ?_⟩
      rcases accepts_iff.mp accepted with ⟨named, _, row, found, holds⟩
      refine ⟨named, ?_⟩
      rcases holds with ⟨salt, salted, _⟩ | ⟨_, _, allowed⟩
      · refine .inr fun other same => ?_
        rw [found] at same
        cases same
        rw [salted]
        exact Option.some_ne_none salt
      · exact .inl allowed
    rintro ⟨issued, named, window⟩
    rcases issue_of_last issued with ⟨issue, member, _, _, same⟩
    have given : token ≠ "" := same ▸ (drawn issue member).nonempty
    rw [accepts_iff]
    refine ⟨named, given, ?_⟩
    cases found : last.world.db.findMember boardId email with
    | none =>
        rw [reached.absent boardId email found] at issued
        cases issued
    | some row =>
        rcases findMember_spec found with ⟨there, sameBoard, sameEmail⟩
        have stores := reached.rows row there
        rw [sameBoard, sameEmail, issued] at stores
        refine ⟨row, rfl, ?_⟩
        rcases stores with ⟨raw, plain⟩ | ⟨salt, hashed, salted⟩
        · rcases window with allowed | salted
          · exact .inr ⟨plain, raw, allowed⟩
          · exact absurd plain (salted row found)
        · exact .inl ⟨salt, salted, hashed⟩
  · intro allowPlaintext boardId email row stored found credential salted
    rw [Bool.eq_false_iff]
    intro accepted
    have issued := last_of_accepts hashInjective reached accepted
    rcases issue_of_last issued with ⟨issue, member, _, _, same⟩
    rcases findMember_spec found with ⟨there, sameBoard, sameEmail⟩
    have stores := reached.rows row there
    rw [sameBoard, sameEmail, issued] at stores
    rcases stores with ⟨_, plain⟩ | ⟨salt, hashed, _⟩
    · exact salted plain
    · rw [credential] at hashed
      exact (drawn issue member).ne_hash host stored salt
        (same.trans (Option.some.inj hashed))
  · intro allowPlaintext boardId email other token issued accepted
    have also := last_of_accepts hashInjective reached accepted
    rcases issue_of_last issued with ⟨first, one, _, firstEmail, firstToken⟩
    rcases issue_of_last also with ⟨second, two, _, secondEmail, secondToken⟩
    have symmetric : Std.Symm fun first second : Issue =>
        first.token ≠ second.token :=
      ⟨fun _ _ different => different.symm⟩
    have same : first = second := by
      by_contra different
      exact once.forall one two different (firstToken.trans secondToken.symm)
    rw [← secondEmail, ← same, firstEmail]

namespace Trial

theorem toNat_lt (character : Char) : character.toNat < 1114112 := by
  rcases character.valid with low | ⟨_, high⟩
  · exact Nat.lt_trans low (by decide)
  · exact high

theorem sha256_injective {first second : String}
    (same : host.sha256 first = host.sha256 second) : first = second := by
  apply String.toList_inj.mp
  have digests : first.toList.flatMap _ = second.toList.flatMap _ := same
  generalize first.toList = characters at digests
  generalize second.toList = others at digests
  induction characters generalizing others with
  | nil =>
      cases others with
      | nil => rfl
      | cons other rest => simp at digests
  | cons character rest induction =>
      cases others with
      | nil => simp at digests
      | cons other others =>
          simp only [List.flatMap_cons, List.cons_append, List.nil_append,
            List.cons.injEq] at digests
          rcases digests with ⟨high, middle, low, digests⟩
          have highs := congrArg UInt8.toNat high
          have middles := congrArg UInt8.toNat middle
          have lows := congrArg UInt8.toNat low
          simp only [UInt8.toNat_ofNat'] at highs middles lows
          have bound : character.toNat < 1114112 := toNat_lt character
          have otherBound : other.toNat < 1114112 := toNat_lt other
          have equal : character = other := Char.toNat_inj.mp (by omega)
          rw [equal, induction others digests]

def drawnAt (tick : Nat) : String := generateBoardToken (host.randomBytes tick)

/-- A board without members. -/
def unmanned : Registry :=
  ⟨((Command.run host (Interceptor.insertBoard "b1" "proj1" demoBoard "Demo"
    "")).run ⟨.empty, 0⟩).2, none, [], true⟩

def roster (emails : List String) : List Json :=
  emails.map fun email => .object [("email", .string email),
    ("role", .string (if email = "own@x.org" then "owner" else "worker"))]

def refreshed (emails : List String) : TokenEvent :=
  .refresh ⟨"b1", "proj1", demoBoard⟩
    ⟨"refresh", none, some (.object [("members", .array (roster emails))])⟩
    "own@x.org"

def created : TokenEvent := .new "b1" (roster ["own@x.org", "work@x.org"])

/-- A member whose token is still stored raw. -/
def veteran : Registry :=
  { unmanned with
    world := ((Command.run host (Store.upsertMember
      { email := "old@x.org", role := "worker", displayName := "old@x.org"
        boardId := "b1", boardToken := some (drawnAt 99), boardTokenSalt := none
        joinedAt := none, domains := none, capabilitySnapshot := none })).run
          unmanned.world).2
    issued := [⟨"b1", "old@x.org", drawnAt 99⟩] }

/-- Two members are registered beside the first, its token is verified, and a
third one is added to the list later. -/
def enrolled : Registry :=
  ((veteran.advance host created).advance host
    (.verify true "b1" (drawnAt 99) "old@x.org")).advance host
      (refreshed ["own@x.org", "work@x.org", "old@x.org", "ver@x.org"])

theorem veteran_agrees : Agrees host veteran := by
  have rows : veteran.world.db.members.rows =
      [⟨"old@x.org", "worker", "old@x.org", "b1", some (drawnAt 99), none,
        none, none, none⟩] := by
    decide +kernel
  constructor
  · intro row member
    rw [← Table.mem_rows, rows, List.mem_singleton] at member
    rw [member]
    exact .inl ⟨rfl, rfl⟩
  · intro boardId email missing
    have absent := findMember_eq_none.mp missing _
      (Table.mem_rows.mp (rows ▸ List.mem_singleton_self _))
    rw [Registry.last, Option.map_eq_none_iff, List.find?_eq_none]
    intro issue listed both
    rw [show issue = ⟨"b1", "old@x.org", drawnAt 99⟩ from
      List.mem_singleton.mp listed, Bool.and_eq_true, beq_iff_eq,
      beq_iff_eq] at both
    exact absent both

/-- The first member's token is stored as its hash now, and every token that was
issued is the last of its member. -/
theorem tokens_sound_enrolled :
    accepts host enrolled.world false "b1" "old@x.org" (drawnAt 99) = true ∧
      TokensSound host enrolled := by
  have issued : enrolled.issued = [⟨"b1", "ver@x.org", drawnAt 9⟩,
      ⟨"b1", "work@x.org", drawnAt 4⟩, ⟨"b1", "own@x.org", drawnAt 1⟩,
      ⟨"b1", "old@x.org", drawnAt 99⟩] := by
    decide +kernel
  have generated : ∀ issue ∈ veteran.issued, Generated issue.token := by
    intro issue listed
    rw [show issue = ⟨"b1", "old@x.org", drawnAt 99⟩ from
      List.mem_singleton.mp listed]
    exact ⟨_, rfl⟩
  refine ⟨by decide +kernel, tokens_sound
    (fun salt first second same =>
      String.append_left_inj _ |>.mp (String.append_left_inj _ |>.mp
        (sha256_injective same)))
    veteran_agrees generated
    (.cons ⟨⟨fun _ raw => (by cases raw), by decide +kernel⟩, rfl⟩
      (.cons ⟨⟨fun _ raw => (by cases raw), by decide +kernel⟩, rfl⟩
        (.cons ⟨⟨fun _ raw => (by cases raw), by decide +kernel⟩, rfl⟩
          (.nil _)))) ?_⟩
  rw [issued]
  decide +kernel

/-- A raw token is refused once these are not allowed; and of the two tokens
that a refresh issues to an address it lists twice, the last is refused. -/
theorem last_token_refused :
    (veteran.last "b1" "old@x.org" = some (drawnAt 99) ∧
      accepts host veteran.world true "b1" "old@x.org" (drawnAt 99) = true ∧
      accepts host veteran.world false "b1" "old@x.org" (drawnAt 99) = false) ∧
    ∃ last, Run (Registry.Step host) unmanned
      [created, refreshed ["ver@x.org", "ver@x.org"]] last ∧
      ∃ token, last.last "b1" "ver@x.org" = some token ∧
        accepts host last.world true "b1" "ver@x.org" token = false := by
  refine ⟨by decide +kernel, _, .cons rfl (.cons rfl (.nil _)),
    drawnAt 10, ?_, ?_⟩
  · decide +kernel
  · decide +kernel

end Trial

end AimailGateway.Board
