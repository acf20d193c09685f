import AimailGateway.Board.TaskSteps

/-! # The permissions of the roles

Permissions are only added. They stay known, and an override is exact, as long
as it leaves out no verb that the role has or gets by default.
-/

namespace AimailGateway.Board

open Library Fallible BoardDb Commands

/-- Only known roles with known verbs. -/
def WellFormed (db : BoardDb) : Prop :=
  ∀ row ∈ db.rolePermissions,
    row.1 ∈ Store.knownRoles ∧ row.2 ∈ Store.knownVerbs

instance (db : BoardDb) : Decidable (WellFormed db) :=
  inferInstanceAs (Decidable (∀ row ∈ db.rolePermissions, _))

def Lists (entries : List (String × List String)) (role verb : String) : Prop :=
  ∃ entry ∈ entries, entry.1 = role ∧ verb ∈ entry.2

instance (entries : List (String × List String)) (role verb : String) :
    Decidable (Lists entries role verb) :=
  inferInstanceAs (Decidable (∃ entry ∈ entries, _))

/-- The roles of an override are permitted the verbs it lists and no others. -/
def Exact (db : BoardDb) (entries : List (String × List String)) : Prop :=
  ∀ role ∈ entries.map (·.1), ∀ verb,
    db.permits role verb = true ↔ Lists entries role verb

/-- An override leaves out no verb that its roles have or get by default. -/
def Covers (db : BoardDb) (entries : List (String × List String)) : Prop :=
  ∀ role ∈ entries.map (·.1), ∀ verb,
    (role, verb) ∈ db.rolePermissions ∨ Lists Store.defaults role verb →
      Lists entries role verb

/-! ## Rows -/

variable {settings : Settings} {boardId : String} {before after : BoardDb}
  {event : Event} {entries : List (String × List String)} {role verb : String}
  {middle : BoardDb}
  {more : List (String × List String)}

theorem mem_added : (role, verb) ∈
      (before.addRolePermissions entries).rolePermissions ↔
    (role, verb) ∈ before.rolePermissions ∨ Lists entries role verb := by
  rw [mem_addRolePermissions]
  refine or_congr_right ?_
  constructor
  · rintro ⟨entry, there, given, member, same⟩
    cases same
    exact ⟨entry, there, rfl, member⟩
  · rintro ⟨entry, there, same, member⟩
    exact ⟨entry, there, verb, member, by rw [same]⟩

theorem mem_seeded : (role, verb) ∈ before.seedDefaults.rolePermissions ↔
    (role, verb) ∈ before.rolePermissions ∨ Lists Store.defaults role verb :=
  mem_added

theorem defaults_known : KnownPermissions Store.defaults := by
  unfold KnownPermissions
  decide

def Adds (extra : List (String × List String)) (before after : BoardDb) : Prop :=
  ∀ role verb, (role, verb) ∈ after.rolePermissions ↔
    (role, verb) ∈ before.rolePermissions ∨ Lists extra role verb

theorem Adds.of_rows (same : after.rolePermissions = before.rolePermissions) :
    Adds [] before after := by
  intro role verb
  simp [same, Lists]

theorem lists_append :
    Lists (entries ++ more) role verb ↔
      Lists entries role verb ∨ Lists more role verb := by
  simp only [Lists, List.mem_append, or_and_right, exists_or]

theorem Adds.trans
    (earlier : Adds entries before middle) (later : Adds more middle after) :
    Adds (entries ++ more) before after := by
  intro role verb
  rw [later role verb, earlier role verb, lists_append, or_assoc]

theorem Adds.kept (adds : Adds entries before middle)
    (same : after.rolePermissions = middle.rolePermissions) :
    Adds entries before after := by
  intro role verb
  rw [same]
  exact adds role verb

theorem Adds.since (adds : Adds entries middle after)
    (same : middle.rolePermissions = before.rolePermissions) :
    Adds entries before after := by
  intro role verb
  rw [← same]
  exact adds role verb

theorem adds_seeds (db : BoardDb) : Adds Store.defaults db db.seedDefaults :=
  fun _ _ => mem_seeded

theorem adds_given (db : BoardDb) :
    Adds entries db (db.addRolePermissions entries) :=
  fun _ _ => mem_added

theorem adds_initialised (given : Option (List (String × List String)))
    (db : BoardDb) :
    Adds (given.getD [] ++ Store.defaults) db (initialised given db) := by
  cases given with
  | none => exact adds_seeds db
  | some entries => exact (adds_given db).trans (adds_seeds _)

theorem WellFormed.adds (formed : WellFormed before)
    (known : KnownPermissions entries) (adds : Adds entries before after) :
    WellFormed after := by
  rintro ⟨role, verb⟩ there
  rcases (adds role verb).mp there with old | ⟨entry, listed, same, member⟩
  · exact formed _ old
  · have given := known entry listed
    exact ⟨same ▸ given.1, given.2 verb member⟩

theorem WellFormed.of_rows (formed : WellFormed before)
    (same : after.rolePermissions = before.rolePermissions) :
    WellFormed after := by
  rw [WellFormed, same]
  exact formed

def AddsKnown (before after : BoardDb) : Prop :=
  ∃ extra, KnownPermissions extra ∧ Adds extra before after

theorem AddsKnown.of_rows
    (same : after.rolePermissions = before.rolePermissions) :
    AddsKnown before after :=
  ⟨[], fun _ absent => absurd absent List.not_mem_nil, .of_rows same⟩

theorem AddsKnown.kept (adds : AddsKnown before middle)
    (same : after.rolePermissions = middle.rolePermissions) :
    AddsKnown before after := by
  rcases adds with ⟨extra, known, added⟩
  exact ⟨extra, known, added.kept same⟩

theorem AddsKnown.trans (earlier : AddsKnown before middle)
    (later : AddsKnown middle after) : AddsKnown before after := by
  rcases earlier with ⟨first, knownFirst, addsFirst⟩
  rcases later with ⟨second, knownSecond, addsSecond⟩
  exact ⟨first ++ second, List.forall_mem_append.mpr ⟨knownFirst, knownSecond⟩,
    addsFirst.trans addsSecond⟩

theorem Seeded.addsKnown (seeded : Seeded before after) :
    AddsKnown before after := by
  rcases seeded with same | same
  · exact .of_rows (same ▸ rfl)
  · exact ⟨Store.defaults, defaults_known, same ▸ adds_seeds before⟩

theorem PermissionsRefreshed.addsKnown {cmd : A2aCommand}
    (permissions : PermissionsRefreshed cmd before after) :
    AddsKnown before after := by
  have seeds : AddsKnown before before.seedDefaults :=
    Seeded.addsKnown (.inr rfl)
  cases permissions with
  | unreached same => exact .of_rows (same ▸ rfl)
  | seeded same => exact same ▸ seeds
  | overridden given known same =>
      exact same ▸ seeds.trans ⟨_, known, adds_given _⟩

theorem Effect.addsKnown {host : Host} {notifier : Notifier} {cmd : A2aCommand}
    {sender : String} (effect : Effect host notifier cmd sender before after) :
    AddsKnown before after := by
  cases effect with
  | kept seeded => exact seeded.addsKnown
  | noted verb authority named seeded kind logged =>
      exact seeded.addsKnown.kept logged.rolePermissions
  | moved authority named transition seeded mapped recorded =>
      have moved := seeded.addsKnown.kept mapped.rolePermissions
      cases recorded with
      | nothing same => exact same ▸ moved
      | event kind logged => exact moved.kept logged.rolePermissions
  | finished authority named finish seeded mapped about typed log promoted =>
      exact seeded.addsKnown.kept (promoted.rolePermissions.trans
        (log.rolePermissions.trans mapped.rolePermissions))
  | output verb authority named done complete seeded kind log found result =>
      exact result ▸ seeded.addsKnown.kept log.rolePermissions
  | created verb authority seeded requested added =>
      exact seeded.addsKnown.kept added.rolePermissions
  | refreshed verb authority found asked written permissions =>
      have enrolled := (upsertMembers_only written).rolePermissions
      exact (AddsKnown.of_rows enrolled).trans permissions.addsKnown
  | reopened verb authority seeded found awaiting mapped others own result =>
      exact result ▸ seeded.addsKnown.kept mapped.rolePermissions

theorem Migrated.rolePermissions (migrated : Migrated before after) :
    after.rolePermissions = before.rolePermissions := by
  cases migrated with
  | kept same => rw [same]
  | hashed same =>
      rw [same]
      rfl

theorem Touched.addsKnown (touched : Touched settings event boardId before after)
    (unmailed : ∀ mail, event ≠ .mail mail) : AddsKnown before after := by
  cases touched with
  | idle => exact .of_rows rfl
  | founded founded => exact absurd rfl (unmailed _)
  | commanded carried found current effect => exact absurd rfl (unmailed _)
  | confirmed confirms => exact absurd rfl (unmailed _)
  | requested migrated seeds effect =>
      exact ((AddsKnown.of_rows migrated.rolePermissions).trans
        seeds.addsKnown).trans effect.addsKnown
  | swept swept =>
      rcases swept.mapped with ⟨change, mapped, _⟩
      exact .of_rows mapped.rolePermissions
  | archived archived => exact .of_rows archived.rolePermissions
  | renamed different =>
      exact .of_rows (renamedFile_relabelled settings _ _ before).rolePermissions

theorem permits_seeded (known : role ∈ Store.knownRoles)
    (seeded : ∀ verb, Lists Store.defaults role verb →
      (role, verb) ∈ before.rolePermissions) :
    before.permits role verb = true ↔ (role, verb) ∈ before.rolePermissions := by
  have lists : ∃ first, Lists Store.defaults role first := by
    simp only [Store.knownRoles, List.mem_cons, List.not_mem_nil,
      or_false] at known
    rcases known with same | same | same | same
    · exact ⟨"create", same ▸ by decide⟩
    · exact ⟨"verify", same ▸ by decide⟩
    · exact ⟨"complete", same ▸ by decide⟩
    · exact ⟨"create", same ▸ by decide⟩
  rcases lists with ⟨first, listed⟩
  have unseeded : ¬ before.seeds role = true :=
    fun seeds => (seeds_iff.mp seeds).1 _ (seeded first listed) rfl
  rw [permits, checked, if_neg unseeded, List.contains_iff_mem]

/-- The defaults and an override are added. -/
def Overridden (entries : List (String × List String))
    (before after : BoardDb) : Prop :=
  ∀ role verb, (role, verb) ∈ after.rolePermissions ↔
    ((role, verb) ∈ before.rolePermissions ∨
      Lists Store.defaults role verb) ∨ Lists entries role verb

theorem Adds.overridden (adds : Adds (Store.defaults ++ entries) before after) :
    Overridden entries before after := by
  intro role verb
  rw [adds role verb, lists_append, or_assoc]

theorem Adds.overridden_first
    (adds : Adds (entries ++ Store.defaults) before after) :
    Overridden entries before after := by
  intro role verb
  rw [adds role verb, lists_append, or_assoc]
  exact or_congr_right or_comm

theorem Overridden.exact_iff (known : KnownPermissions entries)
    (rows : Overridden entries before after) :
    Exact after entries ↔ Covers before entries := by
  have permitted : ∀ role ∈ entries.map (·.1), ∀ verb,
      after.permits role verb = true ↔
        ((role, verb) ∈ before.rolePermissions ∨
          Lists Store.defaults role verb) ∨ Lists entries role verb := by
    intro role there verb
    rcases List.mem_map.mp there with ⟨entry, listed, same⟩
    rw [permits_seeded (same ▸ (known entry listed).1)
      fun verb default => (rows role verb).mpr (.inl (.inr default))]
    exact rows role verb
  constructor
  · intro equal role there verb has
    exact (equal role there verb).mp
      ((permitted role there verb).mpr (.inl has))
  · intro covers role there verb
    rw [permitted role there verb]
    exact ⟨fun has => has.elim (covers role there verb) id, .inr⟩

/-! ## The mail that creates a board -/

def creates (mail : InboundMail) : Prop :=
  Text.startsWith "[A2A] new " (Text.trim mail.subject) = true ∧
    isBoardAddress (Interceptor.recipient mail) = false

instance (mail : InboundMail) : Decidable (creates mail) :=
  inferInstanceAs (Decidable (_ ∧ _))

/-- The board a creation is about, once it is there. -/
structure Foundation where
  boardId : String
  boardEmail : String
  members : List Json

namespace Interceptor

/-- A creation up to its members. -/
def foundation (settings : Settings) (mail : InboundMail) :
    Action Gateway AppError (Option Foundation) := do
  let subject := Text.trim mail.subject
  let rest := Text.trim ((Text.afterStart "[A2A] new " subject).getD "")
  let parts := (Text.splitOnce ':' rest).getD (rest, "")
  let shortId ← sanitizeShortId settings (Text.trim parts.1)
  let description := Text.trim parts.2
  if shortId = "" then return none
  else
    let members := ((settings.parseJson mail.body).bind
      (·.getArray? "members")).getD []
    if isAnnounced settings.env.tables mail members = false then return none
    else
      let orchEmail := orchestratorOf members
      let system ← orchestratorSystem settings orchEmail
      let boardEmail := boardAddress system orchEmail shortId
      let boardId := deriveBoardId settings boardEmail
      if declaresOwner members mail.sender = false then return none
      else if ← ensureBoard settings boardId shortId boardEmail description
          system then
        return some { boardId, boardEmail, members }
      else return none

def settle (settings : Settings) (mail : InboundMail) :
    Option Foundation → Action Gateway AppError InterceptorDecision
  | none => return .passThrough
  | some founded => do
      populateBoard settings founded.boardId founded.boardEmail
        (settings.parseJson mail.body) founded.members
      return .passThrough

theorem receiveNew_eq (settings : Settings) (mail : InboundMail) :
    receiveNew settings mail = foundation settings mail >>= settle settings mail := by
  simp only [receiveNew, foundation, bind_assoc]
  refine bind_congr fun shortId => ?_
  split
  · rfl
  · split
    · rfl
    · rw [bind_assoc]
      refine bind_congr fun system => ?_
      split
      · rfl
      · rw [bind_assoc]
        refine bind_congr fun opened => ?_
        cases opened with
        | true => rfl
        | false => rfl

end Interceptor

open Interceptor

/-- The roles and their verbs in every file are as they were. -/
def SamePermissions (before after : Gateway) : Prop :=
  ∀ boardId, (after.files boardId).rolePermissions =
    (before.files boardId).rolePermissions

variable {gateway : Gateway} {mail : InboundMail}

theorem AtStage.permissions {stage : BoardDb → Prop} {next : Gateway}
    (staged : AtStage boardId stage gateway next)
    (kept : ∀ db, stage db →
      db.rolePermissions = (gateway.files boardId).rolePermissions) :
    SamePermissions gateway next := by
  intro other
  by_cases same : other = boardId
  · subst same
    exact kept _ staged.own
  · rw [staged.others other same]

theorem foundation_ends : (foundation settings mail).Ends
    (fun _ next => SamePermissions gateway next) (fun _ _ => False)
    gateway := by
  rw [foundation]
  simp only
  rw [Action.ends_bind]
  apply sanitizeShortId_ends
  intro shortId tick
  split
  · exact fun _ => rfl
  · split
    · exact fun _ => rfl
    · rw [Action.ends_bind]
      apply orchestratorSystem_ends
      intro system main
      split
      · exact fun _ => rfl
      · rw [Action.ends_bind]
        have untouched : ∀ boardId, AtStage boardId
            (· = gateway.files boardId) gateway { gateway with tick, main } :=
          fun _ => ⟨rfl, fun _ _ => rfl⟩
        refine (ensureBoard_ends (untouched _)).mono ?_
          fun _ _ impossible => impossible.elim
        intro opened next staged
        have kept : SamePermissions gateway next := by
          refine staged.permissions ?_
          rintro db (same | ⟨board, _, _, inserted⟩)
          · rw [same]
          · exact (createBoard_tasks inserted).2.2.2
        cases opened with
        | true => exact kept
        | false => exact kept

theorem registerMembers_same {members : List Json} {world : BoardWorld} :
    (Command.run settings.host
      (registerMembers settings.host boardId members)).Ends
      (fun _ later => later.db.rolePermissions = world.db.rolePermissions)
      (fun _ _ => False) world := by
  have nobody : ∀ member ∈ ([] : List Member), Registers boardId member :=
    fun _ impossible => absurd impossible List.not_mem_nil
  refine (registerMembers_ends nobody rfl).mono ?_ fun _ _ absurd => absurd
  rintro _ later ⟨registered, _, written⟩
  exact (upsertMembers_only written).rolePermissions

theorem populateBoard_permissions {boardEmail : String} {params : Option Json}
    {members : List Json} {holds : Gateway → Prop}
    (stopped : ∀ next, AtStage boardId
      (Adds [] (gateway.files boardId)) gateway next →
      (∀ emails, ((onBoard settings boardId
        (registerMembers settings.host boardId members)).run gateway).1 ≠
          .ok (some emails)) → holds next)
    (populated : ∀ next, AtStage boardId
      (Adds ((givenPermissions params).getD [] ++ Store.defaults)
        (gateway.files boardId)) gateway next → holds next) :
    (populateBoard settings boardId boardEmail params members).Ends
      (fun _ next => holds next) (fun _ next => holds next) gateway := by
  have registers : (onBoard settings boardId
      (registerMembers settings.host boardId members)).Ends
      (fun _ next => AtStage boardId (Adds [] (gateway.files boardId)) gateway
        next) (fun _ _ => False) gateway := by
    rw [ends_onBoard]
    refine registerMembers_same.mono ?_ fun _ _ absurd => absurd
    intro _ world same
    have start : AtStage boardId (· = gateway.files boardId) gateway gateway :=
      ⟨rfl, fun _ _ => rfl⟩
    exact start.onBoard (.of_rows same)
  have run := Action.ends_iff_run.mp registers
  rw [populateBoard, Action.ends_bind, Action.ends_iff_run]
  refine ⟨fun emails next registered => ?_, fun error next failed =>
    (run.2 error next failed).elim⟩
  have staged := run.1 emails next registered
  cases emails with
  | none =>
      refine stopped next staged fun emails answered => ?_
      rw [registered] at answered
      cases answered
  | some emails =>
      simp only
      rw [Action.ends_bind, Action.ends_ignore]
      have last : ∀ main : World, (onBoard settings boardId (initPermissions
          (givenPermissions params))).Ends (fun _ next => holds next)
          (fun _ next => holds next) { next with main } := by
        intro main
        rw [ends_onBoard]
        refine initPermissions_ends.mono ?_ fun _ _ absurd => absurd.elim
        intro _ world initial
        have moved : AtStage boardId (Adds [] (gateway.files boardId)) gateway
            { next with main } := ⟨staged.own, staged.others⟩
        refine populated _ (moved.onBoard ?_)
        rw [initial]
        exact staged.own.trans (adds_initialised _ _)
      exact onMain_ends (fun _ main _ => last main) fun _ main _ => last main

/-! ## Commands -/

section Refresh

variable {host : Host} {notifier : Notifier} {cmd : A2aCommand}
  {sender : String} {world : BoardWorld}

theorem handleRefresh_overrides (asked : overrides cmd = some entries) :
    (Command.run host (handleRefresh host notifier cmd sender)).Ends
      (fun _ next =>
        isOwner (world.db.findMember notifier.boardId sender) = true ∧
          KnownPermissions entries ∧ Overridden entries world.db next.db)
      (fun _ _ => True) world := by
  rw [handleRefresh, Command.ends_sequence, Store.ends_utcNow,
    Command.ends_sequence, Store.ends_getMember, Command.ends_ite]
  refine ⟨fun _ => trivial, fun owns => ?_⟩
  have owner :
      isOwner (world.db.findMember notifier.boardId sender) = true := by
    cases searched : world.db.findMember notifier.boardId sender with
    | none => simp [searched] at owns
    | some member => simpa [searched, isOwner] using owns
  rw [Command.ends_sequence, Store.ends_selectBoard]
  cases found : world.tock.db.findBoard notifier.boardId with
  | none => exact trivial
  | some board =>
      simp only
      rw [Command.ends_sequence, Store.ends_updateBoard, Command.ends_sequence,
        ends_required]
      refine ⟨fun listed array => ?_, fun _ => trivial⟩
      rw [Command.ends_sequence, Store.ends_listMembers, Command.ends_sequence]
      let kept (rest : List Json) (next : BoardWorld) : Prop :=
        (∀ entry ∈ rest, entry ∈ listed) ∧
          next.db.rolePermissions = world.db.rolePermissions
      refine (ends_forEach kept ?_ ?_).mono ?_ fun _ _ refused => refused
      · rintro entry rest next ⟨inside, same⟩
        rcases List.forall_mem_cons.mp inside with ⟨present, later⟩
        refine refreshMember_ends array present (fun _ _ _ => trivial) ?_ ?_
        · exact fun last unchanged => ⟨later, unchanged ▸ same⟩
        · exact fun _ last _ upserted =>
            ⟨later, (upsertMember_only upserted).rolePermissions.trans same⟩
      · exact ⟨fun _ there => there, rfl⟩
      · rintro _ next ⟨_, same⟩
        rw [Command.ends_sequence, Store.ends_seedDefaultRolePermissions,
          Command.ends_sequence]
        apply overridePermissions_ends
        · exact fun _ _ _ => trivial
        · intro skipped
          rw [asked] at skipped
          cases skipped
        · intro given last asks known written
          cases asks.symm.trans asked
          have seeds : Adds (Store.defaults ++ entries) next.db last.db := by
            rw [written]
            exact (adds_seeds next.db).trans (adds_given _)
          exact ⟨owner, known, (seeds.since same).overridden⟩

theorem executeCommand_refresh (verb : cmd.verb = "refresh") :
    executeCommand host notifier cmd sender =
      handleRefresh host notifier cmd sender := by
  have unscoped : ¬ taskScoped.contains cmd.verb = true := by
    rw [verb]
    decide
  rw [executeCommand, resolveReference]
  cases cmd.taskId with
  | none => simp only [pure_bind, dispatch, verb]
  | some raw =>
      simp only
      rw [if_neg (fun both => unscoped both.2), pure_bind]
      simp only [dispatch, verb]

end Refresh

theorem addsKnown_own {world : BoardWorld}
    (own : AddsKnown (gateway.files boardId) world.db) (other : String) :
    AddsKnown (gateway.files other)
      ((gateway.withBoard boardId world).files other) := by
  by_cases same : other = boardId
  · subst same
    rw [Gateway.withBoard_own]
    exact own
  · rw [Gateway.withBoard_other gateway world same]
    exact .of_rows rfl

def AllAddKnown (gateway next : Gateway) : Prop :=
  ∀ other, AddsKnown (gateway.files other) (next.files other)

theorem addsKnown_onBoard {command : Command α}
    (leaves : Leaves settings.host command
      (AddsKnown (gateway.files boardId)) (gateway.boardWorld boardId)) :
    (onBoard settings boardId command).Ends
      (fun _ => AllAddKnown gateway) (fun _ => AllAddKnown gateway) gateway := by
  rw [ends_onBoard]
  exact leaves.mono (fun _ _ own => addsKnown_own own)
    fun _ _ own => addsKnown_own own

theorem receiveCommand_addsKnown {rest : String} :
    (receiveCommand settings mail boardId rest).Ends
      (fun _ => AllAddKnown gateway) (fun _ => AllAddKnown gateway) gateway := by
  have idle : ∀ other,
      AddsKnown (gateway.files other) (gateway.files other) :=
    fun _ => .of_rows rfl
  rw [receiveCommand, Action.ends_bind, ends_onBoard, Store.ends_selectBoard]
  simp only [Gateway.withBoard_self, Gateway.boardWorld_db]
  cases (gateway.files boardId).findBoard boardId with
  | none => exact idle
  | some board =>
      simp only
      split
      · exact idle
      · split
        · exact idle
        · cases commandOf settings boardId rest mail with
          | none => exact idle
          | some cmd =>
              simp only [Action.ends_bind, Action.ends_ignore,
                Action.ends_pure]
              exact addsKnown_onBoard (executeCommand_affects.mono
                (fun _ _ effect => effect.addsKnown)
                fun _ _ effect => effect.addsKnown)

theorem receiveConfirmation_addsKnown :
    (receiveConfirmation settings mail).Ends
      (fun _ => AllAddKnown gateway) (fun _ => AllAddKnown gateway) gateway := by
  rw [receiveConfirmation]
  cases confirmationOf settings mail with
  | none => exact fun _ => .of_rows rfl
  | some parsed =>
      rcases parsed with ⟨boardId, kind, version⟩
      simp only
      rw [Action.ends_bind]
      refine addsKnown_onBoard ?_
      rw [confirmAs, leaves_sequence, Store.ends_getMember, leaves_ite]
      refine ⟨fun _ => ?_, fun _ => .of_rows rfl⟩
      rw [confirm, leaves_ite]
      refine ⟨fun _ => ?_, fun _ => .of_rows rfl⟩
      rw [setConfirmed]
      exact leaves_utcNow (.of_rows rfl)

theorem intercept_addsKnown (commands : ¬ creates mail) :
    (intercept settings mail).Ends
      (fun _ => AllAddKnown gateway) (fun _ => AllAddKnown gateway) gateway := by
  rw [creates] at commands
  rw [intercept, if_neg commands]
  cases boardIdOf settings (recipient mail) with
  | none => exact fun _ => .of_rows rfl
  | some boardId =>
      simp only
      cases Text.afterStart "[A2A] " (Text.trim mail.subject) with
      | none => exact receiveConfirmation_addsKnown
      | some rest => exact receiveCommand_addsKnown

theorem intercept_addsKnown_after (settings : Settings) (gateway : Gateway)
    (commands : ¬ creates mail) (other : String) :
    AddsKnown (gateway.files other)
      (((intercept settings mail).run gateway).2.files other) := by
  have ends := @intercept_addsKnown settings gateway mail commands
  exact Action.Ends.after ends other

theorem intercept_executes {cmd : A2aCommand} {board : BoardRecord}
    (commands : ¬ creates mail) (carried : Carries settings mail boardId cmd)
    (found : (gateway.files boardId).findBoard boardId = some board)
    (addressed : Text.eqIgnoreAsciiCase board.boardEmail (recipient mail) = true)
    (current : isPast board = false) :
    ((intercept settings mail).run gateway).2.files boardId =
      (Command.run settings.host (executeCommand settings.host
        (notifierOf board) cmd mail.sender) (gateway.boardWorld boardId)).2.db := by
  rcases carried with ⟨sent, rest, read, given⟩
  have executed : (intercept settings mail).Ends
      (fun _ next => next.files boardId =
        (Command.run settings.host (executeCommand settings.host
          (notifierOf board) cmd mail.sender)
          (gateway.boardWorld boardId)).2.db)
      (fun _ next => next.files boardId =
        (Command.run settings.host (executeCommand settings.host
          (notifierOf board) cmd mail.sender)
          (gateway.boardWorld boardId)).2.db) gateway := by
    rw [creates] at commands
    rw [intercept, if_neg commands]
    simp only [sent, read]
    rw [receiveCommand, Action.ends_bind, ends_onBoard, Store.ends_selectBoard]
    simp only [Gateway.withBoard_self, Gateway.boardWorld_db, found, addressed,
      current, given]
    rw [if_neg (by simp), if_neg (by simp)]
    simp only [Action.ends_bind, Action.ends_ignore, Action.ends_pure,
      ends_onBoard, Gateway.withBoard_own]
    refine Action.ends_iff_run.mpr ⟨fun _ next ran => ?_, fun _ next ran => ?_⟩
    · exact (congrArg (·.2.db) ran).symm
    · exact (congrArg (·.2.db) ran).symm
  exact Action.Ends.after executed

/-! ## Runs -/

/-- An event that gives permissions to the roles of a board, and is carried
out. -/
inductive Gives (settings : Settings) (gateway : Gateway) (boardId : String) :
    Event → List (String × List String) → Prop where
  | creation {mail : InboundMail} {founded : Foundation} {middle : Gateway}
      {entries : List (String × List String)} {emails : List String}
      (new : creates mail)
      (started : (foundation settings mail).run gateway =
        (.ok (some founded), middle))
      (home : founded.boardId = boardId)
      (registered : ((onBoard settings founded.boardId (registerMembers
        settings.host founded.boardId founded.members)).run middle).1 =
          .ok (some emails))
      (given : mailPermissions settings mail = some entries) :
      Gives settings gateway boardId (.mail mail) entries
  | refresh {mail : InboundMail} {cmd : A2aCommand} {board : BoardRecord}
      {entries : List (String × List String)} {response : CommandResponse}
      (commands : ¬ creates mail) (carried : Carries settings mail boardId cmd)
      (verb : cmd.verb = "refresh")
      (found : (gateway.files boardId).findBoard boardId = some board)
      (addressed : Text.eqIgnoreAsciiCase board.boardEmail (recipient mail) =
        true)
      (current : isPast board = false) (asked : overrides cmd = some entries)
      (answered : (Command.run settings.host (executeCommand settings.host
        (notifierOf board) cmd mail.sender) (gateway.boardWorld boardId)).1 =
          .ok response) :
      Gives settings gateway boardId (.mail mail) entries

/-- A creation with unknown permissions, or an override that leaves out a verb
that a role has or gets by default. -/
inductive Misgives (settings : Settings) (gateway : Gateway) : Event → Prop where
  | creation {mail : InboundMail} {founded : Foundation} {middle : Gateway}
      {entries : List (String × List String)} (new : creates mail)
      (started : (foundation settings mail).run gateway =
        (.ok (some founded), middle))
      (given : mailPermissions settings mail = some entries)
      (wrong : ¬ (KnownPermissions entries ∧
        Covers (gateway.files founded.boardId) entries)) :
      Misgives settings gateway (.mail mail)
  | refresh {mail : InboundMail} {boardId : String} {cmd : A2aCommand}
      {board : BoardRecord} {entries : List (String × List String)}
      (carried : Carries settings mail boardId cmd)
      (verb : cmd.verb = "refresh")
      (found : (gateway.files boardId).findBoard boardId = some board)
      (current : isPast board = false)
      (owner : isOwner
        ((gateway.files boardId).findMember board.id mail.sender) = true)
      (asked : overrides cmd = some entries)
      (narrow : ¬ Covers (gateway.files boardId) entries) :
      Misgives settings gateway (.mail mail)

/-- What the permissions given in an event make of the boards. -/
def ExactlyGiven (settings : Settings) (before : Gateway) (event : Event)
    (after : Gateway) : Prop :=
  ∀ boardId entries, Gives settings before boardId event entries →
    Exact (after.files boardId) entries

theorem receiveNew_permissions {holds : Gateway → Prop}
    (unfounded : ∀ next, SamePermissions gateway next →
      (∀ founded, ((foundation settings mail).run gateway).1 ≠
        .ok (some founded)) → holds next)
    (founds : ∀ founded middle next,
      (foundation settings mail).run gateway = (.ok (some founded), middle) →
      SamePermissions gateway middle →
      (AtStage founded.boardId (Adds [] (gateway.files founded.boardId)) middle
          next ∧ (∀ emails, ((onBoard settings founded.boardId
            (registerMembers settings.host founded.boardId
              founded.members)).run middle).1 ≠ .ok (some emails))) ∨
        AtStage founded.boardId
          (Adds ((mailPermissions settings mail).getD [] ++ Store.defaults)
            (gateway.files founded.boardId)) middle next → holds next) :
    (receiveNew settings mail).Ends (fun _ next => holds next)
      (fun _ next => holds next) gateway := by
  have run := Action.ends_iff_run.mp
    (@foundation_ends settings gateway mail)
  rw [receiveNew_eq, Action.ends_bind, Action.ends_iff_run]
  refine ⟨fun founded middle started => ?_, fun error next failed =>
    (run.2 error next failed).elim⟩
  have same := run.1 founded middle started
  cases founded with
  | none =>
      refine unfounded middle same fun founded answered => ?_
      rw [started] at answered
      cases answered
  | some founded =>
      rw [settle, Action.ends_bind]
      simp only [Action.ends_pure]
      apply populateBoard_permissions
      · intro next staged unregistered
        refine founds founded middle next started same (.inl ⟨?_, unregistered⟩)
        exact ⟨staged.own.since (same _), staged.others⟩
      · intro next staged
        refine founds founded middle next started same (.inr ?_)
        exact ⟨staged.own.since (same _), staged.others⟩

/-- The files are well formed and the event gave what it gives. -/
def Upheld (settings : Settings) (before : Gateway) (event : Event)
    (after : Gateway) : Prop :=
  (∀ boardId, WellFormed (after.files boardId)) ∧
    ExactlyGiven settings before event after

theorem AtStage.wellFormed {middle next : Gateway}
    (staged : AtStage boardId (Adds entries (gateway.files boardId)) middle next)
    (same : SamePermissions gateway middle) (known : KnownPermissions entries)
    (formed : ∀ boardId, WellFormed (gateway.files boardId)) (other : String) :
    WellFormed (next.files other) := by
  by_cases own : other = boardId
  · subst own
    exact (formed other).adds known staged.own
  · rw [staged.others other own]
    exact (formed other).of_rows (same other)

theorem receiveNew_upholds (new : creates mail)
    (keeps : ¬ Misgives settings gateway (.mail mail))
    (formed : ∀ boardId, WellFormed (gateway.files boardId)) :
    (receiveNew settings mail).Ends
      (fun _ next => Upheld settings gateway (.mail mail) next)
      (fun _ next => Upheld settings gateway (.mail mail) next) gateway := by
  apply receiveNew_permissions
  · intro next same unfounded
    refine ⟨fun boardId => (formed boardId).of_rows (same boardId), ?_⟩
    intro boardId entries gives
    cases gives with
    | creation _ started => exact absurd (congrArg (·.1) started) (unfounded _)
    | refresh commands => exact absurd new commands
  · intro founded middle next started same staged
    have covers : ∀ entries, mailPermissions settings mail = some entries →
        KnownPermissions entries ∧
          Covers (gateway.files founded.boardId) entries := by
      intro entries given
      by_contra wrong
      exact keeps (.creation new started given wrong)
    rcases staged with ⟨kept, unregistered⟩ | added
    · refine ⟨kept.wellFormed same (fun _ absent => absurd absent
        List.not_mem_nil) formed, ?_⟩
      intro boardId entries gives
      cases gives with
      | creation _ begun home registered =>
          cases started.symm.trans begun
          exact absurd registered (unregistered _)
      | refresh commands => exact absurd new commands
    · have known : KnownPermissions
          ((mailPermissions settings mail).getD [] ++ Store.defaults) := by
        refine List.forall_mem_append.mpr ⟨?_, defaults_known⟩
        cases given : mailPermissions settings mail with
        | none => exact fun _ absent => absurd absent List.not_mem_nil
        | some entries => exact (covers entries given).1
      refine ⟨added.wellFormed same known formed, ?_⟩
      intro boardId entries gives
      cases gives with
      | creation _ begun home registered given =>
          cases started.symm.trans begun
          cases home
          have adds := added.own
          rw [given, Option.getD_some] at adds
          have both := covers entries given
          exact (adds.overridden_first.exact_iff both.1).mpr both.2
      | refresh commands => exact absurd new commands

theorem intercept_exactlyGiven (commands : ¬ creates mail)
    (keeps : ¬ Misgives settings gateway (.mail mail)) :
    ExactlyGiven settings gateway (.mail mail)
      ((intercept settings mail).run gateway).2 := by
  intro boardId entries gives
  cases gives with
  | creation new => exact absurd new commands
  | @refresh _ cmd board _ response _ carried verb found addressed current asked
      answered =>
      rw [intercept_executes commands carried found addressed current]
      rw [executeCommand_refresh verb] at answered ⊢
      have refreshed := (Action.ends_iff_run.mp (@handleRefresh_overrides
        entries settings.host (notifierOf board) cmd mail.sender
        (gateway.boardWorld boardId) asked)).1 response _
        (Prod.ext answered rfl)
      have covers : Covers (gateway.files boardId) entries := by
        by_contra narrow
        exact keeps (.refresh carried verb found current refreshed.1 asked
          narrow)
      exact (refreshed.2.2.exact_iff refreshed.2.1).mpr covers

theorem Step.upholds {next : Gateway}
    (keeps : ¬ Misgives settings gateway event)
    (formed : ∀ boardId, WellFormed (gateway.files boardId))
    (step : Step settings gateway event next) :
    Upheld settings gateway event next := by
  by_cases mailed : ∃ mail, event = .mail mail
  · rcases mailed with ⟨mail, same⟩
    subst same
    subst step
    by_cases new : creates mail
    · have founds : intercept settings mail = receiveNew settings mail := by
        rw [creates] at new
        rw [intercept, if_pos new]
      rw [advance, founds]
      exact Action.Ends.after (receiveNew_upholds new keeps formed)
    · rw [advance]
      have each := intercept_addsKnown_after settings gateway new
      refine ⟨fun boardId => ?_, intercept_exactlyGiven new keeps⟩
      rcases each boardId with ⟨extra, known, adds⟩
      exact (formed boardId).adds known adds
  · rw [not_exists] at mailed
    constructor
    · intro boardId
      have touched := advance_touches settings event gateway boardId
      rw [show advance settings event gateway = next from step] at touched
      rcases touched.addsKnown mailed with ⟨extra, known, adds⟩
      exact (formed boardId).adds known adds
    · intro boardId entries gives
      cases gives with
      | creation => exact absurd rfl (mailed _)
      | refresh => exact absurd rfl (mailed _)

/-- In every run without such a creation or override the permissions are known,
and the roles that are given permissions have exactly these. -/
theorem permissions_run (settings : Settings) (main : World)
    {events : List Event} {gateway : Gateway}
    (run : Run (Guarded (fun gateway event => ¬ Misgives settings gateway event)
      (Step settings)) (Gateway.start main) events gateway) :
    Run (fun before event after => Step settings before event after ∧
        ExactlyGiven settings before event after)
      (Gateway.start main) events gateway ∧
      ∀ boardId, WellFormed (gateway.files boardId) := by
  have start : ∀ boardId, WellFormed ((Gateway.start main).files boardId) :=
    fun _ _ absent => absurd absent List.not_mem_nil
  generalize Gateway.start main = first at run start
  induction run with
  | nil state => exact ⟨.nil state, start⟩
  | cons moved rest induction =>
      have once := moved.2.upholds moved.1 start
      have later := induction once.1
      exact ⟨.cons ⟨moved.2, once.2⟩ later.1, later.2⟩

theorem covers_of {db : BoardDb}
    (rows : ∀ row ∈ db.rolePermissions, row.1 ∈ entries.map (·.1) →
      Lists entries row.1 row.2)
    (defaults : ∀ entry ∈ Store.defaults, entry.1 ∈ entries.map (·.1) →
      ∀ verb ∈ entry.2, Lists entries entry.1 verb) : Covers db entries := by
  intro role there verb has
  rcases has with row | ⟨entry, listed, same, member⟩
  · exact rows _ row there
  · subst same
    exact defaults entry listed there verb member

theorem not_misgives_creation
    (given : mailPermissions settings mail = some entries)
    (known : KnownPermissions entries)
    (covers : ∀ boardId, Covers (gateway.files boardId) entries)
    (verb : (commandWords mail).head? ≠ some "refresh") :
    ¬ Misgives settings gateway (.mail mail) := by
  intro misgives
  cases misgives with
  | creation _ _ asked wrong =>
      cases given.symm.trans asked
      exact wrong ⟨known, covers _⟩
  | refresh carried refreshes =>
      have words := carried.words.1
      rw [refreshes] at words
      cases head : (commandWords mail).head? with
      | none =>
          rw [head] at words
          exact absurd words (by simp)
      | some first =>
          rw [head] at words
          exact verb (head.trans (congrArg some words.symm))

namespace Trial

def teamWithVerbs (role : String) (verbs : List String) : String × Json :=
  (jsonObject [jsonField "members" (jsonArray (team.map fun entry =>
      jsonObject (entry.map fun field => jsonField field.1 (quoted field.2)))),
    jsonField "role_permissions" (jsonArray [jsonObject
      [jsonField "role" (quoted role),
        jsonField "verbs" (jsonArray (verbs.map quoted))]])],
    .object [("members", .array (team.map fun entry =>
        .object (entry.map fun field => (field.1, .string field.2)))),
      ("role_permissions", .array [.object [("role", .string role),
        ("verbs", .array (verbs.map .string))]])])

def widenedVerbs : List String :=
  ["verify", "approve", "reject", "output", "continue", "comment", "list", "show",
    "roles", "members", "status", "heartbeat", "unblock"]

def widened : String × Json := teamWithVerbs "verifier" widenedVerbs

def strangeRole : String × Json := teamWithVerbs "admin" ["create"]

end Trial

open Trial in
/-- Verifiers of a board that is created with one verb more have this verb. -/
theorem permissions_run_widened :
    ((reached [widened] [creation widened]).files demoBoard).permits "verifier"
        "unblock" = true ∧
      Run (fun before event after => Step (configured [widened]) before event
            after ∧ ExactlyGiven (configured [widened]) before event after)
        (Gateway.start (World.start Database.empty)) [creation widened]
        (reached [widened] [creation widened]) ∧
      ∀ boardId,
        WellFormed ((reached [widened] [creation widened]).files boardId) := by
  refine ⟨by decide +kernel, permissions_run _ _ (.cons ⟨?_, rfl⟩ (.nil _))⟩
  have known : KnownPermissions [("verifier", widenedVerbs)] := by
    unfold KnownPermissions
    decide +kernel
  have covers : Covers .empty [("verifier", widenedVerbs)] :=
    covers_of (by decide +kernel) (by decide +kernel)
  exact not_misgives_creation (by decide +kernel) known (fun _ => covers)
    (by decide +kernel)

open Trial in
/-- The roles of a creation are taken as they are. -/
theorem permissions_strange :
    ¬ ∀ (settings : Settings) (main : World) (events : List Event)
      (gateway : Gateway),
      Run (Step settings) (Gateway.start main) events gateway →
        Run (fun before event after => Step settings before event after ∧
            ExactlyGiven settings before event after)
          (Gateway.start main) events gateway ∧
          ∀ boardId, WellFormed (gateway.files boardId) := by
  intro claimed
  have formed := (claimed _ _ _ _
    (reached_run [strangeRole] [creation strangeRole])).2 demoBoard
  have strange : ¬ WellFormed
      ((reached [strangeRole] [creation strangeRole]).files demoBoard) := by
    decide +kernel
  exact strange formed

end AimailGateway.Board
