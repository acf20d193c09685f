import AimailGateway.Board.Duties
import AimailGateway.Board.Permissions
import AimailGateway.Smtp.Learning

/-! # A creation mail that comes twice

A second copy of a creation mail finds everything in place, if the short id is
long enough to need no random padding.
-/

namespace AimailGateway.Board

open Library Fallible BoardDb Commands Interceptor
open Smtp (replaced)

/-! ## What a creation mail asks for -/

structure Creation where
  shortId : String
  description : String
  system : String
  boardEmail : String
  boardId : String
  members : List Json

def rawShortId (mail : InboundMail) : String :=
  let rest := Text.trim
    ((Text.afterStart "[A2A] new " (Text.trim mail.subject)).getD "")
  Text.trim ((Text.splitOnce ':' rest).getD (rest, "")).1

def rawDescription (mail : InboundMail) : String :=
  let rest := Text.trim
    ((Text.afterStart "[A2A] new " (Text.trim mail.subject)).getD "")
  Text.trim ((Text.splitOnce ':' rest).getD (rest, "")).2

def keptShortId (raw : String) : List Char :=
  (raw.toList.filter isShortIdChar).take 16

/-- The short id needs no padding. -/
def Unpadded (mail : InboundMail) : Prop :=
  5 ≤ (keptShortId (rawShortId mail)).length

instance (mail : InboundMail) : Decidable (Unpadded mail) :=
  inferInstanceAs (Decidable (5 ≤ _))

def mailMembers (settings : Settings) (mail : InboundMail) : List Json :=
  ((settings.parseJson mail.body).bind (·.getArray? "members")).getD []

/-- The system that owns the address of the orchestrator. -/
def systemOf (db : Database) (orchEmail : String) : String :=
  ((db.systemDomains.find? (·.domain == orchEmail)).map (·.systemId)).getD ""

/-- The board a valid creation mail asks for, if its short id is not padded. -/
def creationOf (settings : Settings) (mail : InboundMail) (db : Database) :
    Option Creation :=
  let members := mailMembers settings mail
  let orchEmail := orchestratorOf members
  let shortId := String.ofList (keptShortId (rawShortId mail))
  let system := systemOf db orchEmail
  let boardEmail := boardAddress system orchEmail shortId
  if isAnnounced settings.env.tables mail members = true ∧
      declaresOwner members mail.sender = true then
    some {
      shortId
      description := rawDescription mail
      system
      boardEmail
      boardId := deriveBoardId settings boardEmail
      members }
  else none

/-- The addresses that are registered, none of them if a role is unknown: the
group whitelist. -/
def whitelisted : List Json → Option (List String)
  | [] => some []
  | entry :: rest =>
      let email := (entry.getStr? "email").getD ""
      if Store.knownRoles.contains ((entry.getStr? "role").getD "worker") = false
      then none
      else if email = "" then whitelisted rest
      else (whitelisted rest).map (email :: ·)

/-- The addresses up to the first unknown role. -/
def registered : List Json → List String
  | [] => []
  | entry :: rest =>
      let email := (entry.getStr? "email").getD ""
      if Store.knownRoles.contains ((entry.getStr? "role").getD "worker") = false
      then []
      else if email = "" then registered rest
      else email :: registered rest

/-! ## Members -/

variable {settings : Settings} {boardId : String} {before after : BoardDb}
  {gateway : Gateway} {mail : InboundMail}
  {failed : AppError → Gateway → Prop} {db : BoardDb} {creation : Creation}
  {world : BoardWorld}
  {host : Host} {member : Member} {ok : String → Gateway → Prop}

/-- Members are added at most. -/
structure Enlarged (before after : BoardDb) : Prop where
  only : MembersOnly before after
  retains : Retains before after

theorem Enlarged.same (equal : after = before) : Enlarged before after := by
  subst equal
  exact ⟨⟨rfl, rfl, rfl, rfl⟩, .same rfl⟩

theorem Enlarged.trans {middle : BoardDb} (earlier : Enlarged before middle)
    (later : Enlarged middle after) : Enlarged before after where
  only := ⟨later.only.boards.trans earlier.only.boards,
    later.only.tasks.trans earlier.only.tasks,
    later.only.taskEvents.trans earlier.only.taskEvents,
    later.only.rolePermissions.trans earlier.only.rolePermissions⟩
  retains := earlier.retains.trans later.retains

theorem hasBoard_congr (boards : after.boards = before.boards) :
    after.hasBoard boardId = before.hasBoard boardId := by
  rw [hasBoard, boards, hasBoard]

theorem upsertMember_onBoard
    (written : before.upsertMember member = .ok after) :
    OnBoard after member.email := by
  rw [upsertMember] at written
  split at written
  · split at written
    · next known =>
        rcases isMember_iff.mp known with ⟨row, there, same⟩
        cases written
        refine ⟨memberChange member row, ?_,
          (memberChange_email member row).trans same⟩
        change _ ∈ before.members.rows.map (memberChange member)
        exact List.mem_map.mpr ⟨row, there, rfl⟩
    · cases written
      refine ⟨insertedMember member, ?_, rfl⟩
      change _ ∈ before.members.rows ++ [insertedMember member]
      exact List.mem_append_right _ (List.mem_singleton_self _)
  · cases written

theorem upsertMember_ok (known : before.hasBoard member.boardId = true) :
    ∃ after, before.upsertMember member = .ok after := by
  rw [upsertMember, dif_pos known]
  split
  · exact ⟨_, rfl⟩
  · exact ⟨_, rfl⟩

theorem addMember_enlarges (known : world.db.hasBoard member.boardId = true) :
    (Command.run host (Store.addMember host member)).Ends
      (fun _ later => Enlarged world.db later.db ∧
        OnBoard later.db member.email)
      (fun _ _ => False) world := by
  have upserts : ∀ (stored : Member) (start : BoardWorld),
      start.db = world.db → stored.email = member.email →
        stored.boardId = member.boardId →
          (Command.run host (Store.upsertMember stored)).Ends
            (fun _ later => Enlarged world.db later.db ∧
              OnBoard later.db member.email)
            (fun _ _ => False) start := by
    intro stored start same email board
    rw [Store.ends_upsertMember, same]
    refine ⟨fun db written => ⟨⟨?_, ?_⟩, ?_⟩, fun error failed => ?_⟩
    · exact upsertMember_only written
    · exact upsertMember_retains written
    · rw [← email]
      exact upsertMember_onBoard written
    · rcases upsertMember_ok (board ▸ known) with ⟨db, written⟩
      rw [written] at failed
      cases failed
  rw [Store.addMember]
  split
  · rw [Command.ends_sequence, Store.ends_generateBoardTokenSalt]
    exact upserts _ world.tock rfl rfl rfl
  · exact upserts member world rfl rfl rfl
  · exact upserts _ world rfl rfl rfl

theorem registerMember_enlarges {email role displayName : String}
    (known : world.db.hasBoard boardId = true) :
    (Command.run host
      (registerMember host boardId email role displayName)).Ends
      (fun _ later => Enlarged world.db later.db ∧ OnBoard later.db email)
      (fun _ _ => False) world := by
  rw [registerMember, Command.ends_sequence, Store.ends_getMember]
  cases found : world.db.findMember boardId email with
  | some member =>
      exact ⟨.same rfl, onBoard_of_findMember (Option.isSome_iff_exists.mpr
        ⟨member, found⟩)⟩
  | none =>
      simp only
      rw [Command.ends_sequence, Store.ends_generateBoardToken,
        Command.ends_sequence, Store.ends_utcNow, Command.ends_ignored]
      exact (addMember_enlarges known).mono (fun _ _ added => added)
        fun _ _ impossible => impossible.elim

theorem registerMembers_enlarges
    {entries : List Json} (known : world.db.hasBoard boardId = true) :
    (Command.run host (registerMembers host boardId entries)).Ends
      (fun answer later => answer = whitelisted entries ∧
        Enlarged world.db later.db ∧
        ∀ email ∈ registered entries, OnBoard later.db email)
      (fun _ _ => False) world := by
  induction entries generalizing world with
  | nil => exact ⟨rfl, .same rfl, fun _ absent => absurd absent List.not_mem_nil⟩
  | cons entry rest induction =>
      simp only [registerMembers, whitelisted, registered]
      rw [Command.ends_ite]
      refine ⟨fun unknown => ?_, fun role => ?_⟩
      · rw [if_pos unknown, if_pos unknown]
        exact ⟨rfl, .same rfl, fun _ absent => absurd absent List.not_mem_nil⟩
      · rw [if_neg role, if_neg role, Command.ends_ite]
        refine ⟨fun empty => ?_, fun named => ?_⟩
        · rw [if_pos empty, if_pos empty]
          exact induction known
        · rw [if_neg named, if_neg named, Command.ends_sequence]
          refine (registerMember_enlarges known).mono ?_
            fun _ _ impossible => impossible
          rintro _ middle ⟨first, there⟩
          rw [Command.ends_sequence]
          refine (induction ((hasBoard_congr first.only.boards).trans
            known)).mono ?_ fun _ _ impossible => impossible
          rintro answer later ⟨same, second, others⟩
          refine ⟨by rw [same], first.trans second, ?_⟩
          exact List.forall_mem_cons.mpr ⟨second.retains _ there, others⟩

theorem registerMembers_idle
    {entries : List Json} (homed : Homed boardId world.db)
    (there : ∀ email ∈ registered entries, OnBoard world.db email) :
    (Command.run host (registerMembers host boardId entries)).Ends
      (fun answer later => answer = whitelisted entries ∧ later.db = world.db)
      (fun _ _ => False) world := by
  induction entries generalizing world with
  | nil => exact ⟨rfl, rfl⟩
  | cons entry rest induction =>
      simp only [registerMembers, whitelisted]
      simp only [registered] at there
      rw [Command.ends_ite]
      refine ⟨fun unknown => ?_, fun role => ?_⟩
      · rw [if_pos unknown]
        exact ⟨rfl, rfl⟩
      · rw [if_neg role] at there ⊢
        rw [Command.ends_ite]
        refine ⟨fun empty => ?_, fun named => ?_⟩
        · rw [if_pos empty] at there ⊢
          exact induction homed there
        · rw [if_neg named] at there ⊢
          rcases List.forall_mem_cons.mp there with ⟨first, others⟩
          rcases Option.isSome_iff_exists.mp (findMember_of_onBoard homed first)
            with ⟨member, found⟩
          rw [Command.ends_sequence, registerMember, Command.ends_sequence,
            Store.ends_getMember, found]
          simp only
          rw [Command.ends_return, Command.ends_sequence]
          refine (induction homed others).mono ?_ fun _ _ impossible => impossible
          rintro answer later ⟨same, kept⟩
          exact ⟨by rw [same], kept⟩

/-! ## Permissions -/

theorem addVerbs_present {role : String} {verbs : List String}
    (present : ∀ verb ∈ verbs, (role, verb) ∈ db.rolePermissions) :
    db.addVerbs role verbs = db := by
  induction verbs with
  | nil => rfl
  | cons verb rest induction =>
      rcases List.forall_mem_cons.mp present with ⟨first, others⟩
      rw [addVerbs, List.foldl_cons, addRolePermission, if_pos first]
      exact induction others

theorem addRolePermissions_present {entries : List (String × List String)}
    (present : ∀ entry ∈ entries, ∀ verb ∈ entry.2,
      (entry.1, verb) ∈ db.rolePermissions) :
    db.addRolePermissions entries = db := by
  induction entries with
  | nil => rw [addRolePermissions]
  | cons entry rest induction =>
      rcases List.forall_mem_cons.mp present with ⟨first, others⟩
      rw [addRolePermissions, addVerbs_present first]
      exact induction others

/-- The permissions a creation adds are there. -/
def Permits (given : Option (List (String × List String))) (db : BoardDb) :
    Prop :=
  ∀ entry ∈ given.getD [] ++ Store.defaults, ∀ verb ∈ entry.2,
    (entry.1, verb) ∈ db.rolePermissions

theorem initialised_permits (given : Option (List (String × List String)))
    (db : BoardDb) : Permits given (initialised given db) :=
  fun entry listed verb member => (adds_initialised given db entry.1 verb).mpr
    (.inr ⟨entry, listed, rfl, member⟩)

theorem Permits.initialised {given : Option (List (String × List String))}
    (permits : Permits given db) : initialised given db = db := by
  rcases List.forall_mem_append.mp permits with ⟨own, defaults⟩
  cases given with
  | none => exact addRolePermissions_present defaults
  | some entries =>
      have first : db.addRolePermissions entries = db :=
        addRolePermissions_present own
      change (db.addRolePermissions entries).seedDefaults = db
      rw [first]
      exact addRolePermissions_present defaults

/-! ## The stages of a creation -/

theorem sanitizeShortId_unpadded {raw : String}
    (long : 5 ≤ (keptShortId raw).length) :
    (sanitizeShortId settings raw).Ends ok failed gateway ↔
      ok (String.ofList (keptShortId raw)) gateway := by
  have none : 5 - (keptShortId raw).length = 0 := by omega
  unfold sanitizeShortId
  rw [keptShortId] at none ⊢
  simp only [Action.Ends, none, List.range_zero, List.map_nil, List.append_nil,
    List.length_nil, Nat.add_zero]

theorem ends_onMain {storage : Storage α} {ok : α → Gateway → Prop} :
    (onMain storage).Ends ok failed gateway ↔
      storage.Ends (fun value main => ok value { gateway with main })
        (fun error main => failed error { gateway with main }) gateway.main := by
  rw [Action.Ends, Action.Ends, onMain]
  rcases storage gateway.main with ⟨_ | _, _⟩
  · rfl
  · rfl

theorem orchestratorSystem_calm (calm : settings.env.Calm) {orchEmail : String} :
    (orchestratorSystem settings orchEmail).Ends ok failed gateway ↔
      ok (systemOf gateway.main.db orchEmail)
        { gateway with main := gateway.main.later } := by
  rw [orchestratorSystem, Action.ends_bind, Action.ends_attempt, ends_onMain,
    Storage.getSystemDomainByName, calm.ends_query]
  rfl

/-- Only the file of a board differs, if any. -/
def Replaces (boardId : String) (db : BoardDb) (before after : Gateway) : Prop :=
  after.files = Function.update before.files boardId db ∧
    after.main.db = before.main.db

theorem Replaces.refl (gateway : Gateway) (boardId : String) :
    Replaces boardId (gateway.files boardId) gateway gateway :=
  ⟨(Function.update_eq_self boardId gateway.files).symm, rfl⟩

theorem Replaces.onBoard {start : Gateway}
    (replaces : Replaces boardId db start gateway) (world : BoardWorld) :
    Replaces boardId world.db start (gateway.withBoard boardId world) := by
  refine ⟨?_, replaces.2⟩
  change Function.update gateway.files boardId world.db = _
  rw [replaces.1, Function.update_idem]

/-- The admission of a board depends on its system alone. -/
def Steady (settings : Settings) : Prop :=
  ∀ first second system,
    settings.admitBoard first system = settings.admitBoard second system

theorem ends_admitBoard {system : String} {ok : Bool → Gateway → Prop} :
    (admitBoard settings system).Ends ok failed gateway ↔
      ok (settings.admitBoard gateway.tick system)
        { gateway with tick := gateway.tick + 1 } :=
  Iff.rfl

theorem createBoard_opens {board : BoardRecord}
    (empty : ∀ row, row ∉ before.boards) :
    ∃ created, before.createBoard board = .ok created ∧
      created.hasBoard board.id = true ∧ Homed board.id created := by
  have missing : ¬ before.hasBoard board.id = true := by
    intro has
    rcases hasBoard_iff.mp has with ⟨row, there, _⟩
    exact empty row there
  have free : ∀ other ∈ before.boards,
      BoardRecord.conflict other (insertedBoard board) = false :=
    fun other there => absurd there (empty other)
  rw [createBoard, if_neg missing]
  split
  · next boards inserted =>
      refine ⟨_, rfl, hasBoard_iff.mpr ⟨insertedBoard board,
        (Table.mem_of_insert? inserted).mpr (.inr rfl), rfl⟩, ?_⟩
      intro row there
      rcases (Table.mem_of_insert? inserted).mp there with old | new
      · exact absurd old (empty row)
      · rw [new]
        rfl
  · next failed =>
      rcases Table.insert?_isSome free with ⟨boards, inserted⟩
      rw [inserted] at failed
      cases failed

theorem ensureBoard_outcome {id shortId boardEmail description system : String}
    (homed : Homed id (gateway.files id)) {ok : Bool → Gateway → Prop}
    (known : (gateway.files id).hasBoard id = true → ∀ next,
      Replaces id (gateway.files id) gateway next → ok true next)
    (refused : (gateway.files id).hasBoard id = false →
      settings.admitBoard gateway.tick system = false → ∀ next,
        Replaces id (gateway.files id) gateway next → ok false next)
    (opened : (gateway.files id).hasBoard id = false →
      settings.admitBoard gateway.tick system = true → ∀ db next,
        (db.hasBoard id = true ∧ Homed id db) →
          Replaces id db gateway next → ok true next) :
    (ensureBoard settings id shortId boardEmail description system).Ends ok
      (fun _ _ => False) gateway := by
  rw [ensureBoard, Action.ends_bind, ends_onBoard, Store.ends_selectBoard]
  cases found : (gateway.boardWorld id).db.findBoard id with
  | some board =>
      have searched := Table.mem_of_find? found
      refine known (hasBoard_iff.mpr ⟨board, searched.1, by
        simpa using searched.2⟩) _ ?_
      rw [Gateway.withBoard_self]
      exact .refl gateway id
  | none =>
      have missing : (gateway.files id).hasBoard id = false := by
        rw [Bool.eq_false_iff]
        intro has
        rcases hasBoard_iff.mp has with ⟨board, there, same⟩
        have absent := Table.find?_eq_none.mp found board there
        simp [same] at absent
      have empty : ∀ board, board ∉ (gateway.files id).boards := by
        intro board there
        rw [Bool.eq_false_iff] at missing
        exact missing (hasBoard_iff.mpr ⟨board, there, homed board there⟩)
      simp only [Gateway.withBoard_self]
      rw [Action.ends_bind, ends_admitBoard]
      cases admitted : settings.admitBoard gateway.tick system with
      | false => exact refused missing admitted _ (.refl gateway id)
      | true =>
          simp only [if_true]
          rw [Action.ends_bind, ends_onBoard, insertBoard,
            Command.ends_sequence, Store.ends_utcNow, Command.ends_ignored,
            Store.createBoard, Command.ends_sequence, Store.ends_send]
          rcases @createBoard_opens _ (newBoard id shortId boardEmail
            description system (settings.host.now (gateway.tick + 1))) empty with
            ⟨created, inserted, there, home⟩
          have start : Replaces id (gateway.files id) gateway
              { gateway with tick := gateway.tick + 1 } := .refl gateway id
          refine Command.ends_commit.mpr ⟨fun db written => ?_,
            fun _ failed => ?_⟩
          · cases inserted.symm.trans written
            exact opened missing admitted created _ ⟨there, home⟩
              (start.onBoard _)
          · cases inserted.symm.trans failed

/-- The members of a creation are on a board that is there, and so are the
permissions if no role is unknown. -/
structure Settled (settings : Settings) (mail : InboundMail)
    (creation : Creation) (db : BoardDb) : Prop where
  opened : db.hasBoard creation.boardId = true
  members : ∀ email ∈ registered creation.members, OnBoard db email
  permissions : (whitelisted creation.members).isSome →
    Permits (mailPermissions settings mail) db

/-- What a creation makes of the table of group whitelists. -/
def listed (creation : Creation) (table : List (String × String)) :
    List (String × String) :=
  match whitelisted creation.members with
  | some emails => replaced creation.boardEmail emails table
  | none => table

theorem populateBoard_settles (calm : settings.env.Calm) {start : Gateway}
    (replaces : Replaces creation.boardId db start gateway)
    (opened : db.hasBoard creation.boardId = true)
    (homed : Homed creation.boardId db) {holds : Gateway → Prop}
    (settles : ∀ after next, Settled settings mail creation after →
      (Settled settings mail creation db → after = db) →
      next.files = Function.update start.files creation.boardId after →
      next.main.db = { start.main.db with
        boardWhitelists := listed creation start.main.db.boardWhitelists } →
      holds next) :
    (populateBoard settings creation.boardId creation.boardEmail
      (settings.parseJson mail.body) creation.members).Ends
      (fun _ next => holds next) (fun _ next => holds next) gateway := by
  have own : (gateway.boardWorld creation.boardId).db = db := by
    rw [Gateway.boardWorld_db, replaces.1, Function.update_self]
  have registers : (Command.run settings.host (registerMembers settings.host
      creation.boardId creation.members)).Ends
      (fun answer later => answer = whitelisted creation.members ∧
        Enlarged db later.db ∧
        (∀ email ∈ registered creation.members, OnBoard later.db email) ∧
        ((∀ email ∈ registered creation.members, OnBoard db email) →
          later.db = db))
      (fun _ _ => False) (gateway.boardWorld creation.boardId) := by
    rw [← own] at opened homed ⊢
    by_cases all : ∀ email ∈ registered creation.members,
        OnBoard (gateway.boardWorld creation.boardId).db email
    · refine (registerMembers_idle homed all).mono ?_ fun _ _ absurd => absurd
      rintro answer later ⟨same, kept⟩
      exact ⟨same, .same kept, fun email known => kept ▸ all email known,
        fun _ => kept⟩
    · refine (registerMembers_enlarges opened).mono ?_ fun _ _ absurd => absurd
      rintro answer later ⟨same, enlarged, there⟩
      exact ⟨same, enlarged, there, fun settled => absurd settled all⟩
  rw [populateBoard, Action.ends_bind, ends_onBoard]
  refine registers.mono ?_ fun _ _ impossible => impossible.elim
  rintro answer world ⟨same, enlarged, there, idle⟩
  have still : world.db.hasBoard creation.boardId = true :=
    (hasBoard_congr enlarged.only.boards).trans opened
  have moved := replaces.onBoard world
  subst same
  cases addresses : whitelisted creation.members with
  | none =>
      refine settles world.db _ ⟨still, there, ?_⟩ ?_ moved.1 ?_
      · intro some
        rw [addresses] at some
        cases some
      · exact fun settled => idle settled.members
      · rw [listed, addresses]
        exact moved.2
  | some emails =>
      simp only
      rw [Action.ends_bind, Action.ends_ignore, ends_onMain,
        Storage.replaceBoardMembers, calm.ends_call rfl, ends_onBoard]
      refine initPermissions_ends.mono ?_ fun _ _ impossible => impossible.elim
      intro _ last initial
      simp only [Gateway.boardWorld_db, Gateway.withBoard_own] at initial
      have permitted := initialised_permitted
        (givenPermissions (settings.parseJson mail.body)) world.db
      refine settles last.db _ ⟨?_, ?_, fun _ => ?_⟩ ?_ ?_ ?_
      · rw [initial]
        exact (hasBoard_congr permitted.boards).trans still
      · intro email known
        rw [initial]
        exact Retains.same permitted.members email (there email known)
      · rw [initial]
        exact initialised_permits _ world.db
      · intro settled
        rw [initial, idle settled.members]
        exact (settled.permissions (by rw [addresses]; rfl)).initialised
      · change Function.update (Function.update _ _ _) _ _ = _
        exact (moved.onBoard last).1
      · rw [listed, addresses, ← replaces.2]
        rfl

theorem keptShortId_ne {raw : String} (long : 5 ≤ (keptShortId raw).length) :
    String.ofList (keptShortId raw) ≠ "" := by
  intro empty
  have nothing : keptShortId raw = [] := by
    rw [← @String.toList_ofList (keptShortId raw), empty]
    rfl
  rw [nothing] at long
  exact absurd long (by simp)

theorem receiveNew_refused (calm : settings.env.Calm) (long : Unpadded mail)
    (asked : creationOf settings mail gateway.main.db = none) :
    (receiveNew settings mail).Ends
      (fun _ next => next.files = gateway.files ∧
        next.main.db = gateway.main.db)
      (fun _ _ => False) gateway := by
  have kept : 5 ≤ (keptShortId (rawShortId mail)).length := long
  simp only [creationOf] at asked
  rw [receiveNew]
  simp only
  rw [Action.ends_bind]
  refine (sanitizeShortId_unpadded kept).mpr ?_
  rw [if_neg (keptShortId_ne kept)]
  by_cases announced : isAnnounced settings.env.tables mail
      (mailMembers settings mail) = true
  · have stranger : ¬ declaresOwner (mailMembers settings mail) mail.sender =
        true := by
      intro owner
      rw [if_pos ⟨announced, owner⟩] at asked
      cases asked
    rw [mailMembers] at announced stranger
    rw [if_neg (by simp [announced]), Action.ends_bind,
      orchestratorSystem_calm calm, if_pos (Bool.not_eq_true _ ▸ stranger)]
    exact ⟨rfl, rfl⟩
  · rw [mailMembers] at announced
    rw [if_pos (Bool.not_eq_true _ ▸ announced)]
    exact ⟨rfl, rfl⟩

theorem receiveNew_creates (calm : settings.env.Calm) (long : Unpadded mail)
    (asked : creationOf settings mail gateway.main.db = some creation)
    {holds : Gateway → Prop}
    (ends : (ensureBoard settings creation.boardId creation.shortId
      creation.boardEmail creation.description creation.system).Ends
      (fun opened next => (opened = false → holds next) ∧
        (opened = true → (populateBoard settings creation.boardId
          creation.boardEmail (settings.parseJson mail.body)
          creation.members).Ends (fun _ last => holds last)
            (fun _ last => holds last) next))
      (fun _ _ => False) { gateway with main := gateway.main.later }) :
    (receiveNew settings mail).Ends (fun _ next => holds next)
      (fun _ next => holds next) gateway := by
  have kept : 5 ≤ (keptShortId (rawShortId mail)).length := long
  simp only [creationOf] at asked
  split at asked
  · next valid =>
      have same := Option.some.inj asked
      subst same
      simp only [mailMembers, rawDescription] at valid ends
      rw [receiveNew]
      simp only
      rw [Action.ends_bind]
      refine (sanitizeShortId_unpadded kept).mpr ?_
      rw [if_neg (keptShortId_ne kept), if_neg (by simp [valid.1]),
        Action.ends_bind, orchestratorSystem_calm calm,
        if_neg (by simp [valid.2]), Action.ends_bind]
      refine ends.mono ?_ fun _ _ impossible => impossible.elim
      rintro opened next ⟨refused, goes⟩
      cases opened with
      | false => exact refused rfl
      | true =>
          simp only [if_true]
          rw [Action.ends_bind]
          exact goes rfl
  · cases asked

/-! ## A copy of a mail -/

/-- A board that is there, or is admitted. -/
def Available (settings : Settings) (creation : Creation) (gateway : Gateway) :
    Prop :=
  (gateway.files creation.boardId).hasBoard creation.boardId = true ∨
    settings.admitBoard 0 creation.system = true

/-- What a creation mail makes of the boards and of the main database. -/
structure Processed (settings : Settings) (mail : InboundMail)
    (before after : Gateway) : Prop where
  refused : (∀ creation, creationOf settings mail before.main.db =
      some creation → ¬ Available settings creation before) →
    after.files = before.files ∧ after.main.db = before.main.db
  carried : ∀ creation, creationOf settings mail before.main.db =
      some creation → Available settings creation before →
    Settled settings mail creation (after.files creation.boardId) ∧
      (Settled settings mail creation (before.files creation.boardId) →
        after.files = before.files) ∧
      after.main.db = { before.main.db with
        boardWhitelists := listed creation before.main.db.boardWhitelists }

theorem Processed.of_refused {after : Gateway}
    (unavailable : ∀ creation, creationOf settings mail gateway.main.db =
      some creation → ¬ Available settings creation gateway)
    (files : after.files = gateway.files)
    (main : after.main.db = gateway.main.db) :
    Processed settings mail gateway after where
  refused := fun _ => ⟨files, main⟩
  carried := fun creation asked available =>
    absurd available (unavailable creation asked)

theorem Processed.of_settled {after : Gateway}
    (asked : creationOf settings mail gateway.main.db = some creation)
    (available : Available settings creation gateway)
    (settled : Settled settings mail creation db)
    (idle : Settled settings mail creation (gateway.files creation.boardId) →
      db = gateway.files creation.boardId)
    (files : after.files = Function.update gateway.files creation.boardId db)
    (main : after.main.db = { gateway.main.db with
      boardWhitelists := listed creation gateway.main.db.boardWhitelists }) :
    Processed settings mail gateway after where
  refused := fun unavailable => absurd available (unavailable creation asked)
  carried := by
    intro other known _
    have same := Option.some.inj (asked.symm.trans known)
    subst same
    refine ⟨?_, fun before => ?_, main⟩
    · rw [files, Function.update_self]
      exact settled
    · rw [files, idle before, Function.update_eq_self]

theorem receiveNew_processes (calm : settings.env.Calm)
    (steady : Steady settings) (long : Unpadded mail)
    (homed : ∀ boardId, Homed boardId (gateway.files boardId)) :
    (receiveNew settings mail).Ends
      (fun _ next => Processed settings mail gateway next)
      (fun _ next => Processed settings mail gateway next) gateway := by
  cases asked : creationOf settings mail gateway.main.db with
  | none =>
      refine (receiveNew_refused calm long asked).mono ?_
        fun _ _ impossible => impossible.elim
      rintro _ next ⟨files, main⟩
      refine .of_refused (fun creation known => ?_) files main
      rw [asked] at known
      cases known
  | some creation =>
      apply receiveNew_creates calm long asked
      have admits : ∀ tick, settings.admitBoard tick creation.system =
          settings.admitBoard 0 creation.system :=
        fun tick => steady tick 0 creation.system
      have home : Homed creation.boardId
          (({ gateway with main := gateway.main.later } : Gateway).files
            creation.boardId) := homed creation.boardId
      apply ensureBoard_outcome home
      · intro known next replaces
        refine ⟨fun impossible => absurd impossible (by simp), fun _ => ?_⟩
        apply populateBoard_settles calm replaces known (homed creation.boardId)
        exact fun after last settled idle files main =>
          .of_settled asked (.inl known) settled idle files main
      · intro missing denied next replaces
        refine ⟨fun _ => ?_, fun impossible => absurd impossible (by simp)⟩
        refine .of_refused (fun other known available => ?_) ?_ replaces.2
        · have same := Option.some.inj (asked.symm.trans known)
          subst same
          rw [admits] at denied
          rcases available with has | admitted
          · rw [missing] at has
            cases has
          · rw [denied] at admitted
            cases admitted
        · rw [replaces.1, Function.update_eq_self]
      · rintro missing admitted db next ⟨opened, home⟩ replaces
        refine ⟨fun impossible => absurd impossible (by simp), fun _ => ?_⟩
        apply populateBoard_settles calm replaces opened home
        intro after last settled _ files main
        refine .of_settled asked (.inr (admits _ ▸ admitted)) settled ?_ files
          main
        intro before
        have has := before.opened
        rw [missing] at has
        cases has

theorem creationOf_congr {first second : Database}
    (same : second.systemDomains = first.systemDomains) :
    creationOf settings mail second = creationOf settings mail first := by
  simp only [creationOf, systemOf, same]

theorem replaced_replaced (board : String) (members : List String)
    (table : List (String × String)) :
    replaced board members (replaced board members table) =
      replaced board members table := by
  have gone : ((members.map fun member => (board, member)).eraseDups).filter
      (·.1 != board) = [] := by
    rw [List.filter_eq_nil_iff]
    intro row there
    rw [List.mem_eraseDups, List.mem_map] at there
    rcases there with ⟨member, _, same⟩
    simp [← same]
  rw [replaced, replaced, List.filter_append, List.filter_filter, gone,
    List.append_nil]
  simp only [Bool.and_self]

theorem listed_listed (creation : Creation) (table : List (String × String)) :
    listed creation (listed creation table) = listed creation table := by
  simp only [listed]
  cases whitelisted creation.members with
  | none => rfl
  | some emails => exact replaced_replaced _ _ table

theorem Processed.again {first second third : Gateway}
    (once : Processed settings mail first second)
    (twice : Processed settings mail second third) :
    third.files = second.files ∧ third.main.db = second.main.db := by
  by_cases available : ∃ creation, creationOf settings mail first.main.db =
      some creation ∧ Available settings creation first
  · rcases available with ⟨creation, asked, able⟩
    rcases once.carried creation asked able with ⟨settled, _, main⟩
    have still : creationOf settings mail second.main.db = some creation := by
      rw [← asked]
      exact creationOf_congr (by rw [main])
    rcases twice.carried creation still (.inl settled.opened) with
      ⟨_, idle, after⟩
    refine ⟨idle settled, ?_⟩
    rw [after, main, listed_listed]
  · have unable : ∀ creation, creationOf settings mail first.main.db =
        some creation → ¬ Available settings creation first :=
      fun creation asked able => available ⟨creation, asked, able⟩
    rcases once.refused unable with ⟨files, main⟩
    refine twice.refused fun creation asked able => ?_
    rw [main] at asked
    refine unable creation asked ?_
    rw [Available, ← files]
    exact able

theorem advance_processes (calm : settings.env.Calm)
    (steady : Steady settings) (new : creates mail) (long : Unpadded mail)
    (homed : ∀ boardId, Homed boardId (gateway.files boardId)) :
    Processed settings mail gateway (advance settings (.mail mail) gateway) := by
  have founds : intercept settings mail = receiveNew settings mail := by
    rw [creates] at new
    rw [intercept, if_pos new]
  rw [advance, founds]
  exact Action.Ends.after (receiveNew_processes calm steady long homed)

theorem Processed.later {before after : Gateway}
    (processed : Processed settings mail before after)
    (asked : creationOf settings mail before.main.db = some creation)
    (settled : Settled settings mail creation
      (before.files creation.boardId)) :
    after.files = before.files ∧
      (after.main.db = before.main.db ↔
        listed creation before.main.db.boardWhitelists =
          before.main.db.boardWhitelists) := by
  rcases processed.carried creation asked (.inl settled.opened) with
    ⟨_, idle, main⟩
  refine ⟨idle settled, ?_⟩
  rw [main]
  constructor
  · intro same
    have lists := congrArg Database.boardWhitelists same
    exact lists
  · intro same
    rw [same]

theorem run_homed {events : List Event} {first last : Gateway}
    (run : Run (Step settings) first events last)
    (homed : ∀ boardId, Homed boardId (first.files boardId)) :
    ∀ boardId, Homed boardId (last.files boardId) := by
  induction run with
  | nil state => exact homed
  | cons moved rest induction =>
      have still := moved.boards homed
      exact induction fun boardId => (still boardId).homed (homed boardId)

/-- A creation mail whose short id needs no padding does nothing when it comes
twice; a later copy changes at most the group whitelist. -/
theorem creation_repeated (settings : Settings) (main : World)
    {events : List Event} {gateway : Gateway} (mail : InboundMail)
    (run : Run (Step settings) (Gateway.start main) events gateway)
    (calm : settings.env.Calm) (steady : Steady settings)
    (new : creates mail) (long : Unpadded mail) :
    ((advance settings (.mail mail) (advance settings (.mail mail)
        gateway)).files = (advance settings (.mail mail) gateway).files ∧
      (advance settings (.mail mail) (advance settings (.mail mail)
        gateway)).main.db = (advance settings (.mail mail) gateway).main.db) ∧
    ∀ creation, creationOf settings mail gateway.main.db = some creation →
      Settled settings mail creation (gateway.files creation.boardId) →
        (advance settings (.mail mail) gateway).files = gateway.files ∧
        ((advance settings (.mail mail) gateway).main.db = gateway.main.db ↔
          listed creation gateway.main.db.boardWhitelists =
            gateway.main.db.boardWhitelists) := by
  have homed := run_homed run (homed_start main)
  have once := advance_processes calm steady new long homed
  have still := fun boardId =>
    (Step.boards homed (rfl : Step settings gateway (.mail mail) _) boardId).homed
      (homed boardId)
  have twice := advance_processes calm steady new long still
  exact ⟨once.again twice, fun creation asked settled =>
    once.later asked settled⟩

namespace Trial

/-- The owner's mail that creates a board with the given short id. -/
def creationMail (shortId : String) : InboundMail where
  subject := "[A2A] new " ++ shortId ++ ": Demo"
  sender := "own@x.org"
  toArr := ["orch@x.org", "ver@x.org"]
  ccArr := []
  body := teamDocument.1
  attachments := none

end Trial

open Trial in
/-- The copy of a mail that asks for `proj1` does nothing. -/
theorem creation_repeated_long :
    ((reached [teamDocument] [.mail (creationMail "proj1")]).files
        demoBoard).boards.rows.length = 1 ∧
      (reached [teamDocument] [.mail (creationMail "proj1"),
          .mail (creationMail "proj1")]).files =
        (reached [teamDocument] [.mail (creationMail "proj1")]).files := by
  have calm : (configured [teamDocument]).env.Calm := Surroundings.steady_calm _ _
  have steady : Steady (configured [teamDocument]) := fun _ _ _ => rfl
  exact ⟨by decide +kernel,
    (creation_repeated (configured [teamDocument]) (World.start Database.empty)
      (creationMail "proj1") (.nil _) calm steady (by decide +kernel)
      (by decide +kernel)).1.1⟩

open Trial in
/-- The copy of a mail that asks for `ab` creates another board. -/
theorem creation_duplicated :
    ¬ ∀ (settings : Settings) (main : World) (events : List Event)
      (gateway : Gateway) (mail : InboundMail),
      Run (Step settings) (Gateway.start main) events gateway →
        settings.env.Calm → Steady settings → creates mail →
          (advance settings (.mail mail) (advance settings (.mail mail)
            gateway)).files = (advance settings (.mail mail) gateway).files := by
  intro claimed
  have same := claimed (configured [teamDocument]) (World.start Database.empty) []
    _ (creationMail "ab") (.nil _) (Surroundings.steady_calm _ _)
    (fun _ _ _ => rfl) (by decide +kernel)
  have boards := congrArg (fun files => (files "abhij.a2a@x.org").boards.rows.length)
    same
  have once : ((reached [teamDocument] [.mail (creationMail "ab")]).files
      "abhij.a2a@x.org").boards.rows.length = 0 := by decide +kernel
  have twice : ((reached [teamDocument] [.mail (creationMail "ab"),
      .mail (creationMail "ab")]).files
        "abhij.a2a@x.org").boards.rows.length = 1 := by decide +kernel
  exact absurd (twice.symm.trans (boards.trans once)) (by decide)

end AimailGateway.Board
