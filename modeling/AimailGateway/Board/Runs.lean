import AimailGateway.Board.CommandEffects
import AimailGateway.Board.Handlers
import AimailGateway.Board.Interceptor
import AimailGateway.Storage.Rename

/-! # Runs of the boards

Everything that reaches a board: mails, requests, scans, and addresses that are
renamed, one at a time; no statement fails by a lock or by I/O. Each event
touches a board file in one of a few ways, and what is proved of runs is proved
by these cases.
-/

namespace AimailGateway.Board

open Library Fallible BoardDb

/-! ## Events -/

def renamedFile (settings : Settings) (old new : String) (db : BoardDb) :
    BoardDb :=
  if Storage.breaksLiteral old || Storage.breaksLiteral new then
    (settings.quotedRename old new db).1
  else db.renameMember old new

def renameFiles (settings : Settings) (old new : String) :
    Action Gateway AppError Unit :=
  fun gateway => (.ok (), { gateway with
    files := fun boardId => renamedFile settings old new (gateway.files boardId) })

/-- Rename an address everywhere. The callers refuse a new address that is in
use, so the two differ. -/
def renameAgentAddress (settings : Settings) (old new : String) :
    Action Gateway AppError Unit := do
  if old = new then Action.fail (.validation "address already registered")
  else
    onMain (Storage.renameAgentAddressRefs settings.env old new)
    renameFiles settings old new

inductive Event where
  | mail (mail : InboundMail)
  | request (segment memberEmail token : String) (request : Handlers.Request)
  | scanHeartbeats (boards : List String)
  | scanCompleted (boards : List String)
  | rename (old new : String)
  /-- What the rest of the gateway does to the main database. -/
  | elsewhere (main : World)

def advance (settings : Settings) (event : Event) (gateway : Gateway) :
    Gateway :=
  match event with
  | .mail mail => ((Interceptor.intercept settings mail).run gateway).2
  | .request segment memberEmail token request =>
      ((Handlers.handle settings segment memberEmail token request).run
        gateway).2
  | .scanHeartbeats boards =>
      ((Sweeper.scanStaleHeartbeats settings boards gateway.tick).run gateway).2
  | .scanCompleted boards =>
      ((Sweeper.scanCompletedBoards settings boards gateway.tick).run gateway).2
  | .rename old new => ((renameAgentAddress settings old new).run gateway).2
  | .elsewhere main => { gateway with main }

def Step (settings : Settings) (gateway : Gateway) (event : Event)
    (next : Gateway) : Prop :=
  advance settings event gateway = next

/-! ## How an event touches a board -/

def Carries (settings : Settings) (mail : InboundMail) (boardId : String)
    (cmd : A2aCommand) : Prop :=
  boardIdOf settings (Interceptor.recipient mail) = some boardId ∧
    ∃ rest, Text.afterStart "[A2A] " (Text.trim mail.subject) = some rest ∧
      Interceptor.commandOf settings boardId rest mail = some cmd

def Confirms (settings : Settings) (mail : InboundMail) (boardId : String)
    (kind : Interceptor.ConfirmType) (before : BoardDb) : Prop :=
  (boardIdOf settings (Interceptor.recipient mail)).isSome ∧
    (∃ after, Interceptor.confirmationOf settings mail =
      some (boardId, kind, after)) ∧
    Interceptor.isOwner (before.findMember boardId mail.sender) = true

structure Registers (boardId : String) (member : Member) : Prop where
  boardId : member.boardId = boardId
  named : member.email ≠ ""
  role : member.role ∈ Store.knownRoles

def mailPermissions (settings : Settings) (mail : InboundMail) :
    Option (List (String × List String)) :=
  Interceptor.givenPermissions (settings.parseJson mail.body)

/-- The tables after the permissions of a creation mail. -/
def initialised (given : Option (List (String × List String)))
    (db : BoardDb) : BoardDb :=
  (given.elim db db.addRolePermissions).seedDefaults

/-- A new board or none, and the members and permissions that follow. -/
structure Founded (settings : Settings) (mail : InboundMail) (boardId : String)
    (before after : BoardDb) : Prop where
  stages : ∃ created enrolled : BoardDb, ∃ members : List Member,
    (created = before ∨ ∃ board, board.id = boardId ∧ board.status = .active ∧
      before.createBoard board = .ok created) ∧
    (∀ member ∈ members, Registers boardId member) ∧
    created.upsertMembers members = .ok enrolled ∧
    (after = enrolled ∨
      after = initialised (mailPermissions settings mail) enrolled)

/-- Only the form in which a token is stored differs. -/
inductive Migrated (before after : BoardDb) : Prop where
  | kept (same : after = before)
  | hashed {boardId email hash salt : String}
      (same : after = before.migrateToken boardId email hash salt)

/-- Only rows of boards differ: each stays, or is archived. -/
structure Archived (before after : BoardDb) : Prop where
  members : after.members = before.members
  tasks : after.tasks = before.tasks
  taskEvents : after.taskEvents = before.taskEvents
  rolePermissions : after.rolePermissions = before.rolePermissions
  boards : ∃ change : BoardRecord → BoardRecord,
    after.boards.rows = before.boards.rows.map change ∧
      ∀ row, change row = row ∨
        (change row).id = row.id ∧ (change row).status = .archived

/-- A running task is blocked, any other one stays. -/
structure Swept (before after : BoardDb) : Prop where
  mapped : ∃ change, TasksMapped change before after ∧
    ∀ row ∈ before.tasks, change row = row ∨
      row.status = .running ∧ change row = { row with status := .blocked }

def heartbeatCommand (taskId : String) : A2aCommand where
  verb := "heartbeat"
  taskId := some taskId
  params := none

def requestNotifier (boardId : String) : Notifier where
  boardId := boardId
  boardShortId := ""
  boardEmail := ""

inductive Touched (settings : Settings) :
    Event → String → BoardDb → BoardDb → Prop where
  | idle (event : Event) (boardId : String) (db : BoardDb) :
      Touched settings event boardId db db
  | founded {mail : InboundMail} {boardId : String} {before after : BoardDb}
      (founded : Founded settings mail boardId before after) :
      Touched settings (.mail mail) boardId before after
  | commanded {mail : InboundMail} {boardId : String} {before after : BoardDb}
      {cmd : A2aCommand} {board : BoardRecord}
      (carried : Carries settings mail boardId cmd)
      (found : before.findBoard boardId = some board)
      (current : Interceptor.isPast board = false)
      (effect : Effect settings.host (Interceptor.notifierOf board) cmd
        mail.sender before after) :
      Touched settings (.mail mail) boardId before after
  | confirmed {mail : InboundMail} {boardId version now : String}
      {before : BoardDb} {kind : Interceptor.ConfirmType}
      (confirms : Confirms settings mail boardId kind before) :
      Touched settings (.mail mail) boardId before
        (before.setBoard boardId
          (Interceptor.confirmedBoard kind version mail.body now))
  | requested {segment memberEmail token boardId taskId member : String}
      {request : Handlers.Request} {before middle seeded after : BoardDb}
      (migrated : Migrated before middle) (seeds : Seeded middle seeded)
      (effect : Effect settings.host (requestNotifier boardId)
        (heartbeatCommand taskId) member seeded after) :
      Touched settings (.request segment memberEmail token request) boardId
        before after
  | swept {boards : List String} {boardId : String} {before after : BoardDb}
      (swept : Swept before after) :
      Touched settings (.scanHeartbeats boards) boardId before after
  | archived {boards : List String} {boardId : String} {before after : BoardDb}
      (archived : Archived before after) :
      Touched settings (.scanCompleted boards) boardId before after
  | renamed {old new boardId : String} {before : BoardDb}
      (different : old ≠ new) :
      Touched settings (.rename old new) boardId before
        (renamedFile settings old new before)

/-! ## Rules -/

variable {settings : Settings} {gateway : Gateway} {event : Event}
  {world : BoardWorld} {boardId : String}
  {tick : Nat} {before : Gateway}
  {first second third : BoardDb} {request : Handlers.Request}
  {boards every : List String}

/-- However an action ends, it touches every file as the event may. -/
def Touches (settings : Settings) (event : Event) (before : Gateway)
    (action : Action Gateway AppError α) (gateway : Gateway) : Prop :=
  action.Ends
    (fun _ next => ∀ boardId,
      Touched settings event boardId (before.files boardId)
        (next.files boardId))
    (fun _ next => ∀ boardId,
      Touched settings event boardId (before.files boardId)
        (next.files boardId))
    gateway

theorem Touches.after {action : Action Gateway AppError α}
    (touches : Touches settings event before action gateway) (boardId : String) :
    Touched settings event boardId (before.files boardId)
      ((action.run gateway).2.files boardId) := by
  rw [Touches] at touches
  exact Action.Ends.after touches boardId

theorem touches_return {value : α} :
    Touches settings event gateway (pure value) gateway :=
  fun boardId => .idle event boardId (gateway.files boardId)

theorem touched_own
    (own : Touched settings event boardId (gateway.files boardId) world.db) :
    ∀ other, Touched settings event other (gateway.files other)
      ((gateway.withBoard boardId world).files other) := by
  intro other
  by_cases same : other = boardId
  · subst same
    rw [Gateway.withBoard_own]
    exact own
  · rw [Gateway.withBoard_other gateway world same]
    exact .idle event other (gateway.files other)

theorem touches_onBoard {command : Command α}
    (leaves : Leaves settings.host command
      (Touched settings event boardId (gateway.files boardId))
      (gateway.boardWorld boardId)) :
    Touches settings event gateway (onBoard settings boardId command)
      gateway := by
  rw [Touches, ends_onBoard]
  exact leaves.mono (fun _ world own => touched_own own)
    fun _ world own => touched_own own

/-! ## Commands and confirmations -/

section Mail

variable {mail : InboundMail}
  {failed : AppError → Gateway → Prop} {world : BoardWorld}
  {before : Gateway}
  {ok : String → Gateway → Prop} {host : Host}

open Interceptor

theorem receiveCommand_touches {boardId rest : String}
    (sent : boardIdOf settings (recipient mail) = some boardId)
    (read : Text.afterStart "[A2A] " (Text.trim mail.subject) = some rest) :
    Touches settings (.mail mail) gateway
      (receiveCommand settings mail boardId rest) gateway := by
  rw [receiveCommand, Touches, Action.ends_bind, ends_onBoard,
    Store.ends_selectBoard]
  simp only [Gateway.withBoard_self, Gateway.boardWorld_db]
  cases found : gateway.files boardId |>.findBoard boardId with
  | none => exact touches_return
  | some board =>
      simp only
      split
      · exact touches_return
      · split
        · exact touches_return
        · next current =>
            cases given : commandOf settings boardId rest mail with
            | none => exact fun other => .idle _ other _
            | some cmd =>
                simp only [Action.ends_bind, Action.ends_ignore,
                  Action.ends_pure]
                refine touches_onBoard (executeCommand_affects.mono ?_ ?_)
                · exact fun _ _ effect => .commanded ⟨sent, rest, read, given⟩
                    found (Bool.not_eq_true _ ▸ current) effect
                · exact fun _ _ effect => .commanded ⟨sent, rest, read, given⟩
                    found (Bool.not_eq_true _ ▸ current) effect

theorem receiveConfirmation_touches
    (sent : (boardIdOf settings (recipient mail)).isSome) :
    Touches settings (.mail mail) gateway (receiveConfirmation settings mail)
      gateway := by
  rw [receiveConfirmation]
  cases given : confirmationOf settings mail with
  | none => exact touches_return
  | some parsed =>
      rcases parsed with ⟨boardId, kind, after⟩
      simp only
      rw [Touches, Action.ends_bind]
      refine touches_onBoard ?_
      rw [confirmAs, leaves_sequence, Store.ends_getMember, leaves_ite]
      refine ⟨fun owner => ?_, fun _ => .idle _ _ _⟩
      rw [confirm, leaves_ite]
      refine ⟨fun _ => ?_, fun _ => .idle _ _ _⟩
      rw [setConfirmed]
      refine leaves_utcNow ?_
      exact .confirmed ⟨sent, ⟨after, given⟩, owner⟩

/-! ## Creation -/

theorem registerMember_ends
    {boardId email role displayName : String} (named : email ≠ "")
    (known : role ∈ Store.knownRoles) {ok : Unit → BoardWorld → Prop}
    (skipped : ∀ later, later.db = world.db → ok () later)
    (written : ∀ member later, Registers boardId member →
      world.db.upsertMember member = .ok later.db → ok () later) :
    (Command.run host
      (registerMember host boardId email role displayName)).Ends ok
        (fun _ _ => False) world := by
  rw [registerMember, Command.ends_sequence, Store.ends_getMember]
  cases world.db.findMember boardId email with
  | some member => exact skipped world rfl
  | none =>
      simp only
      rw [Command.ends_sequence, Store.ends_generateBoardToken,
        Command.ends_sequence, Store.ends_utcNow, Command.ends_ignored]
      apply addMember_ends
      · exact fun error later same => skipped later same
      · intro stored later sameEmail sameRole sameBoard upserted
        refine written stored later ⟨sameBoard, ?_, ?_⟩ upserted
        · rw [sameEmail]
          exact named
        · rw [sameRole]
          exact known

theorem registerMembers_ends {boardId : String}
    {entries : List Json} {start : BoardDb} {earlier : List Member}
    (asked : ∀ member ∈ earlier, Registers boardId member)
    (written : start.upsertMembers earlier = .ok world.db) :
    (Command.run host (registerMembers host boardId entries)).Ends
      (fun _ later => ∃ members, (∀ member ∈ members,
        Registers boardId member) ∧
        start.upsertMembers members = .ok later.db)
      (fun _ _ => False) world := by
  induction entries generalizing world earlier with
  | nil => exact ⟨earlier, asked, written⟩
  | cons entry rest induction =>
      simp only [registerMembers]
      rw [Command.ends_ite]
      refine ⟨fun _ => ⟨earlier, asked, written⟩, fun role => ?_⟩
      rw [Command.ends_ite]
      refine ⟨fun _ => induction asked written, fun named => ?_⟩
      rw [Command.ends_sequence]
      have known := List.contains_iff_mem.mp (Bool.not_eq_false _ ▸ role)
      refine registerMember_ends named known ?_ ?_
      · intro later same
        rw [Command.ends_sequence]
        exact induction asked (same ▸ written)
      · intro member later registers upserted
        rw [Command.ends_sequence]
        have all : ∀ listed ∈ earlier ++ [member], Registers boardId listed := by
          rw [List.forall_mem_append, List.forall_mem_singleton]
          exact ⟨asked, registers⟩
        exact induction all (upsertMembers_append written upserted)

theorem initPermissions_ends {given : Option (List (String × List String))} :
    (Command.run host (initPermissions given)).Ends
      (fun _ later => later.db = initialised given world.db)
      (fun _ _ => False) world := by
  cases given with
  | none =>
      simp only [initPermissions]
      rw [Command.ends_ignored, Store.ends_seedDefaultRolePermissions]
      rfl
  | some permissions =>
      simp only [initPermissions]
      rw [Command.ends_sequence, Command.ends_ignored,
        Store.ends_insertRolePermissions, Command.ends_ignored,
        Store.ends_seedDefaultRolePermissions]
      rfl

theorem sanitizeShortId_ends {raw : String}
    (ends : ∀ shortId tick, ok shortId { gateway with tick }) :
    (sanitizeShortId settings raw).Ends ok failed gateway := by
  unfold sanitizeShortId
  exact ends _ _

theorem admitBoard_ends {system : String} {ok : Bool → Gateway → Prop}
    (ends : ∀ admitted tick, ok admitted { gateway with tick }) :
    (admitBoard settings system).Ends ok failed gateway :=
  ends _ _

theorem orchestratorSystem_ends {orchEmail : String}
    (ends : ∀ system main, ok system { gateway with main }) :
    (orchestratorSystem settings orchEmail).Ends ok failed gateway := by
  rw [orchestratorSystem, Action.ends_bind, Action.ends_attempt]
  exact onMain_ends (fun _ main _ => ends _ main) fun _ main _ => ends _ main

structure AtStage (boardId : String) (stage : BoardDb → Prop)
    (before after : Gateway) : Prop where
  own : stage (after.files boardId)
  others : ∀ other, other ≠ boardId → after.files other = before.files other

theorem AtStage.onBoard {boardId : String} {stage : BoardDb → Prop}
    {earlier : BoardDb → Prop} (start : AtStage boardId earlier before gateway)
    (reached : stage world.db) :
    AtStage boardId stage before (gateway.withBoard boardId world) where
  own := by
    rw [Gateway.withBoard_own]
    exact reached
  others := fun other different => by
    rw [Gateway.withBoard_other gateway world different]
    exact start.others other different

theorem AtStage.touched {boardId : String}
    (staged : AtStage boardId
      (Touched settings event boardId (before.files boardId)) before gateway) :
    ∀ other, Touched settings event other (before.files other)
      (gateway.files other) := by
  intro other
  by_cases same : other = boardId
  · subst same
    exact staged.own
  · rw [staged.others other same]
    exact .idle event other (before.files other)

def Opened (boardId : String) (before created : BoardDb) : Prop :=
  created = before ∨ ∃ board, board.id = boardId ∧ board.status = .active ∧
    before.createBoard board = .ok created

theorem ensureBoard_ends {id shortId boardEmail description system : String}
    (start : AtStage id (· = before.files id) before gateway) :
    (ensureBoard settings id shortId boardEmail description system).Ends
      (fun _ next => AtStage id (Opened id (before.files id)) before next)
      (fun _ _ => False) gateway := by
  have still : ∀ world : BoardWorld, world.db = gateway.files id →
      AtStage id (Opened id (before.files id)) before
        (gateway.withBoard id world) :=
    fun world same => start.onBoard (.inl (same.trans start.own))
  rw [ensureBoard, Action.ends_bind, ends_onBoard, Store.ends_selectBoard]
  cases (gateway.boardWorld id).db.findBoard id with
  | some board => exact still _ rfl
  | none =>
      simp only [Gateway.withBoard_self]
      rw [Action.ends_bind]
      refine admitBoard_ends fun admitted tick => ?_
      have later : AtStage id (· = before.files id) before
          { gateway with tick } := ⟨start.own, start.others⟩
      cases admitted with
      | true =>
          simp only [if_true]
          rw [Action.ends_bind, ends_onBoard, insertBoard,
            Command.ends_sequence, Store.ends_utcNow, Command.ends_ignored,
            Store.createBoard, Command.ends_sequence, Store.ends_send]
          refine Command.ends_commit.mpr ⟨fun db created => ?_, fun _ _ => ?_⟩
          · have inserted := created
            simp only [BoardWorld.tock_db, Gateway.boardWorld_db,
              start.own] at inserted
            refine later.onBoard (.inr ⟨_, ?_, ?_, inserted⟩)
            · rfl
            · rfl
          · exact later.onBoard (.inl start.own)
      | false => exact ⟨.inl start.own, start.others⟩

theorem populateBoard_touches
    {boardId boardEmail : String} {members : List Json}
    (start : AtStage boardId (Opened boardId (before.files boardId)) before
      gateway) :
    Touches settings (.mail mail) before
      (populateBoard settings boardId boardEmail (settings.parseJson mail.body)
        members) gateway := by
  have nobody : ∀ member ∈ ([] : List Member), Registers boardId member :=
    fun _ impossible => absurd impossible List.not_mem_nil
  rw [populateBoard, Touches, Action.ends_bind, ends_onBoard]
  refine (registerMembers_ends nobody rfl).mono ?_
    fun _ _ impossible => impossible.elim
  rintro emails world ⟨registered, asked, written⟩
  have stage : AtStage boardId (· = world.db) before
      (gateway.withBoard boardId world) := start.onBoard rfl
  cases emails with
  | none =>
      refine (start.onBoard ?_).touched
      exact .founded ⟨_, _, registered, start.own, asked, written, .inl rfl⟩
  | some emails =>
      simp only
      rw [Action.ends_bind, Action.ends_ignore]
      have last : ∀ main : World, (onBoard settings boardId (initPermissions
          (givenPermissions (settings.parseJson mail.body)))).Ends
          (fun _ next => ∀ other, Touched settings (.mail mail) other
            (before.files other) (next.files other))
          (fun _ next => ∀ other, Touched settings (.mail mail) other
            (before.files other) (next.files other))
          { gateway.withBoard boardId world with main } := by
        intro main
        rw [ends_onBoard]
        refine initPermissions_ends.mono ?_ fun _ _ impossible => impossible.elim
        intro _ later initial
        have moved : AtStage boardId (· = world.db) before
            { gateway.withBoard boardId world with main } :=
          ⟨stage.own, stage.others⟩
        refine (moved.onBoard ?_).touched
        refine .founded ⟨_, _, registered, start.own, asked, written, .inr ?_⟩
        rw [initial]
        simp only [Gateway.boardWorld_db]
        exact congrArg _ stage.own
      exact onMain_ends (fun _ main _ => last main) fun _ main _ => last main

theorem receiveNew_touches :
    Touches settings (.mail mail) gateway (receiveNew settings mail)
      gateway := by
  have idle : ∀ next : Gateway, next.files = gateway.files →
      ∀ boardId, Touched settings (.mail mail) boardId (gateway.files boardId)
        (next.files boardId) := by
    intro next same boardId
    rw [same]
    exact .idle _ _ _
  rw [receiveNew]
  simp only
  rw [Touches, Action.ends_bind]
  apply sanitizeShortId_ends
  intro shortId tick
  split
  · exact idle _ rfl
  · split
    · exact idle _ rfl
    · rw [Action.ends_bind]
      apply orchestratorSystem_ends
      intro system main
      split
      · exact idle _ rfl
      · rw [Action.ends_bind]
        have untouched : ∀ boardId, AtStage boardId
            (· = gateway.files boardId) gateway { gateway with tick, main } :=
          fun _ => ⟨rfl, fun _ _ => rfl⟩
        refine (ensureBoard_ends (untouched _)).mono ?_
          fun _ _ impossible => impossible.elim
        intro opened next staged
        cases opened with
        | true =>
            simp only [if_true]
            rw [Action.ends_bind]
            exact populateBoard_touches staged
        | false =>
            have founded : Founded settings mail _ _ (next.files _) :=
              ⟨_, _, [], staged.own, fun _ impossible =>
                absurd impossible List.not_mem_nil, rfl, .inl rfl⟩
            exact AtStage.touched ⟨.founded founded, staged.others⟩

theorem intercept_touches :
    Touches settings (.mail mail) gateway (intercept settings mail) gateway := by
  rw [intercept]
  -- The literal prefix would be compared character by character.
  generalize Text.startsWith "[A2A] new " (Text.trim mail.subject) = starts
  split
  · exact receiveNew_touches
  · cases sent : boardIdOf settings (recipient mail) with
    | none => exact touches_return
    | some boardId =>
        simp only
        cases read : Text.afterStart "[A2A] " (Text.trim mail.subject) with
        | none => exact receiveConfirmation_touches (by simp [sent])
        | some rest => exact receiveCommand_touches sent read

end Mail

/-! ## Requests -/

theorem verifyMemberTokenCfg_ends {host : Host}
    {boardId token memberEmail : String} {allowPlaintext : Bool} :
    (Command.run host (Store.verifyMemberTokenCfg host boardId token memberEmail
      allowPlaintext)).Ends (fun _ later => Migrated world.db later.db)
      (fun _ _ => False) world := by
  rw [Store.verifyMemberTokenCfg, Command.ends_ite]
  refine ⟨fun _ => .kept rfl, fun _ => ?_⟩
  rw [Command.ends_sequence, Store.ends_getMember]
  cases world.db.findMember boardId memberEmail with
  | none => exact .kept rfl
  | some row =>
      simp only
      split
      · exact .kept rfl
      · rw [Command.ends_ite]
        exact ⟨fun _ => .kept rfl, fun _ => .kept rfl⟩
      · rw [Command.ends_ite]
        exact ⟨fun _ => .hashed rfl, fun _ => .kept rfl⟩

theorem authorize_ends {boardId token memberEmail verb : String} :
    (Command.run settings.host
      (Handlers.authorize settings boardId token memberEmail verb)).Ends
      (fun _ later => ∃ middle, Migrated world.db middle ∧
        Seeded middle later.db)
      (fun _ _ => False) world := by
  rw [Handlers.authorize, Command.ends_sequence]
  refine verifyMemberTokenCfg_ends.mono ?_ fun _ _ impossible => impossible
  intro verified next migrated
  cases verified with
  | none => exact ⟨next.db, migrated, seeded_self⟩
  | some email =>
      simp only
      rw [Command.ends_sequence, Store.ends_getMember]
      cases next.db.findMember boardId email with
      | none => exact ⟨next.db, migrated, seeded_self⟩
      | some member =>
          simp only
          rw [Command.ends_sequence, Store.ends_checkRolePermission,
            Command.ends_ite]
          have same : Seeded next.db next.db := seeded_self
          have seeds := same.checked member.role
          exact ⟨fun _ => ⟨next.db, migrated, seeds⟩,
            fun _ => ⟨next.db, migrated, seeds⟩⟩

theorem answer_reads {host : Host} {boardId member : String}
    (reading : ∀ taskId, request ≠ .postHeartbeat taskId) :
    Reads host (Handlers.answer boardId member request) := by
  cases request with
  | listTasks status assignee =>
      exact reads_sequence (fun _ => rfl) fun _ => reads_return ()
  | listMembers =>
      refine reads_sequence ?_ fun _ => reads_return ()
      exact reads_sequence (fun _ => rfl) fun _ => reads_return _
  | listRoles =>
      refine reads_sequence ?_ fun _ => reads_return ()
      exact reads_sequence (fun _ => rfl) fun _ => reads_return _
  | getTask taskId =>
      refine reads_sequence ?_ fun _ => reads_return ()
      refine reads_sequence (reads_getTask taskId) fun task => ?_
      exact reads_sequence (reads_parentSummaries task _) fun _ => reads_return _
  | postHeartbeat taskId => exact absurd rfl (reading taskId)
  | boardStatus =>
      refine reads_sequence ?_ fun _ => reads_return ()
      refine reads_sequence ?_ fun board => ?_
      · intro world
        rw [Leaves, Store.ends_getBoard]
        exact ⟨fun _ _ => rfl, fun _ => rfl⟩
      · exact reads_sequence (fun _ => rfl) fun tasks => reads_return _

theorem handle_touches {segment memberEmail token : String} :
    Touches settings (.request segment memberEmail token request) gateway
      (Handlers.handle settings segment memberEmail token request) gateway := by
  rw [Handlers.handle]
  refine touches_onBoard ?_
  rw [Handlers.serve, leaves_sequence]
  refine authorize_ends.mono ?_ fun _ _ impossible => impossible.elim
  rintro authorised next ⟨middle, migrated, seeds⟩
  have requested : ∀ (taskId member : String) (after : BoardDb),
      Effect settings.host (requestNotifier
        (Handlers.resolveBoardPathSegment settings segment))
        (heartbeatCommand taskId) member next.db after →
      Touched settings (.request segment memberEmail token request)
        (Handlers.resolveBoardPathSegment settings segment)
        (gateway.files (Handlers.resolveBoardPathSegment settings segment))
        after :=
    fun _ _ _ effect => .requested migrated seeds effect
  cases authorised with
  | none => exact requested "" "" _ (.kept seeded_self)
  | some member =>
      simp only
      by_cases reading : ∀ taskId, request ≠ .postHeartbeat taskId
      · refine (answer_reads reading next).mono ?_ ?_
        · exact fun _ _ same => requested "" "" _ (.kept (.inl same))
        · exact fun _ _ same => requested "" "" _ (.kept (.inl same))
      · rw [not_forall] at reading
        rcases reading with ⟨taskId, beats⟩
        rw [not_not] at beats
        subst beats
        have affects : Affects settings.host (requestNotifier
            (Handlers.resolveBoardPathSegment settings segment))
            (heartbeatCommand taskId) member next
            (Awareness.heartbeat taskId member) := heartbeat_affects rfl rfl
        refine affects.mono ?_ ?_
        · exact fun _ _ effect => requested taskId member _ effect
        · exact fun _ _ effect => requested taskId member _ effect

/-! ## Scans -/

theorem Swept.refl (db : BoardDb) : Swept db db :=
  ⟨id, ⟨rfl, rfl, rfl, rfl, (List.map_id _).symm⟩, fun _ _ => .inl rfl⟩

theorem Swept.trans (earlier : Swept first second)
    (later : Swept second third) : Swept first third := by
  rcases earlier with ⟨change, mapped, each⟩
  rcases later with ⟨next, mappedNext, eachNext⟩
  refine ⟨fun row => next (change row), mapped.trans mappedNext, ?_⟩
  intro row there
  have after := eachNext _ (mapped.mem.mpr ⟨row, there, rfl⟩)
  rcases each row there with same | ⟨running, blocked⟩
  · rw [same] at after
    simp only [same]
    exact after
  · rw [blocked] at after
    simp only [blocked]
    rcases after with same | ⟨impossible, _⟩
    · exact .inr ⟨running, same⟩
    · cases impossible

theorem listTasks_running {db : BoardDb} {task : Task}
    (listed : task ∈ db.listTasks boardId (some "running") none) :
    ∃ row ∈ db.tasks, row.status = .running ∧ taskFromRow row = task := by
  rw [BoardDb.listTasks, List.mem_map] at listed
  rcases listed with ⟨row, selected, read⟩
  rw [Table.mem_select] at selected
  refine ⟨row, selected.1, ?_, read⟩
  have text : row.boardId = boardId ∧ "running" = row.status.toText := by
    simpa using selected.2
  cases status : row.status with
  | running => rfl
  | _ =>
      rw [status] at text
      exact absurd text.2 (by decide)

theorem blockStale_rows :
    (Command.run settings.host (Sweeper.blockStale settings tick boardId)).Ends
      (fun _ later => ∃ change, TasksMapped change world.db later.db ∧
        ∀ row ∈ world.db.tasks, change row = row ∨
          (row.status = .running ∧ Sweeper.isStale settings tick
            settings.heartbeatStale row.updatedAt = true) ∧
            change row = { row with status := .blocked })
      (fun _ _ => False) world := by
  rw [Sweeper.blockStale, Command.ends_sequence, Store.ends_listTasks]
  let fits (row changed : Task) : Prop := changed = { row with status := .blocked }
  have distinct : (world.db.listTasks boardId (some "running") none).Pairwise
      (fun first second => first.id ≠ second.id) := by
    rw [BoardDb.listTasks, List.pairwise_map]
    refine List.Pairwise.imp ?_ (world.db.tasks.distinct.filter _)
    intro first second free same
    rw [Task.conflict, beq_eq_false_iff_ne] at free
    exact free same
  refine (ends_rounds _ fits (distinct.filter _) ?_ ?_).mono ?_
    fun _ _ impossible => impossible
  · intro task member
    rcases listTasks_running (List.mem_filter.mp member).1 with
      ⟨row, there, _, read⟩
    exact ⟨row, there, read⟩
  · intro task member next assigned
    rw [Command.ends_ignored, Store.ends_updateTask]
    refine ⟨fun db updated => ?_, fun error failing => ?_⟩
    · refine ⟨_, updateTask_mapped updated,
        fun row other => taskChange_other other, ?_⟩
      intro row read
      subst read
      rw [taskChange_read]
      exact ⟨rfl, rfl⟩
    · have succeeds : ∃ after,
          next.db.updateTask { task with status := .blocked } = .ok after :=
        updateTask_ok assigned
      rcases succeeds with ⟨after, updates⟩
      rw [updates] at failing
      cases failing
  · rintro _ later ⟨change, mapped, each⟩
    refine ⟨change, mapped, fun row there => ?_⟩
    by_cases listed : taskFromRow row ∈
        (world.db.listTasks boardId (some "running") none).filter fun task =>
          Sweeper.isStale settings tick settings.heartbeatStale task.updatedAt
    · rcases listTasks_running (List.mem_filter.mp listed).1 with
        ⟨origin, known, running, read⟩
      have same : origin = row :=
        Tasks.eq_of_id known there (by rw [← taskFromRow_id, read]; rfl)
      subst same
      have stale : Sweeper.isStale settings tick settings.heartbeatStale
          origin.updatedAt = true := (List.mem_filter.mp listed).2
      exact .inr ⟨⟨running, stale⟩, (each origin there).1 listed⟩
    · exact .inl ((each row there).2 listed)

theorem blockStale_ends :
    (Command.run settings.host (Sweeper.blockStale settings tick boardId)).Ends
      (fun _ later => Swept world.db later.db) (fun _ _ => False) world := by
  refine blockStale_rows.mono ?_ fun _ _ impossible => impossible
  rintro _ later ⟨change, mapped, each⟩
  refine ⟨change, mapped, fun row there => ?_⟩
  exact (each row there).imp_right fun blocked => ⟨blocked.1.1, blocked.2⟩

theorem scanStaleHeartbeats_touches
    (start : ∀ boardId, Swept (before.files boardId) (gateway.files boardId)) :
    Touches settings (.scanHeartbeats every) before
      (Sweeper.scanStaleHeartbeats settings boards tick) gateway := by
  induction boards generalizing gateway with
  | nil => exact fun boardId => .swept (start boardId)
  | cons boardId rest induction =>
      rw [Sweeper.scanStaleHeartbeats, Touches, Action.ends_bind, ends_onBoard]
      refine blockStale_ends.mono ?_ fun _ _ impossible => impossible.elim
      intro _ world swept
      refine induction fun other => ?_
      by_cases same : other = boardId
      · subst same
        rw [Gateway.withBoard_own]
        exact (start other).trans swept
      · rw [Gateway.withBoard_other gateway world same]
        exact start other

theorem Archived.refl (db : BoardDb) : Archived db db :=
  ⟨rfl, rfl, rfl, rfl, id, (List.map_id _).symm, fun _ => .inl rfl⟩

theorem Archived.trans
    (earlier : Archived first second) (later : Archived second third) :
    Archived first third where
  members := later.members.trans earlier.members
  tasks := later.tasks.trans earlier.tasks
  taskEvents := later.taskEvents.trans earlier.taskEvents
  rolePermissions := later.rolePermissions.trans earlier.rolePermissions
  boards := by
    rcases earlier.boards with ⟨change, rows, each⟩
    rcases later.boards with ⟨next, rowsNext, eachNext⟩
    refine ⟨fun row => next (change row), ?_, fun row => ?_⟩
    · rw [rowsNext, rows, List.map_map]
      rfl
    · rcases eachNext (change row) with same | ⟨sameId, status⟩
      · simp only [same]
        exact each row
      · refine .inr ⟨sameId.trans ?_, status⟩
        rcases each row with same | ⟨kept, _⟩
        · rw [same]
        · exact kept

theorem archiveCompleted_ends :
    (Command.run settings.host
      (Sweeper.archiveCompleted settings tick boardId)).Ends
      (fun _ later => Archived world.db later.db) (fun _ _ => False) world := by
  rw [Sweeper.archiveCompleted, Command.ends_sequence, Store.ends_selectBoard]
  cases world.db.findBoard boardId with
  | none => exact Archived.refl world.db
  | some board =>
      simp only
      rw [Command.ends_ite]
      refine ⟨fun _ => ?_, fun _ => Archived.refl world.db⟩
      rw [Store.archiveBoard, Command.ends_sequence, Store.ends_utcNow,
        Store.ends_send]
      refine ⟨rfl, rfl, rfl, rfl, _, rfl, fun row => ?_⟩
      rw [boardSet]
      split
      · exact .inr ⟨rfl, rfl⟩
      · exact .inl rfl

theorem scanCompletedBoards_touches
    (start : ∀ boardId,
      Archived (before.files boardId) (gateway.files boardId)) :
    Touches settings (.scanCompleted every) before
      (Sweeper.scanCompletedBoards settings boards tick) gateway := by
  induction boards generalizing gateway with
  | nil => exact fun boardId => .archived (start boardId)
  | cons boardId rest induction =>
      rw [Sweeper.scanCompletedBoards, Touches, Action.ends_bind, ends_onBoard]
      refine archiveCompleted_ends.mono ?_ fun _ _ impossible => impossible.elim
      intro _ world archived
      refine induction fun other => ?_
      by_cases same : other = boardId
      · subst same
        rw [Gateway.withBoard_own]
        exact (start other).trans archived
      · rw [Gateway.withBoard_other gateway world same]
        exact start other

/-! ## All events -/

theorem renameAgentAddress_touches {old new : String} :
    Touches settings (.rename old new) gateway
      (renameAgentAddress settings old new) gateway := by
  rw [renameAgentAddress]
  split
  · exact fun boardId => .idle _ boardId _
  · next different =>
      rw [Touches, Action.ends_bind]
      apply onMain_ends
      · exact fun _ main _ boardId => .renamed different
      · exact fun _ main _ boardId => .idle _ boardId _

theorem advance_touches (settings : Settings) (event : Event)
    (gateway : Gateway) (boardId : String) :
    Touched settings event boardId (gateway.files boardId)
      ((advance settings event gateway).files boardId) := by
  cases event with
  | mail mail =>
      rw [advance]
      exact Touches.after intercept_touches boardId
  | request segment memberEmail token request =>
      rw [advance]
      exact Touches.after handle_touches boardId
  | scanHeartbeats boards =>
      have unswept : ∀ other, Swept (gateway.files other) (gateway.files other) :=
        fun other => .refl _
      exact Touches.after (scanStaleHeartbeats_touches unswept) boardId
  | scanCompleted boards =>
      have unarchived : ∀ other,
          Archived (gateway.files other) (gateway.files other) :=
        fun other => .refl _
      exact Touches.after (scanCompletedBoards_touches unarchived) boardId
  | rename old new =>
      rw [advance]
      exact Touches.after renameAgentAddress_touches boardId
  | elsewhere main => exact .idle _ boardId _

/-! ## A gateway to try -/

theorem Relabelled.refl (db : BoardDb) : Relabelled db db where
  boards := ⟨id, (List.map_id _).symm, fun _ => rfl⟩
  tasks := ⟨id, (List.map_id _).symm, fun _ => rfl⟩
  taskEvents := ⟨id, (List.map_id _).symm, fun _ => rfl⟩
  rolePermissions := rfl

namespace Trial

/-- A constant clock; a token tells the moment it was made. -/
def host : Host where
  now := fun _ => "2026-01-01T00:00:00+00:00"
  randomBytes := fun tick _ => UInt8.ofNat tick
  sha256 := fun text => text.toList.flatMap fun character =>
    [UInt8.ofNat (character.toNat / 65536), UInt8.ofNat (character.toNat / 256),
      UInt8.ofNat character.toNat]
  toText := fun _ => ""
  isRfc3339 := fun _ => true

def quoted (text : String) : String := "\"" ++ text ++ "\""

def jsonField (key value : String) : String := quoted key ++ ":" ++ value

def jsonObject (fields : List String) : String :=
  "\x7b" ++ String.intercalate "," fields ++ "\x7d"

def jsonArray (elements : List String) : String :=
  "[" ++ String.intercalate "," elements ++ "]"

/-- A list of objects of texts under one key, as text and as a document. -/
def listed (key : String) (entries : List (List (String × String))) :
    String × Json :=
  (jsonObject [jsonField key (jsonArray (entries.map fun entry =>
      jsonObject (entry.map fun field => jsonField field.1 (quoted field.2))))],
    .object [(key, .array (entries.map fun entry =>
      .object (entry.map fun field => (field.1, .string field.2))))])

def memberEntry (email role : String) : List (String × String) :=
  [("email", email), ("role", role)]

/-- An orchestrator, a verifier, a worker and an owner. -/
def team : List (List (String × String)) :=
  [memberEntry "orch@x.org" "orchestrator",
    memberEntry "ver@x.org" "verifier", memberEntry "work@x.org" "worker",
    memberEntry "own@x.org" "owner"]

def teamDocument : String × Json := listed "members" team

/-- One task of the worker, without a reviewer. -/
def plainTask : String × Json :=
  listed "tasks" [[("title", "t"), ("assignee", "work@x.org")]]

/-- Settings with a parser that knows the given documents. -/
def configured (documents : List (String × Json)) : Settings where
  host := host
  env := Surroundings.steady 0 "uuid"
  parseJson := fun text => documents.lookup text
  digest := id
  random := fun tick => tick % 36
  admitBoard := fun _ _ => true
  elapsed := fun _ _ => some 0
  allowPlaintext := true
  heartbeatStale := 900
  archiveAfter := 86400
  quotedRename := fun _ _ db => ⟨db, .refl db⟩

def demoBoard : String := "proj1.a2a@x.org"

/-- The owner's mail that creates the board. -/
def creation (document : String × Json) : Event :=
  .mail {
    subject := "[A2A] new proj1: Demo"
    sender := "own@x.org"
    toArr := ["orch@x.org", "ver@x.org"]
    ccArr := []
    body := document.1
    attachments := none }

def toBoard (sender subject : String) (document : String × Json) : Event :=
  .mail {
    subject
    sender
    toArr := [demoBoard]
    ccArr := []
    body := document.1
    attachments := none }

/-- An object of texts. -/
def fields (entries : List (String × String)) : String × Json :=
  (jsonObject (entries.map fun field => jsonField field.1 (quoted field.2)),
    .object (entries.map fun field => (field.1, .string field.2)))

def noDocument : String × Json := ("", .null)

/-- The gateway after events from a start without boards. -/
def reached (documents : List (String × Json)) (events : List Event) : Gateway :=
  events.foldl (fun gateway event => advance (configured documents) event gateway)
    (Gateway.start (World.start Database.empty))

theorem reached_run (documents : List (String × Json)) (events : List Event) :
    Run (Step (configured documents))
      (Gateway.start (World.start Database.empty)) events
      (reached documents events) := by
  rw [reached]
  generalize Gateway.start (World.start Database.empty) = first
  induction events generalizing first with
  | nil => exact .nil first
  | cons event rest induction => exact .cons rfl (induction _)

end Trial

end AimailGateway.Board
