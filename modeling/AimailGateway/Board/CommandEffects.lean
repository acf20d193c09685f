import AimailGateway.Board.HandlerEffects

/-! # The effect of a command

The verbs that finish a task or work on a whole board, the queries, and the
dispatch to all of them.
-/

namespace AimailGateway.Board

open Library Fallible Commands BoardDb

variable {host : Host} {notifier : Notifier} {cmd : A2aCommand}
  {sender : String} {world : BoardWorld} {before : BoardDb}
  {failed : AppError → BoardWorld → Prop} {ok : Unit → BoardWorld → Prop}
  {creds : List (String × String × Option String)} {entry : Json}
  {task : Task} {db middle after : BoardDb}

/-! ## Finishing a task -/

theorem promotedRow_same {task updated : Task} (same : SameTask task updated)
    (tasks : List Task) : promotedRow tasks updated = promotedRow tasks task := by
  funext row
  rw [promotedRow, promotedRow, isReleased, isReleased, same.boardId,
    same.shortId]

theorem leaves_finished {task updated : Task} {kind : String}
    {event : TaskEvent} {value : α}
    (authority : Authority before notifier cmd sender task.boardId)
    (named : Names before cmd task) (finish : Finish cmd task updated kind)
    (about : event.taskId = task.id) (typed : event.eventType = kind)
    (start : Seeded before world.db) :
    Leaves host
      (Store.updateTask updated >>= fun _ =>
        Store.insertEvent event >>= fun _ =>
          promoteChildren updated >>= fun _ => pure value)
      (Effect host notifier cmd sender before) world := by
  rw [leaves_sequence, Store.ends_updateTask]
  refine ⟨?_, fun _ _ => .kept start⟩
  intro done updates
  have mapped := updateTask_mapped updates
  rw [leaves_sequence, Store.ends_insertEvent]
  refine ⟨?_, ?_⟩
  · intro logged inserted
    rw [leaves_sequence]
    refine ends_promoteChildren.mono ?_ fun _ _ impossible => impossible.elim
    intro _ later promoted
    rw [promotedRow_same finish.same, finish.same.boardId] at promoted
    exact .finished authority named finish start mapped about typed
      (insertEvent_logged inserted) promoted
  · intro error failing
    rcases named.row with ⟨row, there, read⟩
    have stays : row ∈ world.db.tasks := by
      rw [start.permitted.tasks]
      exact there
    have known : done.hasTask event.taskId = true := by
      rw [hasTask_iff]
      refine ⟨taskChange updated row, mapped.mem.mpr ⟨row, stays, rfl⟩, ?_⟩
      rw [taskChange_id, about, ← read, taskFromRow_id]
    rcases insertEvent_ok known with ⟨after, succeeds⟩
    rw [BoardWorld.withDb_db, succeeds] at failing
    cases failing

theorem handleComplete_affects (verb : cmd.verb = "complete") :
    Affects host notifier cmd sender world (handleComplete cmd sender) := by
  rw [handleComplete]
  refine leaves_required (.kept seeded_self) fun taskId given => ?_
  simp only [doComplete, bind_assoc]
  rw [leaves_sequence, Store.ends_getTask]
  refine ⟨fun task found => ?_, fun _ => .kept seeded_self⟩
  have named : Names world.db cmd task := ⟨taskId, given, found⟩
  refine leaves_requireAssignee (.kept seeded_self) fun own => ?_
  have authority : Authority world.db notifier cmd sender task.boardId :=
    .assignee (by simp [verb]) named own
  refine leaves_utcNow ?_
  by_cases reviewed : task.reviewer.isSome = true
  · simp only [reviewed, if_true, pure_bind, releaseChildren]
    exact leaves_moved authority named (.submit verb reviewed _ _) seeded_self
      (recordsOnly_event _ (by simp [newEvent]))
  · have alone : task.reviewer = none := by simpa using reviewed
    simp only [reviewed, Bool.false_eq_true, if_false, pure_bind,
      releaseChildren]
    exact leaves_finished authority named (.complete verb alone _ _) rfl rfl
      seeded_self

theorem handleApprove_affects (verb : cmd.verb ∈ ["approve", "verify"]) :
    Affects host notifier cmd sender world (handleApprove cmd sender) := by
  rw [handleApprove]
  refine leaves_named (.kept seeded_self) ?_
  intro taskId task given found
  have named : Names world.db cmd task := ⟨taskId, given, found⟩
  refine leaves_requireReviewer (.kept seeded_self) fun own => ?_
  rw [leaves_ite]
  refine ⟨fun _ => .kept seeded_self, fun reviewing => leaves_utcNow ?_⟩
  have reviewing := not_not.mp reviewing
  have listed : cmd.verb ∈ ["approve", "verify", "reject"] := by
    simp only [List.mem_cons, List.not_mem_nil, or_false] at verb ⊢
    exact verb.imp_right Or.inl
  exact leaves_finished (.reviewer listed named own reviewing) named
    (.approve verb reviewing _) rfl rfl seeded_self

/-! ## Heartbeats -/

theorem leaves_touched {current : Task → Task}
    (authority : Authority before notifier cmd sender task.boardId)
    (named : Names before cmd task) (verb : cmd.verb = "heartbeat")
    (runnable : task.status = .ready ∨ task.status = .running)
    {middle : BoardDb} (start : Seeded before middle)
    (mapped : TasksMapped current middle world.db)
    (runs : ∀ now, ∀ row ∈ middle.tasks,
      touchChange task.id now (current row) =
        taskChange { task with status := .running, updatedAt := now } row) :
    Leaves host
      (do
        Store.touchTask task.id
        let createdAt ← Store.utcNow
        Store.insertEvent
          { id := 0
            taskId := task.id
            eventType := "heartbeat"
            actor := sender
            payload := none
            createdAt })
      (Effect host notifier cmd sender before) world := by
  rw [leaves_sequence, Store.ends_touchTask]
  refine leaves_utcNow ?_
  have touched := (mapped.trans touchTask_mapped).congr
    (runs (host.now world.tick))
  have moves : ∀ after, Records (world.db.touchTask task.id
      (host.now world.tick)) after →
        Effect host notifier cmd sender before after :=
    fun after recorded =>
      .moved authority named (.start verb runnable _) start touched recorded
  rw [Leaves, Store.ends_insertEvent]
  refine ⟨fun db inserted => moves db ?_, fun _ _ => moves _ (.nothing rfl)⟩
  exact .event (by simp) (insertEvent_logged inserted)

theorem heartbeat_affects {taskId : String} (verb : cmd.verb = "heartbeat")
    (given : cmd.taskId = some taskId) :
    Affects host notifier cmd sender world
      (Awareness.heartbeat taskId sender) := by
  rw [Awareness.heartbeat, Affects, leaves_sequence, Store.ends_getTask]
  refine ⟨fun task found => ?_, fun _ => .kept seeded_self⟩
  have named : Names world.db cmd task := ⟨taskId, given, found⟩
  rw [leaves_ite]
  refine ⟨fun _ => .kept seeded_self, fun own => ?_⟩
  have authority : Authority world.db notifier cmd sender task.boardId :=
    .assignee (by simp [verb]) named (not_not.mp own)
  rw [Awareness.start]
  by_cases ready : task.status = .ready
  · simp only [ready, if_true]
    rw [leaves_sequence, Store.ends_updateTask]
    refine ⟨fun db updates => ?_, fun _ _ => .kept seeded_self⟩
    refine leaves_touched authority named verb (.inl ready) seeded_self
      (updateTask_mapped updates) ?_
    intro now row there
    by_cases same : row.id = task.id
    · simp [touchChange, taskChange, same]
    · simp [touchChange, taskChange, same]
  · rw [if_neg ready]
    by_cases running : task.status = .running
    · simp only [running, ne_eq, not_true, if_false, pure_bind]
      refine leaves_touched authority named verb (.inr running) seeded_self
        ⟨rfl, rfl, rfl, rfl, (List.map_id _).symm⟩ ?_
      intro now row there
      by_cases same : row.id = task.id
      · have read := named.eq_row there same
        subst read
        have runs : row.status = .running :=
          status_of_read running (by simp)
        simp [touchChange, taskChange, taskFromRow, runs]
      · simp [touchChange, taskChange, same]
    · rw [if_pos running]
      exact .kept seeded_self

theorem handleHeartbeat_affects (verb : cmd.verb = "heartbeat") :
    Affects host notifier cmd sender world (handleHeartbeat cmd sender) := by
  rw [handleHeartbeat]
  refine leaves_required (.kept seeded_self) fun taskId given => ?_
  rw [leaves_sequence]
  exact (heartbeat_affects verb given).mono (fun _ _ effect => effect)
    fun _ _ effect => effect

/-! ## Queries -/

/-- A command that changes nothing. -/
def Reads (host : Host) (command : Command α) : Prop :=
  ∀ world : BoardWorld, Leaves host command (· = world.db) world

theorem reads_return (value : α) : Reads host (pure value : Command α) :=
  fun _ => rfl

theorem reads_fail (error : AppError) : Reads host (fail error : Command α) :=
  fun _ => rfl

theorem reads_sequence {command : Command β} {rest : β → Command α}
    (first : Reads host command) (later : ∀ value, Reads host (rest value)) :
    Reads host (command >>= rest) := by
  intro world
  rw [leaves_sequence]
  refine (first world).mono (fun value next same => ?_) fun _ _ same => same
  rw [← same]
  exact later value next

theorem reads_ite {condition : Prop} [Decidable condition]
    {first second : Command α} (holds : Reads host first)
    (fails : Reads host second) :
    Reads host (if condition then first else second) := by
  split
  · exact holds
  · exact fails

theorem reads_attempt {command : Command α} (reads : Reads host command) :
    Reads host (attempt command : Command (Except AppError α)) := by
  intro world
  rw [Leaves, Command.ends_attempted]
  exact reads world

theorem reads_getTask (taskRef : String) :
    Reads host (Store.getTask taskRef) := by
  intro world
  rw [Leaves, Store.ends_getTask]
  exact ⟨fun _ _ => rfl, fun _ => rfl⟩

theorem reads_resolveTaskId (taskRef : String) :
    Reads host (Store.resolveTaskId taskRef) :=
  reads_sequence (reads_getTask taskRef) fun task => reads_return task.id

theorem reads_required (value : Option α) (message : String) :
    Reads host (required value message) := by
  cases value with
  | none => exact reads_fail _
  | some given => exact reads_return given

theorem reads_requireMember (boardId : String) :
    Reads host (requireMember boardId sender) := by
  intro world
  rw [Leaves, ends_requireMember]
  exact ⟨fun _ _ => rfl, fun _ => rfl⟩

theorem reads_parentSummaries (task : Task) (parents : List String) :
    Reads host (Awareness.parentSummaries task parents) := by
  induction parents with
  | nil => exact reads_return []
  | cons parent rest induction =>
      refine reads_sequence (fun _ => rfl) fun tasks => ?_
      exact reads_sequence induction fun later => reads_return _

theorem handleShow_reads : Reads host (handleShow cmd sender) := by
  refine reads_sequence (reads_required _ _) fun taskId => ?_
  refine reads_sequence ?_ fun found => ?_
  · refine reads_sequence (reads_getTask taskId) fun task => ?_
    exact reads_sequence (reads_parentSummaries task _) fun _ => reads_return _
  · refine reads_sequence (reads_requireMember _) fun _ => ?_
    exact reads_ite (reads_return _) (reads_return _)

theorem handleList_reads : Reads host (handleList cmd sender) := by
  refine reads_sequence (reads_requireMember _) fun _ => ?_
  exact reads_sequence (fun _ => rfl) fun tasks => reads_return _

theorem handleRoles_reads : Reads host (handleRoles cmd sender) := by
  refine reads_sequence (reads_requireMember _) fun _ => ?_
  refine reads_sequence ?_ fun _ => reads_return _
  exact reads_sequence (fun _ => rfl) fun rows => reads_return _

theorem handleBoardStatus_reads : Reads host (handleBoardStatus cmd sender) := by
  refine reads_sequence (reads_required _ _) fun boardId => ?_
  refine reads_sequence (reads_requireMember _) fun _ => ?_
  refine reads_sequence ?_ fun status => reads_return _
  refine reads_sequence ?_ fun board => ?_
  · intro world
    rw [Leaves, Store.ends_getBoard]
    exact ⟨fun _ _ => rfl, fun _ => rfl⟩
  · exact reads_sequence (fun _ => rfl) fun tasks => reads_return _

theorem handleMembers_reads : Reads host (handleMembers cmd sender) := by
  refine reads_sequence (reads_requireMember _) fun _ => ?_
  refine reads_sequence ?_ fun members => reads_return _
  exact reads_sequence (fun _ => rfl) fun rows => reads_return _

theorem arbitratedTask_reads (taskId : String) :
    Reads host (arbitratedTask taskId) := by
  refine reads_ite (reads_return none) ?_
  refine reads_sequence (reads_attempt (reads_resolveTaskId taskId))
    fun resolved => ?_
  cases resolved with
  | error _ => exact reads_return none
  | ok full =>
      refine reads_sequence (reads_attempt (reads_getTask full)) fun task => ?_
      cases task with
      | error _ => exact reads_return none
      | ok task => exact reads_return (some task)

theorem handleArbitrate_reads : Reads host (handleArbitrate cmd sender) := by
  refine reads_sequence (arbitratedTask_reads _) fun task => ?_
  refine reads_sequence (fun _ => rfl) fun member => ?_
  exact reads_ite (reads_fail _) (reads_return _)

theorem Reads.affects {command : Command α} (reads : Reads host command) :
    Affects host notifier cmd sender world command :=
  (reads world).mono (fun _ _ same => .kept (.inl same))
    fun _ _ same => .kept (.inl same)

/-! ## Creating tasks -/

theorem TasksAdded.trans {first second : List Task}
    (earlier : TasksAdded first db middle)
    (later : TasksAdded second middle after) :
    TasksAdded (first ++ second) db after where
  boards := later.boards.trans earlier.boards
  members := later.members.trans earlier.members
  taskEvents := later.taskEvents.trans earlier.taskEvents
  rolePermissions := later.rolePermissions.trans earlier.rolePermissions
  tasks := by rw [later.tasks, earlier.tasks, List.append_assoc]

theorem tasksAdded_none {db after : BoardDb}
    (same : after.boards = db.boards ∧ after.members = db.members ∧
      after.taskEvents = db.taskEvents ∧
      after.rolePermissions = db.rolePermissions ∧ after.tasks = db.tasks) :
    TasksAdded [] db after := by
  refine ⟨same.1, same.2.1, same.2.2.1, same.2.2.2.1, ?_⟩
  rw [same.2.2.2.2, List.append_nil]

theorem insertTask_added {db after : BoardDb}
    (inserted : db.insertTask task = .ok after) :
    TasksAdded [insertedTask task] db after := by
  rw [insertTask] at inserted
  split at inserted
  · cases inserted
  · split at inserted
    · cases inserted
      exact ⟨rfl, rfl, rfl, rfl, rfl⟩
    · cases inserted

theorem requireListed_ends {boardId address role : String}
    (listed : Listed world.db boardId address → ok () world)
    (refused : ∀ error, failed error world) :
    (Command.run host (requireListed boardId address role)).Ends ok failed
      world := by
  rw [requireListed]
  by_cases empty : address = ""
  · rw [if_pos empty]
    exact listed (.inl empty)
  · rw [if_neg empty, Command.ends_sequence, Store.ends_getMember]
    cases found : world.db.findMember boardId address with
    | some member => exact listed (.inr ⟨member, found⟩)
    | none => exact refused _

theorem requireReviewerListed_ends {boardId : String}
    (listed : (∀ reviewer, entry.getStr? "reviewer" = some reviewer →
      Listed world.db boardId reviewer) → ok () world)
    (refused : ∀ error, failed error world) :
    (Command.run host (requireReviewerListed boardId entry)).Ends ok failed
      world := by
  rw [requireReviewerListed]
  cases given : entry.getStr? "reviewer" with
  | none =>
      refine listed fun reviewer impossible => ?_
      rw [given] at impossible
      cases impossible
  | some reviewer =>
      refine requireListed_ends (fun known => listed ?_) refused
      intro other same
      rw [given] at same
      cases same
      exact known

theorem createEntry_ends {boardId : String}
    (refused : ∀ error later, TasksAdded [] world.db later.db →
      failed error later)
    (added : ∀ shortId ts later,
      Listed world.db boardId (assigneeOf entry) →
      (∀ reviewer, entry.getStr? "reviewer" = some reviewer →
        Listed world.db boardId reviewer) →
      TasksAdded
        [insertedTask (newTask host boardId sender shortId ts entry)] world.db
          later.db → ok () later) :
    (Command.run host (createEntry host boardId sender entry)).Ends ok failed
      world := by
  have unchanged : TasksAdded [] world.db world.db :=
    tasksAdded_none ⟨rfl, rfl, rfl, rfl, rfl⟩
  rw [createEntry, Command.ends_sequence]
  refine requireListed_ends (fun assignee => ?_) fun error =>
    refused error world unchanged
  rw [Command.ends_sequence]
  refine requireReviewerListed_ends (fun reviewer => ?_) fun error =>
    refused error world unchanged
  rw [Command.ends_sequence, Store.ends_nextShortId, Command.ends_sequence,
    Store.ends_utcNow, Store.ends_createTask]
  have bumped : TasksAdded [] world.db (world.db.bumpTaskSeq boardId) :=
    tasksAdded_none ⟨rfl, rfl, rfl, rfl, rfl⟩
  exact ⟨fun db inserted => added _ _ _ assignee reviewer
    (bumped.trans (insertTask_added inserted)), fun error _ =>
      refused error _ bumped⟩

theorem listed_of_members {db other : BoardDb} {boardId address : String}
    (same : other.members = db.members) :
    Listed other boardId address ↔ Listed db boardId address := by
  rw [Listed, Listed, findMember, findMember, same]

theorem handleCreate_affects (verb : cmd.verb = "create") :
    Affects host notifier cmd sender world (handleCreate host cmd sender) := by
  rw [handleCreate]
  refine leaves_required (.kept seeded_self) fun boardId given => ?_
  refine leaves_requireRole (.kept seeded_self)
    (fun role => .kept (seeded_self.checked role)) ?_
  intro member searched permitted
  have start : Seeded world.db (world.db.checked member.role) :=
    seeded_self.checked member.role
  have authority : Authority world.db notifier cmd sender boardId := by
    refine .board (by simp [verb]) given ?_
    rw [verb]
    exact ⟨member, searched, permitted⟩
  let kept (rest : List Json) (next : BoardWorld) : Prop :=
    (∀ entry ∈ rest, ∃ entries,
      cmd.params.bind (·.getArray? "tasks") = some entries ∧
        entry ∈ entries) ∧
    ∃ rows, (∀ row ∈ rows, Requested host cmd world.db boardId sender row) ∧
      TasksAdded rows (world.db.checked member.role) next.db
  have effect : ∀ rows (next : BoardWorld),
      (∀ row ∈ rows, Requested host cmd world.db boardId sender row) →
        TasksAdded rows (world.db.checked member.role) next.db →
          Effect host notifier cmd sender world.db next.db :=
    fun rows next requested added =>
      .created verb authority start requested added
  rw [leaves_sequence]
  refine (ends_forEach kept ?_ ⟨?_, [], ?_, ?_⟩).mono ?_ fun _ _ holds => holds
  · rintro entry rest next ⟨asked, rows, requested, added⟩
    rcases List.forall_mem_cons.mp asked with ⟨⟨entries, array, present⟩, later⟩
    have members : next.db.members = world.db.members :=
      added.members.trans checked_members
    refine createEntry_ends ?_ ?_
    · intro error last none
      refine effect rows last requested ?_
      simpa using added.trans none
    · intro shortId ts last assignee reviewer one
      refine ⟨later, rows ++ [_], ?_, added.trans one⟩
      rw [List.forall_mem_append, List.forall_mem_singleton]
      refine ⟨requested, entries, array, entry, present,
        (listed_of_members members).mp assignee, ?_, shortId, ts, rfl⟩
      exact fun address named =>
        (listed_of_members members).mp (reviewer address named)
  · intro entry listed
    cases array : cmd.params.bind (·.getArray? "tasks") with
    | none =>
        rw [array] at listed
        cases listed
    | some entries =>
        rw [array] at listed
        exact ⟨entries, rfl, listed⟩
  · exact fun _ impossible => absurd impossible List.not_mem_nil
  · exact tasksAdded_none ⟨rfl, rfl, rfl, rfl, rfl⟩
  · rintro _ next ⟨_, rows, requested, added⟩
    exact effect rows next requested added

/-! ## Refreshing a board -/

theorem ends_checkAll {elements : List β} {body : β → Command Unit}
    {holds : β → Prop}
    (each : ∀ element, ∀ world : BoardWorld,
      (Command.run host (body element)).Ends
        (fun _ next => next.db = world.db ∧ holds element)
        (fun _ next => next.db = world.db) world) :
    (Command.run host (forEach elements body)).Ends
      (fun _ next => next.db = world.db ∧ ∀ element ∈ elements, holds element)
      (fun _ next => next.db = world.db) world := by
  induction elements generalizing world with
  | nil => exact ⟨rfl, fun _ impossible => absurd impossible List.not_mem_nil⟩
  | cons head tail induction =>
      rw [forEach, Command.ends_sequence]
      refine (each head world).mono ?_ fun _ _ same => same
      rintro _ next ⟨same, first⟩
      rw [← same]
      refine induction.mono ?_ fun _ _ kept => kept
      rintro _ last ⟨kept, rest⟩
      exact ⟨kept, List.forall_mem_cons.mpr ⟨first, rest⟩⟩

theorem knownRole_ends (role note : String) (world : BoardWorld) :
    (Command.run host (knownRole role note)).Ends
      (fun _ next => next.db = world.db ∧ role ∈ Store.knownRoles)
      (fun _ next => next.db = world.db) world := by
  rw [knownRole, Command.ends_ite]
  exact ⟨fun known => ⟨rfl, List.contains_iff_mem.mp known⟩, fun _ => rfl⟩

theorem knownVerb_ends (role verb : String) (world : BoardWorld) :
    (Command.run host (knownVerb role verb)).Ends
      (fun _ next => next.db = world.db ∧ verb ∈ Store.knownVerbs)
      (fun _ next => next.db = world.db) world := by
  rw [knownVerb, Command.ends_ite]
  exact ⟨fun known => ⟨rfl, List.contains_iff_mem.mp known⟩, fun _ => rfl⟩

theorem knownPermission_ends (entry : String × List String)
    (world : BoardWorld) :
    (Command.run host (knownPermission entry)).Ends
      (fun _ next => next.db = world.db ∧ entry.1 ∈ Store.knownRoles ∧
        ∀ verb ∈ entry.2, verb ∈ Store.knownVerbs)
      (fun _ next => next.db = world.db) world := by
  rw [knownPermission, Command.ends_sequence]
  refine (knownRole_ends entry.1 _ world).mono ?_ fun _ _ same => same
  rintro _ next ⟨same, role⟩
  rw [← same]
  refine (ends_checkAll (knownVerb_ends entry.1)).mono ?_ fun _ _ kept => kept
  rintro _ last ⟨kept, verbs⟩
  exact ⟨kept, role, verbs⟩

theorem overridePermissions_ends
    (refused : ∀ error later, later.db = world.db → failed error later)
    (skipped : overrides cmd = none → ok () world)
    (written : ∀ entries later, overrides cmd = some entries →
      KnownPermissions entries →
        later.db = world.db.addRolePermissions entries → ok () later) :
    (Command.run host (overridePermissions
      (cmd.params.bind (·.getArray? "role_permissions")))).Ends ok failed
        world := by
  cases given : cmd.params.bind (·.getArray? "role_permissions") with
  | none => exact skipped (by rw [overrides, given]; rfl)
  | some entries =>
      have asked : overrides cmd = some (entries.filterMap permissionEntry) := by
        rw [overrides, given]
        rfl
      rw [overridePermissions, Command.ends_sequence]
      refine (ends_checkAll knownPermission_ends).mono ?_ fun error later same =>
        refused error later same
      rintro _ next ⟨same, known⟩
      rw [Store.ends_insertRolePermissions]
      refine written _ _ asked known ?_
      rw [BoardWorld.withDb_db, same]

theorem addMember_ends {member : Member}
    (refused : ∀ error later, later.db = world.db → failed error later)
    (written : ∀ stored later, stored.email = member.email →
      stored.role = member.role → stored.boardId = member.boardId →
        world.db.upsertMember stored = .ok later.db → ok () later) :
    (Command.run host (Store.addMember host member)).Ends ok failed world := by
  have upserts : ∀ (stored : Member) (start : BoardWorld),
      start.db = world.db → stored.email = member.email →
        stored.role = member.role → stored.boardId = member.boardId →
          (Command.run host (Store.upsertMember stored)).Ends ok failed
            start := by
    intro stored start same email role board
    rw [Store.ends_upsertMember]
    refine ⟨fun db upserted => ?_, fun error _ => refused error start same⟩
    refine written stored _ email role board ?_
    rw [← same]
    exact upserted
  rw [Store.addMember]
  split
  · rw [Command.ends_sequence, Store.ends_generateBoardTokenSalt]
    exact upserts _ world.tock rfl rfl rfl rfl
  · exact upserts member world rfl rfl rfl rfl
  · exact upserts _ world rfl rfl rfl rfl

theorem credential_ends
    {email : String} {ok : String × Option String → BoardWorld → Prop}
    (found : ∀ cred later, later.db = world.db → ok cred later) :
    (Command.run host (credential creds email)).Ends ok failed world := by
  rw [credential]
  cases creds.lookup email with
  | some stored => exact found stored world rfl
  | none => exact found _ world.tock rfl

theorem upsertMembers_append {members : List Member} {member : Member}
    (earlier : db.upsertMembers members = .ok middle)
    (last : middle.upsertMember member = .ok after) :
    db.upsertMembers (members ++ [member]) = .ok after := by
  induction members generalizing db with
  | nil =>
      cases earlier
      rw [List.nil_append, upsertMembers, last]
      rfl
  | cons head tail induction =>
      rw [upsertMembers] at earlier
      rw [List.cons_append, upsertMembers]
      cases first : db.upsertMember head with
      | error error =>
          rw [first] at earlier
          cases earlier
      | ok next =>
          rw [first] at earlier
          exact induction earlier

theorem refreshMember_ends {boardId ts : String} {entries : List Json}
    (array : cmd.params.bind (·.getArray? "members") = some entries)
    (present : entry ∈ entries)
    (refused : ∀ error later, later.db = world.db → failed error later)
    (skipped : ∀ later, later.db = world.db → ok () later)
    (written : ∀ member later, Enrolled cmd boardId member →
      world.db.upsertMember member = .ok later.db → ok () later) :
    (Command.run host (refreshMember host boardId ts creds entry)).Ends ok
      failed world := by
  simp only [refreshMember]
  rw [Command.ends_sequence]
  refine (knownRole_ends _ _ world).mono ?_ fun error later same =>
    refused error later same
  rintro _ next ⟨same, known⟩
  rw [Command.ends_ite]
  refine ⟨fun _ => skipped next same, fun named => ?_⟩
  rw [Command.ends_sequence]
  apply credential_ends
  intro cred later kept
  apply addMember_ends
  · exact fun error last unchanged =>
      refused error last (unchanged.trans (kept.trans same))
  · intro stored last email role board upserted
    rw [kept, same] at upserted
    refine written stored last ⟨entries, array, entry, present, email.symm,
      role.symm, ?_, ?_, board⟩ upserted
    · rw [email]
      exact named
    · rw [role]
      exact known

theorem handleRefresh_affects (verb : cmd.verb = "refresh") :
    Affects host notifier cmd sender world
      (handleRefresh host notifier cmd sender) := by
  rw [handleRefresh]
  refine leaves_utcNow ?_
  rw [leaves_sequence, Store.ends_getMember, leaves_ite]
  refine ⟨fun _ => .kept seeded_self, fun owns => ?_⟩
  have authority : Authority world.db notifier cmd sender notifier.boardId := by
    cases found : world.db.findMember notifier.boardId sender with
    | none => simp [found] at owns
    | some member => exact .owner verb found (by simpa [found] using owns)
  rw [leaves_sequence, Store.ends_selectBoard]
  cases found : world.db.findBoard notifier.boardId with
  | none =>
      simp only [BoardWorld.tock_db, found]
      exact .kept seeded_self
  | some board =>
      simp only [BoardWorld.tock_db, found]
      rw [leaves_sequence, Store.ends_updateBoard]
      have effect : ∀ members (enrolled : BoardDb) (next : BoardWorld),
          (∀ member ∈ members, Enrolled cmd notifier.boardId member) →
            (world.db.updateBoard
              { board with
                goal := (strParam cmd "description").or board.goal
                status := .active }).upsertMembers members = .ok enrolled →
              PermissionsRefreshed cmd enrolled next.db →
                Effect host notifier cmd sender world.db next.db :=
        fun members enrolled next asked written permissions =>
          .refreshed verb authority found asked written permissions
      have nobody : ∀ member ∈ ([] : List Member),
          Enrolled cmd notifier.boardId member :=
        fun _ impossible => absurd impossible List.not_mem_nil
      cases array : cmd.params.bind (·.getArray? "members") with
      | none => exact effect [] _ _ nobody rfl (.unreached rfl)
      | some entries =>
          rw [required, pure_bind, leaves_sequence, Store.ends_listMembers,
            leaves_sequence]
          let kept (rest : List Json) (next : BoardWorld) : Prop :=
            (∀ entry ∈ rest, entry ∈ entries) ∧
            ∃ members, (∀ member ∈ members,
              Enrolled cmd notifier.boardId member) ∧
              (world.db.updateBoard
                { board with
                  goal := (strParam cmd "description").or board.goal
                  status := .active }).upsertMembers members = .ok next.db
          refine (ends_forEach kept ?_ ⟨fun _ there => there, [], nobody,
            rfl⟩).mono ?_ fun _ _ holds => holds
          · rintro entry rest next ⟨inside, members, asked, written⟩
            rcases List.forall_mem_cons.mp inside with ⟨present, later⟩
            refine refreshMember_ends array present ?_ ?_ ?_
            · intro error last same
              refine effect members _ last asked written (.unreached ?_)
              exact same
            · intro last same
              exact ⟨later, members, asked, by rw [same]; exact written⟩
            · intro member last enrolled upserted
              refine ⟨later, members ++ [member], ?_,
                upsertMembers_append written upserted⟩
              rw [List.forall_mem_append, List.forall_mem_singleton]
              exact ⟨asked, enrolled⟩
          · rintro _ next ⟨_, members, asked, written⟩
            rw [leaves_sequence, Store.ends_seedDefaultRolePermissions,
              leaves_sequence]
            apply overridePermissions_ends
            · intro error last same
              exact effect members _ last asked written (.seeded same)
            · intro _
              exact effect members _ _ asked written (.seeded rfl)
            · intro permissions last given known same
              exact effect members _ last asked written
                (.overridden given known same)

/-! ## Reopening a board -/

def ReopenedAs (reopened : List String) (row changed : Task) : Prop :=
  ∃ now, changed = (reopenedStatus reopened (taskFromRow row)).elim row
    fun status => { row with status, updatedAt := now }

theorem reopenTask_ends {reopened : List String}
    (assigned : world.db.isMember task.assignee = true) :
    (Command.run host (reopenTask reopened task)).Ends
      (fun _ later => ∃ change, TasksMapped change world.db later.db ∧
        (∀ row, row.id ≠ task.id → change row = row) ∧
        (∀ row, taskFromRow row = task →
          (change row).id = row.id ∧ ReopenedAs reopened row (change row)))
      (fun _ _ => False) world := by
  rw [reopenTask]
  cases moves : reopenedStatus reopened task with
  | none =>
      refine ⟨id, ⟨rfl, rfl, rfl, rfl, (List.map_id _).symm⟩, fun _ _ => rfl, ?_⟩
      intro row read
      refine ⟨rfl, "", ?_⟩
      rw [read, moves]
      rfl
  | some status =>
      simp only
      rw [Command.ends_sequence, Store.ends_utcNow, Store.ends_updateTask]
      have succeeds : ∃ after, world.db.updateTask
          { task with status, updatedAt := host.now world.tick } =
            .ok after :=
        updateTask_ok assigned
      refine ⟨fun db updated => ?_, fun error failing => ?_⟩
      · refine ⟨_, updateTask_mapped updated,
          fun row other => taskChange_other other, ?_⟩
        intro row read
        subst read
        refine ⟨taskChange_id _ _, host.now world.tick, ?_⟩
        rw [moves]
        exact if_pos rfl
      · rcases succeeds with ⟨after, updates⟩
        rw [BoardWorld.tock_db, updates] at failing
        cases failing

theorem handleReopen_affects (verb : cmd.verb = "reopen") :
    Affects host notifier cmd sender world (handleReopen cmd sender) := by
  rw [handleReopen]
  refine leaves_required (.kept seeded_self) fun boardId given => ?_
  refine leaves_requireRole (.kept seeded_self)
    (fun role => .kept (seeded_self.checked role)) ?_
  intro member searched permitted
  have start : Seeded world.db (world.db.checked member.role) :=
    seeded_self.checked member.role
  have authority : Authority world.db notifier cmd sender boardId := by
    refine .board (by simp [verb]) given ?_
    rw [verb]
    exact ⟨member, searched, permitted⟩
  rw [leaves_sequence, Store.ends_getBoard]
  refine ⟨fun board found => ?_, fun _ => .kept start⟩
  rw [BoardWorld.withDb_db, checked_findBoard] at found
  rw [leaves_ite]
  refine ⟨fun _ => .kept start, fun awaiting => ?_⟩
  rw [leaves_sequence, Store.ends_listTasks]
  simp only [BoardWorld.withDb_db, checked_listTasks]
  rw [leaves_sequence]
  refine (ends_rounds (reopenTask (reopenedIds world.db boardId))
    (ReopenedAs (reopenedIds world.db boardId)) (listTasks_distinct boardId) ?_
    ?_).mono ?_ fun _ _ impossible => impossible.elim
  · intro task listed
    rcases listTasks_spec listed with ⟨row, there, _, read⟩
    exact ⟨row, by simpa using there, read⟩
  · intro task _ next assigned
    exact reopenTask_ends assigned
  · rintro _ next ⟨change, mapped, each⟩
    rw [leaves_sequence, Store.ends_updateBoard]
    refine .reopened verb authority start found (not_not.mp awaiting) mapped ?_
      ?_ rfl
    · intro row there other
      refine (each row (by simpa using there)).2 fun listed => other ?_
      rcases listTasks_spec listed with ⟨origin, _, onBoard, read⟩
      rw [← taskFromRow_boardId row, ← read, taskFromRow_boardId, onBoard]
    · intro row there onBoard
      refine (each row (by simpa using there)).1 ?_
      rw [← onBoard]
      exact mem_listTasks there

/-! ## Dispatch -/

theorem dispatch_affects :
    Affects host notifier cmd sender world
      (dispatch host notifier cmd sender) := by
  rw [dispatch]
  split
  · next verb => exact handleComplete_affects verb
  · next verb => exact handleContinue_affects verb
  · next verb => exact handleApprove_affects (by simp [verb])
  · next verb => exact handleReview_affects verb
  · next verb => exact handleApprove_affects (by simp [verb])
  · next verb => exact handleReject_affects verb
  · next verb => exact handleBlock_affects verb
  · next verb => exact handleUnblock_affects verb
  · next verb => exact handleHeartbeat_affects verb
  · next verb => exact handleComment_affects verb
  · next verb => exact handleCancel_affects verb
  · next verb => exact handleReassign_affects (by simp [verb])
  · next verb => exact handleReassign_affects (by simp [verb])
  · next verb => exact handleEdit_affects verb
  · next verb => exact handleDeadline_affects verb
  · next verb => exact handleReopen_affects verb
  · next verb => exact handleOutput_affects verb
  · exact handleShow_reads.affects
  · exact handleList_reads.affects
  · exact handleMembers_reads.affects
  · exact handleRoles_reads.affects
  · exact handleBoardStatus_reads.affects
  · exact (reads_return _).affects
  · next verb => exact handleCreate_affects verb
  · next verb => exact handleRefresh_affects verb
  · exact handleArbitrate_reads.affects
  · exact (reads_return _).affects

section Resolution

variable {taskId : String}

def resolvedCommand (cmd : A2aCommand) (taskId : String) : A2aCommand :=
  { cmd with taskId := some taskId }

theorem Transition.unresolved {task updated : Task}
    (transition : Transition (resolvedCommand cmd taskId) task updated) :
    Transition cmd task updated := by
  cases transition with
  | progress verb summary now => exact @Transition.progress cmd task verb summary now
  | assign verb assignee now => exact @Transition.assign cmd task verb assignee now
  | edit verb title body now => exact @Transition.edit cmd task verb title body now
  | deadline verb deadline now => exact @Transition.deadline cmd task verb deadline now
  | submit verb reviewed summary now => exact @Transition.submit cmd task verb reviewed summary now
  | review verb reviewer now given => exact @Transition.review cmd task verb reviewer now given
  | reject verb reviewing now => exact @Transition.reject cmd task verb reviewing now
  | block verb now => exact @Transition.block cmd task verb now
  | unblock verb now => exact @Transition.unblock cmd task verb now
  | start verb runnable now => exact @Transition.start cmd task verb runnable now
  | cancel verb blocked now => exact @Transition.cancel cmd task verb blocked now

theorem Finish.unresolved {task updated : Task} {kind : String}
    (finish : Finish (resolvedCommand cmd taskId) task updated kind) :
    Finish cmd task updated kind := by
  cases finish with
  | complete verb alone summary now => exact @Finish.complete cmd task verb alone summary now
  | approve verb reviewing now => exact @Finish.approve cmd task verb reviewing now

theorem Authority.unresolved {boardId : String}
    (names : ∀ task, Names before (resolvedCommand cmd taskId) task →
      Names before cmd task)
    (authority : Authority before notifier (resolvedCommand cmd taskId) sender
      boardId) :
    Authority before notifier cmd sender boardId := by
  cases authority with
  | assignee verb named own => exact .assignee verb (names _ named) own
  | reviewer verb named own reviewing =>
      exact .reviewer verb (names _ named) own reviewing
  | role verb named holds => exact .role verb (names _ named) holds
  | assign verb named holds => exact .assign verb (names _ named) holds
  | board verb given holds => exact .board verb given holds
  | owner verb found owner => exact .owner verb found owner

theorem PermissionsRefreshed.unresolved {after : BoardDb}
    (permissions : PermissionsRefreshed (resolvedCommand cmd taskId) before
      after) :
    PermissionsRefreshed cmd before after := by
  cases permissions with
  | unreached same => exact .unreached same
  | seeded same => exact .seeded same
  | overridden given known same => exact .overridden given known same

theorem Effect.unresolved {after : BoardDb}
    (names : ∀ task, Names before (resolvedCommand cmd taskId) task →
      Names before cmd task)
    (effect : Effect host notifier (resolvedCommand cmd taskId) sender before
      after) :
    Effect host notifier cmd sender before after := by
  cases effect with
  | kept seeded => exact .kept seeded
  | noted verb authority named seeded kind logged =>
      exact .noted verb (authority.unresolved names) (names _ named) seeded kind
        logged
  | moved authority named transition seeded mapped recorded =>
      exact .moved (authority.unresolved names) (names _ named)
        transition.unresolved seeded mapped recorded
  | finished authority named finish seeded mapped about typed log promoted =>
      exact .finished (authority.unresolved names) (names _ named)
        finish.unresolved seeded mapped about typed log promoted
  | output verb authority named done complete seeded kind log found result =>
      exact .output verb (authority.unresolved names) (names _ named) done
        complete seeded kind log found result
  | created verb authority seeded requested added =>
      exact .created verb (authority.unresolved names) seeded requested added
  | refreshed verb authority found asked written permissions =>
      exact .refreshed verb (authority.unresolved names) found asked written
        permissions.unresolved
  | reopened verb authority seeded found awaiting mapped others own result =>
      exact .reopened verb (authority.unresolved names) seeded found awaiting
        mapped others own result

end Resolution

theorem executeCommand_affects :
    Affects host notifier cmd sender world
      (executeCommand host notifier cmd sender) := by
  rw [executeCommand, resolveReference]
  cases given : cmd.taskId with
  | none => exact dispatch_affects
  | some raw =>
      simp only
      by_cases refers : raw ≠ "" ∧ taskScoped.contains cmd.verb = true
      · rw [if_pos refers]
        simp only [bind_assoc, pure_bind]
        rw [Affects, leaves_sequence, Store.ends_resolveTaskId]
        refine ⟨fun task found => ?_, fun _ => .kept seeded_self⟩
        have names : ∀ other,
            Names world.db (resolvedCommand cmd task.id) other →
              Names world.db cmd other := by
          rintro other ⟨taskRef, same, located⟩
          cases same
          rw [lookupTask_id found] at located
          cases located
          exact ⟨raw, given, found⟩
        exact dispatch_affects.mono (fun _ _ effect => effect.unresolved names)
          fun _ _ effect => effect.unresolved names
      · rw [if_neg refers, pure_bind]
        exact dispatch_affects

end AimailGateway.Board
