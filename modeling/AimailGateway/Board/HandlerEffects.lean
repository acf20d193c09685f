import AimailGateway.Board.Effects

/-! # The effect of each handler -/

namespace AimailGateway.Board

open Library Fallible Commands BoardDb

variable {host : Host} {notifier : Notifier} {cmd : A2aCommand}
  {sender : String} {world : BoardWorld} {before : BoardDb}

/-! ## Changes of one task -/

theorem Names.row {task : Task} (named : Names before cmd task) :
    ∃ row ∈ before.tasks, taskFromRow row = task := by
  rcases named with ⟨taskRef, _, found⟩
  exact BoardDb.lookupTask_spec found

theorem Names.eq_row {task row : Task} (named : Names before cmd task)
    (there : row ∈ before.tasks) (same : row.id = task.id) :
    taskFromRow row = task := by
  rcases named.row with ⟨origin, known, read⟩
  subst read
  rw [Tasks.eq_of_id there known same]

/-- The rest of a command writes at most one event, and no approval. -/
def RecordsOnly (host : Host) (command : Command α) : Prop :=
  ∀ world : BoardWorld, Leaves host command (Records world.db) world

theorem recordsOnly_return (value : α) :
    RecordsOnly host (pure value : Command α) :=
  fun _ => .nothing rfl

theorem recordsOnly_event {event : TaskEvent} (value : α)
    (kind : event.eventType ≠ "approved") :
    RecordsOnly host (Store.insertEvent event >>= fun _ => pure value) := by
  intro world
  rw [leaves_sequence, Store.ends_insertEvent]
  exact ⟨fun db inserted => .event kind (insertEvent_logged inserted),
    fun _ _ => .nothing rfl⟩

theorem leaves_moved {task updated : Task} {rest : Unit → Command α}
    (authority : Authority before notifier cmd sender task.boardId)
    (named : Names before cmd task)
    (transition : Transition cmd task updated) (start : Seeded before world.db)
    (records : RecordsOnly host (rest ())) :
    Leaves host (Store.updateTask updated >>= rest)
      (Effect host notifier cmd sender before) world := by
  rw [leaves_sequence, Store.ends_updateTask]
  refine ⟨?_, fun _ _ => .kept start⟩
  intro db updates
  have mapped := updateTask_mapped updates
  refine (records (world.withDb db)).mono ?_ ?_
  · intro _ _ recorded
    exact .moved authority named transition start mapped recorded
  · intro _ _ recorded
    exact .moved authority named transition start mapped recorded

/-- A handler has an effect on the database it starts on. -/
def Affects (host : Host) (notifier : Notifier) (cmd : A2aCommand)
    (sender : String) (world : BoardWorld) (command : Command α) : Prop :=
  Leaves host command (Effect host notifier cmd sender world.db) world

theorem seeded_self : Seeded before before :=
  Or.inl rfl

theorem affects_role {verb : String} {rest : String → Task → Command α}
    (holds : ∀ taskId task member, cmd.taskId = some taskId →
      Names world.db cmd task →
      Holds world.db task.boardId sender verb →
      Seeded world.db (world.db.checked member) →
        Leaves host (rest taskId task)
          (Effect host notifier cmd sender world.db)
          (world.withDb (world.db.checked member))) :
    Affects host notifier cmd sender world
      (extractTaskId cmd >>= fun taskId =>
        Store.getTask taskId >>= fun task =>
          requireRole task.boardId sender verb >>= fun _ =>
            rest taskId task) := by
  refine leaves_named (.kept seeded_self) ?_
  intro taskId task given found
  refine leaves_requireRole (.kept seeded_self)
    (fun role => .kept (seeded_self.checked role)) ?_
  intro member searched permitted
  exact holds taskId task member.role given ⟨taskId, given, found⟩
    ⟨member, searched, permitted⟩ (seeded_self.checked _)

/-! ## Verbs on a task -/

theorem handleReview_affects (verb : cmd.verb = "review") :
    Affects host notifier cmd sender world (handleReview cmd sender) := by
  rw [Affects, handleReview]
  refine leaves_required (.kept seeded_self) fun taskId given => ?_
  refine leaves_required (.kept seeded_self) fun reviewer asked => ?_
  rw [leaves_sequence, Store.ends_getTask]
  refine ⟨?_, fun _ => .kept seeded_self⟩
  intro task found
  refine leaves_requireRole (.kept seeded_self)
    (fun role => .kept (seeded_self.checked role)) ?_
  intro member searched permitted
  refine leaves_utcNow ?_
  have named : Names world.db cmd task := ⟨taskId, given, found⟩
  refine leaves_moved (.role (by simp [verb]) named ?_) named
    (.review verb reviewer _ asked)
    (seeded_self.checked member.role)
    (recordsOnly_return _)
  rw [verb]
  exact ⟨member, searched, permitted⟩

theorem handleUnblock_affects (verb : cmd.verb = "unblock") :
    Affects host notifier cmd sender world (handleUnblock cmd sender) := by
  rw [handleUnblock]
  refine affects_role ?_
  intro taskId task role given named holds start
  refine leaves_utcNow ?_
  exact leaves_moved (.role (by simp [verb]) named (verb ▸ holds)) named
    (.unblock verb _) start (recordsOnly_event _ (by simp [newEvent]))

theorem leaves_requireBlocker {task : Task} {left : BoardDb → Prop}
    {rest : Unit → Command α} (refused : left world.db)
    (denied : ∀ role, left (world.db.checked role))
    (own : task.assignee = sender → Leaves host (rest ()) left world)
    (holds : ∀ member,
      world.db.findMember task.boardId sender = some member →
        world.db.permits member.role "block" = true →
          Leaves host (rest ()) left
            (world.withDb (world.db.checked member.role))) :
    Leaves host (requireBlocker task sender >>= rest) left world := by
  rw [requireBlocker]
  by_cases same : sender = task.assignee
  · rw [if_neg (not_not.mpr same)]
    exact own same.symm
  · rw [if_pos same]
    exact leaves_requireRole refused denied holds

theorem handleBlock_affects (verb : cmd.verb = "block") :
    Affects host notifier cmd sender world (handleBlock cmd sender) := by
  rw [handleBlock]
  refine leaves_named (.kept seeded_self) ?_
  intro taskId task given found
  have named : Names world.db cmd task := ⟨taskId, given, found⟩
  refine leaves_requireBlocker (.kept seeded_self)
    (fun role => .kept (seeded_self.checked role)) ?_ ?_
  · intro own
    refine leaves_utcNow ?_
    exact leaves_moved (.assignee (by simp [verb]) named own) named
      (.block verb _) seeded_self (recordsOnly_event _ (by simp [newEvent]))
  · intro member searched permitted
    refine leaves_utcNow ?_
    refine leaves_moved (.role (by simp [verb]) named ?_) named
      (.block verb _) (seeded_self.checked member.role)
      (recordsOnly_event _ (by simp [newEvent]))
    rw [verb]
    exact ⟨member, searched, permitted⟩

theorem handleComment_affects (verb : cmd.verb = "comment") :
    Affects host notifier cmd sender world (handleComment cmd sender) := by
  rw [handleComment]
  refine affects_role ?_
  intro taskId task role given named holds start
  refine leaves_utcNow ?_
  rw [leaves_sequence, Store.ends_insertEvent]
  refine ⟨fun db inserted => ?_, fun _ _ => .kept start⟩
  exact .noted verb (.role (by simp [verb]) named (verb ▸ holds)) named start
    rfl (insertEvent_logged inserted)

theorem handleContinue_affects (verb : cmd.verb = "continue") :
    Affects host notifier cmd sender world (handleContinue cmd sender) := by
  rw [handleContinue]
  refine affects_role ?_
  intro taskId task role given named holds start
  refine leaves_requireAssignee (.kept start) fun own => ?_
  rw [leaves_ite]
  refine ⟨fun _ => .kept start, fun _ => leaves_utcNow ?_⟩
  exact leaves_moved (.role (by simp [verb]) named (verb ▸ holds)) named
    (.progress verb _ _) start (recordsOnly_event _ (by simp [newEvent]))

theorem handleCancel_affects (verb : cmd.verb = "cancel") :
    Affects host notifier cmd sender world (handleCancel cmd sender) := by
  rw [handleCancel]
  refine affects_role ?_
  intro taskId task role given named holds start
  rw [leaves_ite]
  refine ⟨fun _ => .kept start, fun blocked => leaves_utcNow ?_⟩
  exact leaves_moved (.role (by simp [verb]) named (verb ▸ holds)) named
    (.cancel verb (not_not.mp blocked) _) start
    (recordsOnly_event _ (by simp [newEvent]))

theorem handleReassign_affects (verb : cmd.verb ∈ ["assign", "reassign"]) :
    Affects host notifier cmd sender world (handleReassign cmd sender) := by
  rw [handleReassign]
  refine affects_role ?_
  intro taskId task role given named holds start
  rw [leaves_ite]
  refine ⟨fun _ => .kept start, fun _ => ?_⟩
  rw [leaves_sequence, Store.ends_getMember]
  cases (world.withDb (world.db.checked role)).db.findMember task.boardId
      ((strParam cmd "assignee").getD "") with
  | none => exact .kept start
  | some _ =>
      simp only [List.mem_cons, List.not_mem_nil, or_false] at verb
      refine leaves_utcNow ?_
      rcases verb with assign | reassign
      · exact leaves_moved (.assign assign named holds) named
          (.assign (by simp [assign]) _ _) start (recordsOnly_return _)
      · exact leaves_moved (.role (by simp [reassign]) named (reassign ▸ holds))
          named (.assign (by simp [reassign]) _ _) start (recordsOnly_return _)

theorem handleEdit_affects (verb : cmd.verb = "edit") :
    Affects host notifier cmd sender world (handleEdit cmd sender) := by
  rw [handleEdit]
  refine affects_role ?_
  intro taskId task role given named holds start
  refine leaves_utcNow ?_
  exact leaves_moved (.role (by simp [verb]) named (verb ▸ holds)) named
    (.edit verb _ _ _) start (recordsOnly_return _)

theorem handleDeadline_affects (verb : cmd.verb = "deadline") :
    Affects host notifier cmd sender world
      (handleDeadline host cmd sender) := by
  rw [handleDeadline]
  refine affects_role ?_
  intro taskId task role given named holds start
  rw [leaves_ite]
  refine ⟨fun _ => .kept start, fun _ => ?_⟩
  rw [leaves_ite]
  refine ⟨fun _ => .kept start, fun _ => leaves_utcNow ?_⟩
  exact leaves_moved (.role (by simp [verb]) named (verb ▸ holds)) named
    (.deadline verb _ _) start (recordsOnly_return _)

theorem handleReject_affects (verb : cmd.verb = "reject") :
    Affects host notifier cmd sender world (handleReject cmd sender) := by
  rw [handleReject]
  refine leaves_named (.kept seeded_self) ?_
  intro taskId task given found
  have named : Names world.db cmd task := ⟨taskId, given, found⟩
  refine leaves_requireReviewer (.kept seeded_self) fun own => ?_
  rw [leaves_ite]
  refine ⟨fun _ => .kept seeded_self, fun reviewing => leaves_utcNow ?_⟩
  have reviewing := not_not.mp reviewing
  exact leaves_moved (.reviewer (by simp [verb]) named own reviewing) named
    (.reject verb reviewing _) seeded_self
    (recordsOnly_event _ (by simp [newEvent]))

theorem handleOutput_affects (verb : cmd.verb = "output") :
    Affects host notifier cmd sender world (handleOutput cmd sender) := by
  rw [handleOutput]
  refine affects_role ?_
  intro taskId task role given named holds start
  rw [leaves_ite]
  refine ⟨fun _ => .kept start, fun done => ?_⟩
  rw [leaves_sequence, Store.ends_verifyPipelineIntegrity, leaves_ite]
  refine ⟨fun _ => .kept start, fun complete => leaves_utcNow ?_⟩
  rw [leaves_sequence, Store.ends_insertEvent]
  refine ⟨fun logged inserted => ?_, fun _ _ => .kept start⟩
  have log := insertEvent_logged inserted
  rcases named.row with ⟨row, there, read⟩
  rcases findBoard_of_owned there with ⟨board, found⟩
  rw [← taskFromRow_boardId, read] at found
  have stays : logged.findBoard task.boardId = some board := by
    simpa only [findBoard, log.boards, BoardWorld.withDb_db,
      BoardWorld.tock_db, checked_boards] using found
  rw [leaves_sequence, Store.ends_getBoard]
  refine ⟨fun current same => ?_, fun absent => ?_⟩
  · rw [BoardWorld.withDb_db, stays] at same
    cases same
    refine .output verb (.role (by simp [verb]) named (verb ▸ holds)) named
      (not_not.mp done) ?_ start rfl log found rfl
    have empty := not_not.mp complete
    rwa [List.map_eq_nil_iff, BoardWorld.withDb_db,
      checked_unfinished] at empty
  · rw [BoardWorld.withDb_db, stays] at absent
    cases absent

/-! ## Loops over tasks -/

theorem listTasks_spec {boardId : String} {task : Task}
    (listed : task ∈ before.listTasks boardId none none) :
    ∃ row ∈ before.tasks, row.boardId = boardId ∧ taskFromRow row = task := by
  rw [listTasks, List.mem_map] at listed
  rcases listed with ⟨row, selected, read⟩
  rw [Table.mem_select] at selected
  simp only [Option.all_none, Bool.and_true, beq_iff_eq] at selected
  exact ⟨row, selected.1, selected.2, read⟩

theorem mem_listTasks {row : Task} (there : row ∈ before.tasks) :
    taskFromRow row ∈ before.listTasks row.boardId none none := by
  rw [listTasks, List.mem_map]
  refine ⟨row, Table.mem_select.mpr ⟨there, ?_⟩, rfl⟩
  simp

theorem listTasks_distinct (boardId : String) :
    (before.listTasks boardId none none).Pairwise
      (fun first second => first.id ≠ second.id) := by
  rw [listTasks, List.pairwise_map]
  refine List.Pairwise.imp ?_ (before.tasks.distinct.filter _)
  intro first second free same
  rw [Task.conflict, beq_eq_false_iff_ne] at free
  exact free same

theorem ends_rounds {elements : List Task} (body : Task → Command Unit)
    (fits : Task → Task → Prop)
    (distinct : elements.Pairwise (fun first second => first.id ≠ second.id))
    (listed : ∀ task ∈ elements, ∃ row ∈ world.db.tasks, taskFromRow row = task)
    (round : ∀ task ∈ elements, ∀ next : BoardWorld,
      next.db.isMember task.assignee = true →
        (Command.run host (body task)).Ends
          (fun _ later => ∃ change, TasksMapped change next.db later.db ∧
            (∀ row, row.id ≠ task.id → change row = row) ∧
            (∀ row, taskFromRow row = task →
              (change row).id = row.id ∧ fits row (change row)))
          (fun _ _ => False) next) :
    (Command.run host (forEach elements body)).Ends
      (fun _ later => ∃ change, TasksMapped change world.db later.db ∧
        ∀ row ∈ world.db.tasks,
          (taskFromRow row ∈ elements → fits row (change row)) ∧
          (taskFromRow row ∉ elements → change row = row))
      (fun _ _ => False) world := by
  induction elements generalizing world with
  | nil =>
      refine ⟨id, ⟨rfl, rfl, rfl, rfl, (List.map_id _).symm⟩, ?_⟩
      intro row _
      exact ⟨fun impossible => absurd impossible List.not_mem_nil,
        fun _ => rfl⟩
  | cons head tail induction =>
      rw [List.pairwise_cons] at distinct
      rw [List.forall_mem_cons] at listed round
      rcases listed with ⟨⟨origin, known, read⟩, listed⟩
      have assigned : world.db.isMember head.assignee = true := by
        rw [← read]
        exact isMember_iff.mpr (world.db.assigned origin known)
      rw [forEach, Command.ends_sequence]
      refine (round.1 world assigned).mono ?_ fun _ _ impossible => impossible
      rintro _ middle ⟨first, mapped, others, own⟩
      -- Only the head's own row is read as the head.
      have headRow : ∀ row ∈ world.db.tasks, row.id = head.id →
          taskFromRow row = head := by
        intro row there same
        have equal : row = origin :=
          Tasks.eq_of_id there known (by rw [same, ← read]; rfl)
        rw [equal, read]
      have later : ∀ task ∈ tail, ∃ row ∈ middle.db.tasks,
          taskFromRow row = task := by
        intro task member
        rcases listed task member with ⟨row, there, readTask⟩
        refine ⟨row, mapped.mem.mpr ⟨row, there, others row ?_⟩, readTask⟩
        rw [← taskFromRow_id, readTask]
        exact (distinct.1 task member).symm
      refine (induction distinct.2 later round.2).mono ?_
        fun _ _ impossible => impossible
      rintro _ last ⟨second, mappedLater, each⟩
      refine ⟨fun row => second (first row), mapped.trans mappedLater, ?_⟩
      intro row there
      by_cases same : row.id = head.id
      · have readHead := headRow row there same
        rcases own row readHead with ⟨keptId, fit⟩
        have passed : taskFromRow (first row) ∉ tail := by
          intro member
          apply distinct.1 _ member
          rw [taskFromRow_id, keptId, same]
        have stays := (each _ (mapped.mem.mpr ⟨row, there, rfl⟩)).2 passed
        simp only [stays, readHead]
        exact ⟨fun _ => fit, fun absent => absurd List.mem_cons_self absent⟩
      · have kept := others row same
        have stays : row ∈ middle.db.tasks := mapped.mem.mpr ⟨row, there, kept⟩
        have different : taskFromRow row ≠ head := by
          intro equal
          exact same (by rw [← equal]; rfl)
        have outcome := each row stays
        simp only [kept, List.mem_cons]
        exact ⟨fun member => outcome.1 (member.resolve_left different),
          fun absent => outcome.2 fun member => absent (Or.inr member)⟩

theorem ends_promoteChildren {parent : Task} :
    (Command.run host (promoteChildren parent)).Ends
      (fun _ later => TasksMapped
        (promotedRow (world.db.listTasks parent.boardId none none) parent)
        world.db later.db)
      (fun _ _ => False) world := by
  rw [promoteChildren, Command.ends_sequence, Store.ends_listTasks]
  generalize listing : world.db.listTasks parent.boardId none none = tasks
  have distinct : tasks.Pairwise (fun first second => first.id ≠ second.id) := by
    rw [← listing]
    exact listTasks_distinct parent.boardId
  let fits (row changed : Task) : Prop := changed = { row with status := .ready }
  have separate := distinct.filter (isReleased tasks parent)
  refine (ends_rounds _ fits separate ?_ ?_).mono ?_
    fun _ _ impossible => impossible
  · intro task member
    rw [List.mem_filter, ← listing] at member
    rcases listTasks_spec member.1 with ⟨row, there, _, read⟩
    exact ⟨row, there, read⟩
  · intro task member next assigned
    rw [Command.ends_ignored, Store.ends_updateTask]
    have succeeds : ∃ after,
        next.db.updateTask { task with status := .ready } = .ok after :=
      updateTask_ok assigned
    rcases succeeds with ⟨after, updates⟩
    refine ⟨fun db updated => ?_, fun error failing => ?_⟩
    · refine ⟨_, updateTask_mapped updated,
        fun row other => taskChange_other other, ?_⟩
      intro row read
      subst read
      rw [taskChange_read]
      exact ⟨rfl, rfl⟩
    · rw [updates] at failing
      cases failing
  · rintro _ later ⟨change, mapped, each⟩
    refine ⟨mapped.boards, mapped.members, mapped.taskEvents,
      mapped.rolePermissions, ?_⟩
    rw [mapped.rows]
    apply List.map_congr_left
    intro row there
    have outcome := each row there
    rw [List.mem_filter] at outcome
    by_cases released : row.boardId = parent.boardId ∧
        isReleased tasks parent (taskFromRow row) = true
    · rw [promotedRow, if_pos released]
      refine outcome.1 ⟨?_, released.2⟩
      rw [← listing, ← released.1]
      exact mem_listTasks there
    · rw [promotedRow, if_neg released]
      refine outcome.2 fun member => released ⟨?_, member.2⟩
      rw [← listing] at member
      rcases listTasks_spec member.1 with ⟨origin, known, onBoard, read⟩
      rw [← taskFromRow_boardId row, ← read, taskFromRow_boardId, onBoard]

end AimailGateway.Board
