import AimailGateway.Board.Runs

/-! # What an event makes of a task

A row of the task table after an event is a row from before it, changed in one
of a few ways, or one that a `create` command asked for.
-/

namespace AimailGateway.Board

open Library BoardDb

/-! ## Steps of a command -/

inductive RowStep (notifier : Notifier) (cmd : A2aCommand) (sender : String)
    (before after : BoardDb) (row : Task) : Task → Prop where
  | kept : RowStep notifier cmd sender before after row row
  | moved {updated : Task}
      (authority : Authority before notifier cmd sender row.boardId)
      (named : Names before cmd (taskFromRow row))
      (transition : Transition cmd (taskFromRow row) updated) :
      RowStep notifier cmd sender before after row updated
  | finished {updated : Task} {kind : String}
      (authority : Authority before notifier cmd sender row.boardId)
      (named : Names before cmd (taskFromRow row))
      (finish : Finish cmd (taskFromRow row) updated kind) :
      RowStep notifier cmd sender before after row updated
  | promoted (verb : cmd.verb ∈ ["complete", "approve", "verify"])
      (waits : (taskFromRow row).status = .todo) :
      RowStep notifier cmd sender before after row { row with status := .ready }
  | reopened {reopened : List String} {status : TaskStatus} {now : String}
      (verb : cmd.verb = "reopen")
      (authority : Authority before notifier cmd sender row.boardId)
      (awaits : ∃ board, before.findBoard row.boardId = some board ∧
        board.status = .awaitingOwner)
      (moves : Commands.reopenedStatus reopened (taskFromRow row) =
        some status) :
      RowStep notifier cmd sender before after row
        { row with status, updatedAt := now }

variable {host : Host} {notifier : Notifier} {cmd : A2aCommand}
  {sender : String} {before after : BoardDb}
  {settings : Settings}
  {boardId : String}
  {row row' : Task}

theorem Transition.written {row updated : Task}
    (transition : Transition cmd (taskFromRow row) updated) :
    taskChange updated row = updated := by
  cases transition with
  | _ => exact if_pos rfl

theorem Finish.written {row updated : Task} {kind : String}
    (finish : Finish cmd (taskFromRow row) updated kind) :
    taskChange updated row = updated := by
  cases finish with
  | _ => exact if_pos rfl

theorem Finish.verb {task updated : Task} {kind : String}
    (finish : Finish cmd task updated kind) :
    cmd.verb ∈ ["complete", "approve", "verify"] := by
  cases finish with
  | complete verb => simp [verb]
  | approve verb => exact List.mem_cons_of_mem _ verb

theorem promotedRow_done {tasks : List Task} {parent row : Task}
    (done : row.status = .done) : promotedRow tasks parent row = row := by
  rw [promotedRow, if_neg]
  rintro ⟨_, released⟩
  rw [Commands.isReleased, Bool.and_eq_true, decide_eq_true_iff] at released
  have read : (taskFromRow row).status = .done := by
    rw [taskFromRow, done]
    rfl
  rw [read] at released
  cases released.2

theorem promotedRow_cases (tasks : List Task) (parent row : Task) :
    promotedRow tasks parent row = row ∨
      (taskFromRow row).status = .todo ∧
        promotedRow tasks parent row = { row with status := .ready } := by
  rw [promotedRow]
  split
  · next released =>
      rw [Commands.isReleased, Bool.and_eq_true, decide_eq_true_iff] at released
      exact .inr ⟨released.2.2, rfl⟩
  · exact .inl rfl

structure MembersOnly (before after : BoardDb) : Prop where
  boards : after.boards = before.boards
  tasks : after.tasks = before.tasks
  taskEvents : after.taskEvents = before.taskEvents
  rolePermissions : after.rolePermissions = before.rolePermissions

theorem upsertMember_only {db : BoardDb} {member : Member}
    (written : db.upsertMember member = .ok after) : MembersOnly db after := by
  rw [upsertMember] at written
  split at written
  · split at written
    · cases written
      exact ⟨rfl, rfl, rfl, rfl⟩
    · cases written
      exact ⟨rfl, rfl, rfl, rfl⟩
  · cases written

theorem upsertMembers_only {db : BoardDb} {members : List Member}
    (written : db.upsertMembers members = .ok after) : MembersOnly db after := by
  induction members generalizing db with
  | nil =>
      cases written
      exact ⟨rfl, rfl, rfl, rfl⟩
  | cons head tail induction =>
      rw [upsertMembers] at written
      cases first : db.upsertMember head with
      | error error =>
          rw [first] at written
          cases written
      | ok next =>
          rw [first] at written
          have earlier := upsertMember_only first
          have later := induction written
          exact ⟨later.boards.trans earlier.boards,
            later.tasks.trans earlier.tasks,
            later.taskEvents.trans earlier.taskEvents,
            later.rolePermissions.trans earlier.rolePermissions⟩

theorem PermissionsRefreshed.permitted
    (permissions : PermissionsRefreshed cmd before after) :
    Permitted before after := by
  have seeds : Permitted before before.seedDefaults :=
    addRolePermissions_permitted _
  cases permissions with
  | unreached same => exact same ▸ .refl before
  | seeded same => exact same ▸ seeds
  | overridden given known same =>
      exact same ▸ seeds.trans (addRolePermissions_permitted _)

/-- A row that a command asks for, next to all that were there. -/
structure CreatedRow (host : Host) (notifier : Notifier) (cmd : A2aCommand)
    (before after : BoardDb) (sender : String) (row : Task) : Prop where
  verb : cmd.verb = "create"
  requested : ∃ boardId, Authority before notifier cmd sender boardId ∧
    Requested host cmd before boardId sender row
  members : after.members = before.members
  others : ∀ other ∈ before.tasks, other ∈ after.tasks

theorem CreatedRow.fresh {row : Task}
    (created : CreatedRow host notifier cmd before after sender row) :
    (row.status = .triage ∨ row.status = .ready) ∧ row.completedAt = none ∧
      row.cancelledAt = none := by
  rcases created.requested with
    ⟨boardId, _, entries, _, entry, _, _, _, shortId, ts, same⟩
  rw [same]
  refine ⟨?_, rfl, rfl⟩
  change (if _ then TaskStatus.triage else .ready) = _ ∨
    (if _ then TaskStatus.triage else .ready) = _
  split
  · exact .inl rfl
  · exact .inr rfl

theorem Effect.rows (effect : Effect host notifier cmd sender before after)
    {row' : Task} (there : row' ∈ after.tasks) :
    (∃ row ∈ before.tasks, row.id = row'.id ∧
      RowStep notifier cmd sender before after row row') ∨
      CreatedRow host notifier cmd before after sender row' := by
  have stays : row' ∈ before.tasks →
      (∃ row ∈ before.tasks, row.id = row'.id ∧
        RowStep notifier cmd sender before after row row') ∨
        CreatedRow host notifier cmd before after sender row' :=
    fun kept => .inl ⟨row', kept, rfl, .kept⟩
  cases effect with
  | kept seeded =>
      rw [seeded.permitted.tasks] at there
      exact stays there
  | noted verb authority named seeded kind logged =>
      rw [logged.tasks, seeded.permitted.tasks] at there
      exact stays there
  | @moved task updated middle moved authority named transition seeded mapped
      recorded =>
      have tasks : after.tasks = moved.tasks := by
        cases recorded with
        | nothing same => rw [same]
        | event kind logged => exact logged.tasks
      rw [tasks, mapped.mem, seeded.permitted.tasks] at there
      rcases there with ⟨row, known, equal⟩
      by_cases same : row.id = task.id
      · have read := named.eq_row known same
        subst read
        rw [transition.written] at equal
        subst equal
        exact .inl ⟨row, known, transition.same.id.symm,
          .moved authority named transition⟩
      · rw [taskChange_other] at equal
        · exact stays (equal ▸ known)
        · rw [transition.same.id]
          exact same
  | @finished task updated kind event middle done logged authority named finish
      seeded mapped about typed log promoted =>
      rw [promoted.mem, log.tasks] at there
      rcases there with ⟨finished, listed, equal⟩
      rw [mapped.mem, seeded.permitted.tasks] at listed
      rcases listed with ⟨row, known, written⟩
      by_cases same : row.id = task.id
      · have read := named.eq_row known same
        subst read
        rw [finish.written] at written
        subst written
        rw [promotedRow_done finish.done] at equal
        subst equal
        exact .inl ⟨row, known, finish.same.id.symm,
          .finished authority named finish⟩
      · rw [taskChange_other] at written
        · subst written
          rcases promotedRow_cases (logged.listTasks task.boardId none none)
            task row with keeps | ⟨waits, ready⟩
          · rw [keeps] at equal
            exact stays (equal ▸ known)
          · rw [ready] at equal
            subst equal
            exact .inl ⟨row, known, rfl, .promoted finish.verb waits⟩
        · rw [finish.same.id]
          exact same
  | output verb authority named done complete seeded kind log found result =>
      have tasks : after.tasks = before.tasks := by
        rw [result]
        exact log.tasks.trans seeded.permitted.tasks
      rw [tasks] at there
      exact stays there
  | @created boardId rows middle verb authority seeded requested added =>
      have rows : ∀ row, row ∈ after.tasks ↔ row ∈ before.tasks ∨ row ∈ rows := by
        intro row
        rw [← Table.mem_rows, added.tasks, List.mem_append, Table.mem_rows,
          seeded.permitted.tasks]
      rcases (rows row').mp there with kept | asked
      · exact stays kept
      · exact .inr ⟨verb, ⟨boardId, authority, requested row' asked⟩,
          added.members.trans seeded.permitted.members,
          fun other known => (rows other).mpr (.inl known)⟩
  | refreshed verb authority found asked written permissions =>
      rw [permissions.permitted.tasks,
        (upsertMembers_only written).tasks] at there
      exact stays there
  | @reopened boardId board middle moved change verb authority seeded found
      awaiting mapped others own result =>
      have tasks : after.tasks = moved.tasks := by
        rw [result]
        rfl
      rw [tasks, mapped.mem, seeded.permitted.tasks] at there
      rcases there with ⟨row, known, equal⟩
      by_cases same : row.boardId = boardId
      · rcases own row known same with ⟨now, becomes⟩
        rw [becomes] at equal
        cases moves : Commands.reopenedStatus (reopenedIds before boardId)
            (taskFromRow row) with
        | none =>
            rw [moves] at equal
            exact stays (equal ▸ known)
        | some status =>
            rw [moves] at equal
            subst equal
            exact .inl ⟨row, known, rfl,
              .reopened verb (same ▸ authority)
                ⟨board, same ▸ found, awaiting⟩ moves⟩
      · rw [others row known same] at equal
        exact stays (equal ▸ known)

/-! ## Steps of an event -/

inductive EventStep (settings : Settings) (boardId : String)
    (before after : BoardDb) (row : Task) : Event → Task → Prop where
  | kept (event : Event) : EventStep settings boardId before after row event row
  | commanded {mail : InboundMail} {cmd : A2aCommand} {board : BoardRecord}
      {row' : Task} (carried : Carries settings mail boardId cmd)
      (found : before.findBoard boardId = some board)
      (current : Interceptor.isPast board = false)
      (step : RowStep (Interceptor.notifierOf board) cmd mail.sender before
        after row row') :
      EventStep settings boardId before after row (.mail mail) row'
  /-- A heartbeat over HTTP. -/
  | started {segment memberEmail token now : String}
      {request : Handlers.Request}
      (runnable : (taskFromRow row).status = .ready ∨
        (taskFromRow row).status = .running) :
      EventStep settings boardId before after row
        (.request segment memberEmail token request)
        { taskFromRow row with status := .running, updatedAt := now }
  | swept {boards : List String} (running : row.status = .running) :
      EventStep settings boardId before after row (.scanHeartbeats boards)
        { row with status := .blocked }
  | renamed {old new : String} {row' : Task} (different : old ≠ new)
      (same : row.SameButAddresses row') :
      EventStep settings boardId before after row (.rename old new) row'

theorem Migrated.tasks (migrated : Migrated before after) :
    after.tasks = before.tasks := by
  cases migrated with
  | kept same => rw [same]
  | hashed same =>
      rw [same]
      rfl

theorem Migrated.boards (migrated : Migrated before after) :
    after.boards = before.boards := by
  cases migrated with
  | kept same => rw [same]
  | hashed same =>
      rw [same]
      rfl

theorem createBoard_tasks {board : BoardRecord}
    (created : before.createBoard board = .ok after) :
    after.members = before.members ∧ after.tasks = before.tasks ∧
      after.taskEvents = before.taskEvents ∧
      after.rolePermissions = before.rolePermissions := by
  rw [createBoard] at created
  split at created
  · cases created
  · split at created
    · cases created
      exact ⟨rfl, rfl, rfl, rfl⟩
    · cases created

theorem initialised_permitted
    (given : Option (List (String × List String))) (db : BoardDb) :
    Permitted db (initialised given db) := by
  have seeds : ∀ start : BoardDb, Permitted start start.seedDefaults :=
    fun start => addRolePermissions_permitted _
  cases given with
  | none => exact seeds db
  | some entries => exact (addRolePermissions_permitted entries).trans (seeds _)

theorem Founded.tasks {mail : InboundMail}
    (founded : Founded settings mail boardId before after) :
    after.tasks = before.tasks ∧ after.taskEvents = before.taskEvents := by
  rcases founded.stages with
    ⟨created, enrolled, members, opened, _, written, finish⟩
  have first : created.tasks = before.tasks ∧
      created.taskEvents = before.taskEvents := by
    rcases opened with same | ⟨board, _, _, inserted⟩
    · rw [same]
      exact ⟨rfl, rfl⟩
    · have kept := createBoard_tasks inserted
      exact ⟨kept.2.1, kept.2.2.1⟩
  have second := upsertMembers_only written
  have third : Permitted enrolled after := by
    rcases finish with same | same
    · rw [same]
      exact .refl enrolled
    · rw [same]
      exact initialised_permitted _ enrolled
  exact ⟨third.tasks.trans (second.tasks.trans first.1),
    third.taskEvents.trans (second.taskEvents.trans first.2)⟩

theorem Task.SameButAddresses.id
    (same : row.SameButAddresses row') : row'.id = row.id := by
  rw [SameButAddresses] at same
  have equal := congrArg Task.id same
  exact equal

theorem renamedFile_relabelled (settings : Settings) (old new : String)
    (db : BoardDb) : Relabelled db (renamedFile settings old new db) := by
  rw [renamedFile]
  split
  · exact (settings.quotedRename old new db).2
  · exact renameMember_relabelled db old new

/-- A row that a create command in a mail asked for. -/
def EventCreates (settings : Settings) (boardId : String)
    (before after : BoardDb) (event : Event) (row : Task) : Prop :=
  ∃ mail cmd board, event = .mail mail ∧ Carries settings mail boardId cmd ∧
    before.findBoard boardId = some board ∧ Interceptor.isPast board = false ∧
    CreatedRow settings.host (Interceptor.notifierOf board) cmd before after
      mail.sender row

theorem Touched.rows {event : Event}
    (touched : Touched settings event boardId before after) {row' : Task}
    (there : row' ∈ after.tasks) :
    (∃ row ∈ before.tasks, row.id = row'.id ∧
      EventStep settings boardId before after row event row') ∨
      EventCreates settings boardId before after event row' := by
  have stays : row' ∈ before.tasks →
      (∃ row ∈ before.tasks, row.id = row'.id ∧
        EventStep settings boardId before after row event row') ∨
        EventCreates settings boardId before after event row' :=
    fun kept => .inl ⟨row', kept, rfl, .kept event⟩
  cases touched with
  | idle => exact stays there
  | founded founded =>
      rw [founded.tasks.1] at there
      exact stays there
  | commanded carried found current effect =>
      rcases effect.rows there with ⟨row, known, same, step⟩ | created
      · exact .inl ⟨row, known, same, .commanded carried found current step⟩
      · exact .inr ⟨_, _, _, rfl, carried, found, current, created⟩
  | confirmed confirms => exact stays there
  | requested migrated seeds effect =>
      have tasks := seeds.permitted.tasks.trans migrated.tasks
      rcases effect.rows there with ⟨row, known, same, step⟩ | ⟨verb, _, _, _⟩
      · rw [tasks] at known
        cases step with
        | kept => exact stays known
        | moved authority named transition =>
            cases transition with
            | start verb runnable now =>
                exact .inl ⟨row, known, same, .started runnable⟩
            | progress verb => simp [heartbeatCommand] at verb
            | assign verb => simp [heartbeatCommand] at verb
            | edit verb => simp [heartbeatCommand] at verb
            | deadline verb => simp [heartbeatCommand] at verb
            | submit verb => simp [heartbeatCommand] at verb
            | review verb => simp [heartbeatCommand] at verb
            | reject verb => simp [heartbeatCommand] at verb
            | block verb => simp [heartbeatCommand] at verb
            | unblock verb => simp [heartbeatCommand] at verb
            | cancel verb => simp [heartbeatCommand] at verb
        | finished authority named finish =>
            cases finish with
            | complete verb => simp [heartbeatCommand] at verb
            | approve verb => simp [heartbeatCommand] at verb
        | promoted verb => simp [heartbeatCommand] at verb
        | reopened verb => simp [heartbeatCommand] at verb
      · simp [heartbeatCommand] at verb
  | swept swept =>
      rcases swept.mapped with ⟨change, mapped, each⟩
      rw [mapped.mem] at there
      rcases there with ⟨row, known, equal⟩
      rcases each row known with same | ⟨running, blocked⟩
      · exact stays (equal ▸ same.symm ▸ known)
      · rw [blocked] at equal
        subst equal
        exact .inl ⟨row, known, rfl, .swept running⟩
  | archived archived =>
      rw [archived.tasks] at there
      exact stays there
  | @renamed old new boardId before different =>
      rcases (renamedFile_relabelled settings old new before).tasks with
        ⟨change, rows, same⟩
      rw [← Table.mem_rows, rows, List.mem_map] at there
      rcases there with ⟨row, known, equal⟩
      subst equal
      exact .inl ⟨row, known, (same row).id.symm,
        .renamed different (same row)⟩

theorem Touched.step {event : Event}
    (touched : Touched settings event boardId before after)
    (known : row ∈ before.tasks) (there : row' ∈ after.tasks)
    (same : row'.id = row.id) :
    EventStep settings boardId before after row event row' := by
  rcases touched.rows there with ⟨origin, listed, sameOrigin, step⟩ | created
  · have equal : origin = row :=
      Tasks.eq_of_id listed known (sameOrigin.trans same)
    exact equal ▸ step
  · rcases created with ⟨_, _, _, _, _, _, _, asked⟩
    have equal : row' = row := Tasks.eq_of_id there (asked.others row known) same
    exact equal ▸ .kept event

/-! ## Commands as they are written -/

def commandWords (mail : InboundMail) : List String :=
  ((Text.afterStart "[A2A] " (Text.trim mail.subject)).map Text.words).getD []

theorem Carries.words {mail : InboundMail} {cmd : A2aCommand}
    (carried : Carries settings mail boardId cmd) :
    cmd.verb = (commandWords mail).head?.getD "" ∧
      cmd.taskId = (commandWords mail)[1]? := by
  rcases carried with ⟨_, rest, read, given⟩
  rw [commandWords, read]
  simp only [Interceptor.commandOf, Option.bind_eq_bind,
    Option.bind_eq_some_iff] at given
  rcases given with ⟨identified, _, attached, _, result⟩
  cases result
  exact ⟨rfl, rfl⟩

end AimailGateway.Board
