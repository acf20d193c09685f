import AimailGateway.Board.Commands

/-! # What the functions of a board database end with

Run without interruption, each function ends as stated here, and the commands
are reasoned about through these statements alone.
-/

namespace AimailGateway.Board

open Library Fallible

namespace BoardDb

/-- By full id or, failing that, by short id. -/
def lookupTask (db : BoardDb) (taskRef : String) : Option Task :=
  (db.findTask taskRef).or (db.findTaskByShortId taskRef)

def addVerbs (db : BoardDb) (role : String) (verbs : List String) : BoardDb :=
  verbs.foldl (fun db verb => db.addRolePermission role verb) db

@[irreducible] def addRolePermissions (db : BoardDb) :
    List (String × List String) → BoardDb
  | [] => db
  | entry :: rest => (db.addVerbs entry.1 entry.2).addRolePermissions rest

def seedDefaults (db : BoardDb) : BoardDb :=
  db.addRolePermissions Store.defaults

def hasRole (db : BoardDb) (role : String) : Bool :=
  db.rolePermissions.any (·.1 == role)

/-- A check of the role seeds the defaults first. -/
def seeds (db : BoardDb) (role : String) : Bool :=
  !db.hasRole role && Store.knownRoles.contains role

def checked (db : BoardDb) (role : String) : BoardDb :=
  if db.seeds role then db.seedDefaults else db

/-- What a check of the role and the verb answers. -/
def permits (db : BoardDb) (role verb : String) : Bool :=
  (db.checked role).rolePermissions.contains (role, verb)

/-! ## Frames -/

/-- Only permissions are added. -/
structure Permitted (before after : BoardDb) : Prop where
  frame : after = { before with rolePermissions := after.rolePermissions }
  grown : ∀ row ∈ before.rolePermissions, row ∈ after.rolePermissions

namespace Permitted

variable {first second third : BoardDb}

theorem refl (db : BoardDb) : Permitted db db :=
  ⟨rfl, fun _ there => there⟩

theorem trans (earlier : Permitted first second)
    (later : Permitted second third) : Permitted first third := by
  refine ⟨?_, fun row there => later.grown row (earlier.grown row there)⟩
  rw [later.frame, earlier.frame]

theorem boards (permitted : Permitted first second) :
    second.boards = first.boards := by
  rw [permitted.frame]

theorem members (permitted : Permitted first second) :
    second.members = first.members := by
  rw [permitted.frame]

theorem tasks (permitted : Permitted first second) :
    second.tasks = first.tasks := by
  rw [permitted.frame]

theorem taskEvents (permitted : Permitted first second) :
    second.taskEvents = first.taskEvents := by
  rw [permitted.frame]

end Permitted

variable {db : BoardDb} {role verb : String}
  {row : String × String}

theorem addRolePermission_permitted :
    Permitted db (db.addRolePermission role verb) := by
  rw [addRolePermission]
  split
  · exact .refl db
  · exact ⟨rfl, fun row there => List.mem_append_left _ there⟩

theorem mem_addRolePermission :
    row ∈ (db.addRolePermission role verb).rolePermissions ↔
      row ∈ db.rolePermissions ∨ row = (role, verb) := by
  rw [addRolePermission]
  split
  · next present =>
      constructor
      · exact Or.inl
      · rintro (there | equal)
        · exact there
        · exact equal ▸ present
  · simp

theorem addVerbs_permitted (verbs : List String) :
    Permitted db (db.addVerbs role verbs) := by
  induction verbs generalizing db with
  | nil => exact .refl db
  | cons verb rest induction =>
      exact addRolePermission_permitted.trans induction

theorem mem_addVerbs {verbs : List String} :
    row ∈ (db.addVerbs role verbs).rolePermissions ↔
      row ∈ db.rolePermissions ∨ ∃ verb ∈ verbs, row = (role, verb) := by
  induction verbs generalizing db with
  | nil => simp [addVerbs]
  | cons verb rest induction =>
      refine induction.trans ?_
      rw [mem_addRolePermission]
      simp only [List.mem_cons, exists_eq_or_imp, or_assoc]

theorem addRolePermissions_permitted (entries : List (String × List String)) :
    Permitted db (db.addRolePermissions entries) := by
  induction entries generalizing db with
  | nil =>
      rw [addRolePermissions]
      exact .refl db
  | cons entry rest induction =>
      rw [addRolePermissions]
      exact (addVerbs_permitted entry.2).trans induction

theorem mem_addRolePermissions {entries : List (String × List String)} :
    row ∈ (db.addRolePermissions entries).rolePermissions ↔
      row ∈ db.rolePermissions ∨
        ∃ entry ∈ entries, ∃ verb ∈ entry.2, row = (entry.1, verb) := by
  induction entries generalizing db with
  | nil =>
      rw [addRolePermissions]
      simp
  | cons entry rest induction =>
      rw [addRolePermissions]
      refine induction.trans ?_
      rw [mem_addVerbs]
      simp only [List.mem_cons, exists_eq_or_imp, or_assoc]

theorem checked_permitted : Permitted db (db.checked role) := by
  rw [checked]
  split
  · exact addRolePermissions_permitted _
  · exact .refl db

theorem seeds_iff : db.seeds role = true ↔
    (∀ row ∈ db.rolePermissions, row.1 ≠ role) ∧ role ∈ Store.knownRoles := by
  simp [seeds, hasRole]

end BoardDb

variable {host : Host} {world : BoardWorld} {failed : AppError → BoardWorld → Prop}

namespace BoardWorld

/-- The same moment with another database. -/
def withDb (world : BoardWorld) (db : BoardDb) : BoardWorld :=
  { world with db }

@[simp] theorem withDb_db (world : BoardWorld) (db : BoardDb) :
    (world.withDb db).db = db :=
  rfl

@[simp] theorem tock_db (world : BoardWorld) : world.tock.db = world.db :=
  rfl

end BoardWorld

namespace Command

variable {ok : α → BoardWorld → Prop}

@[simp] theorem ends_return {value : α} :
    (Command.run host (pure value)).Ends ok failed world ↔ ok value world :=
  Iff.rfl

@[simp] theorem ends_error {error : AppError} :
    (Command.run host (fail error : Command α)).Ends ok failed world ↔
      failed error world :=
  Iff.rfl

@[simp] theorem ends_sequence {command : Command β} {rest : β → Command α} :
    (Command.run host (command >>= rest)).Ends ok failed world ↔
      (Command.run host command).Ends
        (fun value next => (Command.run host (rest value)).Ends ok failed next)
        failed world :=
  ends_bind

@[simp] theorem ends_settle {outcome : Except AppError α} :
    (Command.run host (check outcome)).Ends ok failed world ↔
      (∀ value, outcome = .ok value → ok value world) ∧
        (∀ error, outcome = .error error → failed error world) := by
  cases outcome with
  | ok value => simp [Command.run]
  | error error => simp [Command.run]

@[simp] theorem ends_ite {condition : Prop} [Decidable condition]
    {first second : Command α} :
    (Command.run host (if condition then first else second)).Ends ok failed
        world ↔
      (condition → (Command.run host first).Ends ok failed world) ∧
        (¬ condition → (Command.run host second).Ends ok failed world) := by
  by_cases holds : condition
  · simp [holds]
  · simp [holds]

@[simp] theorem ends_attempted {command : Command α}
    {settled : Except AppError α → BoardWorld → Prop} :
    (Command.run host (attempt command : Command (Except AppError α))).Ends
        settled failed world ↔
      (Command.run host command).Ends (fun value => settled (.ok value))
        (fun error => settled (.error error)) world :=
  ends_attempt

@[simp] theorem ends_ignored {command : Command α}
    {settled : Unit → BoardWorld → Prop} :
    (Command.run host (ignore command)).Ends settled failed world ↔
      (Command.run host command).Ends (fun _ => settled ())
        (fun _ => settled ()) world :=
  ends_ignore

theorem ends_commit {outcome : Except AppError BoardDb}
    {ok : Unit → BoardWorld → Prop} :
    (Command.run host (check (world.commit outcome).1)).Ends ok failed
        (world.commit outcome).2 ↔
      (∀ db, outcome = .ok db → ok () (world.withDb db)) ∧
        (∀ error, outcome = .error error → failed error world) := by
  cases outcome with
  | ok db =>
      constructor
      · intro ended
        exact ⟨fun _ equal => by cases equal; exact ended,
          fun _ impossible => by cases impossible⟩
      · exact fun ends => ends.1 db rfl
  | error error => simp [BoardWorld.commit, BoardWorld.withDb]

end Command

namespace Store

@[simp] theorem ends_send {statement : Statement}
    {ok : statement.Answer → BoardWorld → Prop} :
    (Command.run host (send statement)).Ends ok failed world ↔
      ok (perform host statement world).1 (perform host statement world).2 :=
  Iff.rfl

@[simp] theorem ends_utcNow {ok : String → BoardWorld → Prop} :
    (Command.run host utcNow).Ends ok failed world ↔
      ok (host.now world.tick) world.tock :=
  Iff.rfl

@[simp] theorem ends_generateBoardToken {ok : String → BoardWorld → Prop} :
    (Command.run host generateBoardToken).Ends ok failed world ↔
      ok (Board.generateBoardToken (host.randomBytes world.tick))
        world.tock :=
  Iff.rfl

@[simp] theorem ends_generateBoardTokenSalt
    {ok : String → BoardWorld → Prop} :
    (Command.run host generateBoardTokenSalt).Ends ok failed world ↔
      ok (Board.generateBoardTokenSalt (host.randomBytes world.tick))
        world.tock :=
  Iff.rfl

/-! ## Boards and members -/

variable {boardId : String}

@[simp] theorem ends_selectBoard
    {ok : Option BoardRecord → BoardWorld → Prop} :
    (Command.run host (selectBoard boardId)).Ends ok failed world ↔
      ok (world.db.findBoard boardId) world :=
  Iff.rfl

@[simp] theorem ends_getBoard
    {ok : BoardRecord → BoardWorld → Prop} :
    (Command.run host (getBoard boardId)).Ends ok failed world ↔
      (∀ board, world.db.findBoard boardId = some board → ok board world) ∧
        (world.db.findBoard boardId = none → failed noRows world) := by
  rw [getBoard, Command.ends_sequence, ends_selectBoard]
  cases world.db.findBoard boardId with
  | none => simp
  | some board => simp

variable {ok : Unit → BoardWorld → Prop}
  {role verb : String}
  {entries : List (String × List String)} {rows : List (String × String)}

@[simp] theorem ends_updateBoard {board : BoardRecord} :
    (Command.run host (updateBoard board)).Ends ok failed world ↔
      ok () (world.withDb (world.db.updateBoard board)) :=
  Iff.rfl

@[simp] theorem ends_getMember {boardId email : String}
    {ok : Option Member → BoardWorld → Prop} :
    (Command.run host (getMember boardId email)).Ends ok failed world ↔
      ok (world.db.findMember boardId email) world :=
  Iff.rfl

@[simp] theorem ends_listMembers
    {ok : List Member → BoardWorld → Prop} :
    (Command.run host (listMembers boardId)).Ends ok failed world ↔
      ok (world.db.members.select (·.boardId == boardId)) world :=
  Iff.rfl

@[simp] theorem ends_upsertMember {member : Member} :
    (Command.run host (upsertMember member)).Ends ok failed world ↔
      (∀ db, world.db.upsertMember member = .ok db →
        ok () (world.withDb db)) ∧
        (∀ error, world.db.upsertMember member = .error error →
          failed error world) := by
  rw [upsertMember, Command.ends_sequence, ends_send]
  exact Command.ends_commit

/-! ## Permissions -/

@[simp] theorem ends_countRole {role : String} {ok : Nat → BoardWorld → Prop} :
    (Command.run host (countRole role)).Ends ok failed world ↔
      ok (world.db.rolePermissions.countP (·.1 == role)) world :=
  Iff.rfl

@[simp] theorem ends_countRoleVerb
    {ok : Nat → BoardWorld → Prop} :
    (Command.run host (countRoleVerb role verb)).Ends ok failed world ↔
      ok (world.db.rolePermissions.countP (· == (role, verb))) world :=
  Iff.rfl

@[simp] theorem ends_addRolePermission :
    (Command.run host (addRolePermission role verb)).Ends ok failed world ↔
      ok () (world.withDb (world.db.addRolePermission role verb)) :=
  Iff.rfl

@[simp] theorem ends_addRolePermissions :
    (Command.run host (addRolePermissions entries)).Ends ok failed world ↔
      ok () (world.withDb (world.db.addRolePermissions entries)) := by
  have verbs (role : String) (verbs : List String) (world : BoardWorld)
      (ok : Unit → BoardWorld → Prop) :
      (Command.run host (forEach verbs fun verb =>
          addRolePermission role verb)).Ends ok failed world ↔
        ok () (world.withDb (world.db.addVerbs role verbs)) := by
    induction verbs generalizing world with
    | nil => rfl
    | cons verb rest induction =>
        rw [forEach, Command.ends_sequence, ends_addRolePermission]
        exact induction _
  rw [addRolePermissions]
  induction entries generalizing world with
  | nil =>
      rw [BoardDb.addRolePermissions]
      rfl
  | cons entry rest induction =>
      rw [forEach, Command.ends_sequence, verbs, BoardDb.addRolePermissions]
      exact induction

@[simp] theorem ends_insertRolePermissions :
    (Command.run host (insertRolePermissions entries)).Ends ok failed world ↔
      ok () (world.withDb (world.db.addRolePermissions entries)) :=
  ends_addRolePermissions

@[simp] theorem ends_seedDefaultRolePermissions :
    (Command.run host seedDefaultRolePermissions).Ends ok failed world ↔
      ok () (world.withDb world.db.seedDefaults) :=
  ends_addRolePermissions

theorem countP_role {role : String} :
    rows.countP (·.1 == role) = 0 ↔ rows.any (·.1 == role) = false := by
  rw [List.countP_eq_zero, List.any_eq_false]

theorem countP_roleVerb {row : String × String} :
    decide (0 < rows.countP (· == row)) = rows.contains row := by
  rw [Bool.eq_iff_iff, decide_eq_true_iff, List.countP_pos_iff,
    List.contains_iff_mem]
  simp

@[simp] theorem ends_checkRolePermission
    {ok : Bool → BoardWorld → Prop} :
    (Command.run host (checkRolePermission role verb)).Ends ok failed world ↔
      ok (world.db.permits role verb)
        (world.withDb (world.db.checked role)) := by
  rw [checkRolePermission, Command.ends_sequence, ends_countRole]
  simp only [countP_role]
  by_cases absent : world.db.rolePermissions.any (·.1 == role) = false
  · rw [if_pos absent]
    have free : world.db.hasRole role = false := absent
    by_cases known : knownRoles.contains role = true
    · rw [if_pos known]
      simp only [Command.ends_sequence, ends_seedDefaultRolePermissions,
        ends_countRoleVerb, Command.ends_return, BoardWorld.withDb_db,
        countP_roleVerb, BoardDb.permits, BoardDb.checked, BoardDb.seeds, free,
        known, Bool.not_false, Bool.and_self, if_true]
    · rw [if_neg known]
      rw [Bool.not_eq_true] at known
      have denied : world.db.permits role verb = false := by
        simp only [BoardDb.permits, BoardDb.checked, BoardDb.seeds, known,
          Bool.and_false, Bool.false_eq_true, if_false]
        rw [Bool.eq_false_iff, ne_eq, List.contains_iff_mem]
        intro present
        rw [List.any_eq_false] at absent
        exact absent _ present (beq_self_eq_true role)
      have kept : world.db.checked role = world.db := by
        simp only [BoardDb.checked, BoardDb.seeds, known, Bool.and_false,
          Bool.false_eq_true, if_false]
      rw [denied, kept]
      rfl
  · rw [if_neg absent]
    rw [Bool.not_eq_false] at absent
    have present : world.db.hasRole role = true := absent
    simp only [Command.ends_sequence, ends_countRoleVerb, Command.ends_return,
      countP_roleVerb, BoardDb.permits, BoardDb.checked, BoardDb.seeds, present,
      Bool.not_true, Bool.false_and, Bool.false_eq_true, if_false]
    exact Iff.rfl

/-! ## Tasks -/

@[simp] theorem ends_selectTaskById {taskId : String}
    {ok : Option Task → BoardWorld → Prop} :
    (Command.run host (selectTaskById taskId)).Ends ok failed world ↔
      ok (world.db.findTask taskId) world :=
  Iff.rfl

@[simp] theorem ends_selectTaskByShortId {shortId : String}
    {ok : Option Task → BoardWorld → Prop} :
    (Command.run host (selectTaskByShortId shortId)).Ends ok failed world ↔
      ok (world.db.findTaskByShortId shortId) world :=
  Iff.rfl

@[simp] theorem ends_getTask {taskRef : String}
    {ok : Task → BoardWorld → Prop} :
    (Command.run host (getTask taskRef)).Ends ok failed world ↔
      (∀ task, world.db.lookupTask taskRef = some task → ok task world) ∧
        (world.db.lookupTask taskRef = none → failed noRows world) := by
  rw [getTask, Command.ends_sequence, ends_selectTaskById]
  simp only [BoardDb.lookupTask]
  cases world.db.findTask taskRef with
  | some task => simp
  | none =>
      simp only [Command.ends_sequence, ends_selectTaskByShortId,
        Option.none_or]
      cases world.db.findTaskByShortId taskRef with
      | some task => simp
      | none => simp

@[simp] theorem ends_resolveTaskId {taskRef : String}
    {ok : String → BoardWorld → Prop} :
    (Command.run host (resolveTaskId taskRef)).Ends ok failed world ↔
      (∀ task, world.db.lookupTask taskRef = some task → ok task.id world) ∧
        (world.db.lookupTask taskRef = none → failed noRows world) := by
  rw [resolveTaskId, Command.ends_sequence, ends_getTask]
  simp only [Command.ends_return]

@[simp] theorem ends_listTasks {status assignee : Option String}
    {ok : List Task → BoardWorld → Prop} :
    (Command.run host (listTasks boardId status assignee)).Ends ok failed world ↔
      ok (world.db.listTasks boardId status assignee) world :=
  Iff.rfl

@[simp] theorem ends_createTask {task : Task} :
    (Command.run host (createTask task)).Ends ok failed world ↔
      (∀ db, world.db.insertTask task = .ok db → ok () (world.withDb db)) ∧
        (∀ error, world.db.insertTask task = .error error →
          failed error world) := by
  rw [createTask, Command.ends_sequence, ends_send]
  exact Command.ends_commit

@[simp] theorem ends_updateTask {task : Task} :
    (Command.run host (updateTask task)).Ends ok failed world ↔
      (∀ db, world.db.updateTask task = .ok db → ok () (world.withDb db)) ∧
        (∀ error, world.db.updateTask task = .error error →
          failed error world) := by
  rw [updateTask, Command.ends_sequence, ends_send]
  exact Command.ends_commit

@[simp] theorem ends_touchTask {taskId : String} :
    (Command.run host (touchTask taskId)).Ends ok failed world ↔
      ok () (world.tock.withDb
        (world.db.touchTask taskId (host.now world.tick))) :=
  Iff.rfl

@[simp] theorem ends_insertEvent {event : TaskEvent} :
    (Command.run host (insertEvent event)).Ends ok failed world ↔
      (∀ db, world.db.insertEvent event = .ok db → ok () (world.withDb db)) ∧
        (∀ error, world.db.insertEvent event = .error error →
          failed error world) := by
  rw [insertEvent, Command.ends_sequence, ends_send]
  exact Command.ends_commit

@[simp] theorem ends_verifyPipelineIntegrity
    {ok : List String → BoardWorld → Prop} :
    (Command.run host (verifyPipelineIntegrity boardId)).Ends ok failed world ↔
      ok ((world.db.unfinished boardId).map
        fun row => row.1 ++ " status=" ++ row.2) world :=
  Iff.rfl

@[simp] theorem ends_nextShortId
    {ok : String → BoardWorld → Prop} :
    (Command.run host (nextShortId boardId)).Ends ok failed world ↔
      ok ("T" ++ toString (world.db.nextTaskSeq boardId))
        (world.withDb (world.db.bumpTaskSeq boardId)) :=
  Iff.rfl

end Store

namespace Commands

/-! ## Authorisation -/

variable {ok : Unit → BoardWorld → Prop}

@[simp] theorem ends_requireRole {boardId sender verb : String} :
    (Command.run host (requireRole boardId sender verb)).Ends ok failed world ↔
      (∀ member, world.db.findMember boardId sender = some member →
        (world.db.permits member.role verb = true →
          ok () (world.withDb (world.db.checked member.role))) ∧
        (world.db.permits member.role verb = false →
          failed (notPermitted member.role verb)
            (world.withDb (world.db.checked member.role)))) ∧
      (world.db.findMember boardId sender = none →
        failed (notMember sender) world) := by
  rw [requireRole, Command.ends_sequence, Store.ends_getMember]
  cases world.db.findMember boardId sender with
  | none => simp
  | some member =>
      simp only [Command.ends_sequence, Store.ends_checkRolePermission]
      cases permitted : world.db.permits member.role verb with
      | true => simp [permitted]
      | false => simp [permitted]

@[simp] theorem ends_requireAssignee {task : Task} {sender : String} :
    (Command.run host (requireAssignee task sender)).Ends ok failed world ↔
      (task.assignee = sender → ok () world) ∧
        (task.assignee ≠ sender →
          failed (.forbidden
            ("only assignee can perform this action: " ++ sender)) world) := by
  rw [requireAssignee]
  by_cases own : task.assignee = sender
  · simp [own]
  · simp [own]

@[simp] theorem ends_requireReviewer {task : Task} {sender : String} :
    (Command.run host (requireReviewer task sender)).Ends ok failed world ↔
      (task.reviewer = some sender → ok () world) ∧
        (task.reviewer ≠ some sender →
          failed (.forbidden
            ("only the assigned reviewer can perform this action: " ++
              sender)) world) := by
  rw [requireReviewer]
  by_cases own : task.reviewer = some sender
  · simp [own]
  · simp [own]

@[simp] theorem ends_requireMember {boardId sender : String} :
    (Command.run host (requireMember boardId sender)).Ends ok failed world ↔
      (∀ member, world.db.findMember boardId sender = some member →
        ok () world) ∧
        (world.db.findMember boardId sender = none →
          failed (notMember sender) world) := by
  rw [requireMember, Command.ends_sequence, Store.ends_getMember]
  cases world.db.findMember boardId sender with
  | none => simp
  | some member => simp

@[simp] theorem ends_required {value : Option α} {message : String}
    {ok : α → BoardWorld → Prop} :
    (Command.run host (required value message)).Ends ok failed world ↔
      (∀ given, value = some given → ok given world) ∧
        (value = none → failed (.badRequest message) world) := by
  cases value with
  | none => simp [required]
  | some given => simp [required]

@[simp] theorem ends_extractTaskId {cmd : A2aCommand}
    {ok : String → BoardWorld → Prop} :
    (Command.run host (extractTaskId cmd)).Ends ok failed world ↔
      (∀ taskId, cmd.taskId = some taskId → ok taskId world) ∧
        (cmd.taskId = none → failed (.badRequest "task_id required") world) :=
  ends_required

end Commands

end AimailGateway.Board
