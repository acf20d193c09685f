import AimailGateway.Board.Connections
import AimailGateway.Board.TaskSteps

/-! # The review gate

A task with a reviewer is done only when this reviewer approves it while it is
under review, and each approval leaves one event, as long as no job writes over
what another has made of the task since it was read, and no approval is cut off
before it is recorded.
-/

namespace AimailGateway.Board

open Library Fallible BoardDb

open Program (Ensures Asks)

/-! ## What a job may write -/

/-- The task a job has at hand, and the task whose approval it has still to
record. -/
structure Progress where
  read : Option Task
  due : Option String

def approvalOf (event : TaskEvent) : Option String :=
  if event.eventType = "approved" then some event.taskId else none

/-- How a task is written: unfinished, as it was, or approved. -/
inductive Writes (approver : Option String) (progress : Progress) (task : Task)
    (aim : Except AppError Unit → Progress → Prop) : Prop where
  | unfinished (status : task.status ≠ .done)
      (next : ∀ answer, aim answer progress)
  | settled {read : Task} (at_hand : progress.read = some read)
      (reviewer : task.reviewer = read.reviewer)
      (free : read.status = .done ∨ read.reviewer = none)
      (next : ∀ answer, aim answer progress)
  | approved {read : Task} {sender : String}
      (at_hand : progress.read = some read) (id : task.id = read.id)
      (done : task.status = .done)
      (reviewer : task.reviewer = read.reviewer)
      (approves : approver = some sender) (own : read.reviewer = some sender)
      (reviewing : read.status = .reviewing)
      (refused : ∀ error, aim (.error error) progress)
      (written : aim (.ok ()) { progress with due := some task.id })

/-- An approval is recorded by the statement after it, no task is created done,
and no other job finishes a task that is reviewed. -/
def gate (approver : Option String) :
    Program.Rule Statement Statement.Answer Progress
  | .selectTaskById _, progress, aim => progress.due = none ∧
      ∀ answer : Option Task,
        aim answer { progress with read := answer.or progress.read }
  | .selectTaskByShortId _, progress, aim => progress.due = none ∧
      ∀ answer : Option Task,
        aim answer { progress with read := answer.or progress.read }
  | .updateTask task, progress, aim =>
      progress.due = none ∧ Writes approver progress task aim
  | .insertTask task, progress, aim =>
      progress.due = none ∧ task.status ≠ .done ∧ ∀ answer, aim answer progress
  | .insertEvent event, progress, aim =>
      progress.due = approvalOf event ∧
        ∀ answer, aim answer { progress with due := none }
  | _, progress, aim => progress.due = none ∧ ∀ answer, aim answer progress

theorem gate_monotone {approver : Option String} : (gate approver).Monotone := by
  intro statement progress strong weak weaker holds
  cases statement with
  | updateTask task =>
      refine ⟨holds.1, ?_⟩
      cases holds.2 with
      | unfinished status next =>
          exact .unfinished status fun answer => weaker _ _ (next answer)
      | settled at_hand reviewer free next =>
          exact .settled at_hand reviewer free
            fun answer => weaker _ _ (next answer)
      | approved at_hand id done reviewer approves own reviewing refused
          written =>
          exact .approved at_hand id done reviewer approves own reviewing
            (fun error => weaker _ _ (refused error)) (weaker _ _ written)
  | insertTask task =>
      exact ⟨holds.1, holds.2.1, fun answer => weaker _ _ (holds.2.2 answer)⟩
  | _ => exact ⟨holds.1, fun answer => weaker _ _ (holds.2 answer)⟩

/-- Statements that read and write no task and no event. -/
def Quiet : Statement → Prop
  | .selectTaskById _ => False
  | .selectTaskByShortId _ => False
  | .updateTask _ => False
  | .insertTask _ => False
  | .insertEvent _ => False
  | _ => True

/-- A command that keeps to the gate, begun with a task at hand. -/
def Passes (approver : Option String) (read : Option Task)
    (command : Command α) : Prop :=
  Ensures (gate approver) command (fun _ later => later.due = none) ⟨read, none⟩

section Passing

variable {approver : Option String} {read : Option Task}

theorem quiet_pure (value : α) : Asks Quiet (pure value : Command α) :=
  trivial

theorem quiet_fail (error : AppError) : Asks Quiet (fail error : Command α) :=
  trivial

theorem quiet_send {statement : Statement} (quiet : Quiet statement) :
    Asks Quiet (Store.send statement) :=
  ⟨quiet, fun _ => trivial⟩

theorem quiet_bind {first : Command α} {rest : α → Command β}
    (start : Asks Quiet first) (finish : ∀ value, Asks Quiet (rest value)) :
    Asks Quiet (first >>= rest : Command β) := by
  refine Program.Asks.bind start ?_
  rintro (error | value)
  · trivial
  · exact finish value

theorem quiet_check (outcome : Except AppError α) :
    Asks Quiet (check outcome : Command α) :=
  trivial

theorem quiet_ignore {command : Command α} (quiet : Asks Quiet command) :
    Asks Quiet (ignore command : Command Unit) :=
  Program.Asks.bind quiet fun _ => trivial

theorem quiet_forEach {β : Type} {body : β → Command Unit}
    (quiet : ∀ element, Asks Quiet (body element)) (elements : List β) :
    Asks Quiet (forEach elements body) := by
  induction elements with
  | nil => exact quiet_pure ()
  | cons head tail induction =>
      rw [forEach]
      exact quiet_bind (quiet head) fun _ => induction

theorem keeps_of_quiet {command : Command α} (quiet : Asks Quiet command) :
    Ensures (gate approver) command (fun _ later => later = ⟨read, none⟩)
      ⟨read, none⟩ := by
  refine quiet.keeps fun statement aim allowed next => ?_
  cases statement with
  | selectTaskById taskId => exact allowed.elim
  | selectTaskByShortId shortId => exact allowed.elim
  | updateTask task => exact allowed.elim
  | insertTask task => exact allowed.elim
  | insertEvent event => exact allowed.elim
  | _ => exact ⟨rfl, next⟩

theorem passes_quiet {command : Command α} (quiet : Asks Quiet command) :
    Passes approver read command := by
  refine (keeps_of_quiet quiet).mono gate_monotone ?_
  rintro _ later rfl
  rfl

theorem passes_pure (value : α) : Passes approver read (pure value) :=
  rfl

theorem passes_fail (error : AppError) :
    Passes approver read (fail error : Command α) :=
  rfl

theorem Passes.after {first : Command α} {rest : α → Command β}
    (quiet : Asks Quiet first)
    (passes : ∀ value, Passes approver read (rest value)) :
    Passes approver read (first >>= rest : Command β) := by
  refine ensures_sequence.mpr
    ((keeps_of_quiet quiet).mono gate_monotone ?_)
  rintro (error | value) later rfl
  · rfl
  · exact passes value

theorem Passes.bind {first : Command α} {rest : α → Command β}
    (start : Passes approver read first)
    (finish : ∀ read value, Passes approver read (rest value)) :
    Passes approver read (first >>= rest : Command β) := by
  refine ensures_sequence.mpr (Ensures.mono gate_monotone start ?_)
  rintro (error | value) ⟨held, due⟩ none
  · exact none
  · cases none
    exact finish held value

theorem Passes.ignored {command : Command α}
    (passes : Passes approver read command) :
    Passes approver read (ignore command : Command Unit) :=
  Program.ensures_bind.mpr
    (Ensures.mono gate_monotone passes fun _ _ none => none)

theorem Passes.attempted {command : Command α}
    (passes : Passes approver read command) :
    Passes approver read (attempt command : Command (Except AppError α)) :=
  Program.ensures_bind.mpr
    (Ensures.mono gate_monotone passes fun _ _ none => none)

theorem passes_forEach {β : Type} {body : β → Command Unit}
    (passes : ∀ read element, Passes approver read (body element))
    (elements : List β) : Passes approver read (forEach elements body) := by
  induction elements generalizing read with
  | nil => exact passes_pure ()
  | cons head tail induction =>
      rw [forEach]
      exact (passes read head).bind fun _ _ => induction

theorem passes_getTask {taskRef : String} {rest : Task → Command α}
    (passes : ∀ task, Passes approver (some task) (rest task)) :
    Passes approver read (Store.getTask taskRef >>= rest) := by
  refine ensures_sequence.mpr ⟨rfl, fun answer => ?_⟩
  cases answer with
  | some task => exact passes task
  | none =>
      refine ⟨rfl, fun answer => ?_⟩
      cases answer with
      | some task => exact passes task
      | none => rfl

theorem passes_update {task : Task} {rest : Unit → Command α}
    (free : task.status ≠ .done ∨ ∃ held, read = some held ∧
      task.reviewer = held.reviewer ∧
      (held.status = .done ∨ held.reviewer = none))
    (passes : Passes approver read (rest ())) :
    Passes approver read (Store.updateTask task >>= rest) := by
  have next : ∀ answer : Except AppError Unit,
      Ensures (gate approver) (check answer >>= rest : Command α)
        (fun _ later => later.due = none) ⟨read, none⟩ := by
    rintro (error | _)
    · rfl
    · exact passes
  refine ⟨rfl, ?_⟩
  rcases free with unfinished | ⟨held, same, reviewer, settled⟩
  · exact .unfinished unfinished next
  · exact .settled same reviewer settled next

theorem passes_write {task : Task}
    (free : task.status ≠ .done ∨ ∃ held, read = some held ∧
      task.reviewer = held.reviewer ∧
      (held.status = .done ∨ held.reviewer = none)) :
    Passes approver read (Store.updateTask task) := by
  rw [← bind_pure (Store.updateTask task)]
  exact passes_update free (passes_pure ())

theorem passes_insertEvent {event : TaskEvent} {rest : Unit → Command α}
    (kind : event.eventType ≠ "approved")
    (passes : Passes approver read (rest ())) :
    Passes approver read (Store.insertEvent event >>= rest) := by
  refine ⟨by rw [approvalOf, if_neg kind], ?_⟩
  rintro (error | _)
  · rfl
  · exact passes

theorem passes_record {event : TaskEvent} (kind : event.eventType ≠ "approved") :
    Passes approver read (Store.insertEvent event) := by
  rw [← bind_pure (Store.insertEvent event)]
  exact passes_insertEvent kind (passes_pure ())

end Passing

/-! ## The commands -/

section Handlers

open Commands

variable {approver : Option String} {read : Option Task} {cmd : A2aCommand}
  {sender : String}

theorem addRolePermissions_quiet (permissions : List (String × List String)) :
    Asks Quiet (Store.addRolePermissions permissions) := by
  rw [Store.addRolePermissions]
  refine quiet_forEach (fun entry => quiet_forEach (fun verb => ?_) _) _
  exact quiet_send trivial

theorem checkRolePermission_quiet (role verb : String) :
    Asks Quiet (Store.checkRolePermission role verb) := by
  refine quiet_bind (quiet_send trivial) fun count => ?_
  split
  · split
    · exact quiet_bind (addRolePermissions_quiet _) fun _ =>
        quiet_bind (quiet_send trivial) fun _ => quiet_pure _
    · exact quiet_pure _
  · exact quiet_bind (quiet_send trivial) fun _ => quiet_pure _

theorem requireRole_quiet (boardId sender verb : String) :
    Asks Quiet (requireRole boardId sender verb) := by
  refine quiet_bind (quiet_send trivial) fun member => ?_
  cases member with
  | none => exact quiet_fail _
  | some member =>
      refine quiet_bind (checkRolePermission_quiet _ _) fun allowed => ?_
      split
      · exact quiet_pure _
      · exact quiet_fail _

theorem requireMember_quiet (boardId sender : String) :
    Asks Quiet (requireMember boardId sender) := by
  refine quiet_bind (quiet_send trivial) fun member => ?_
  cases member with
  | none => exact quiet_fail _
  | some member => exact quiet_pure _

theorem requireAssignee_quiet (task : Task) (sender : String) :
    Asks Quiet (requireAssignee task sender) := by
  rw [requireAssignee]
  split
  · exact quiet_pure _
  · exact quiet_fail _

theorem required_quiet (value : Option α) (message : String) :
    Asks Quiet (required value message) := by
  cases value with
  | none => exact quiet_fail _
  | some value => exact quiet_pure _

theorem passes_extract {cmd : A2aCommand} {rest : String → Command α}
    (passes : ∀ taskId, Passes approver read (rest taskId)) :
    Passes approver read (extractTaskId cmd >>= rest) :=
  .after (required_quiet _ _) passes

theorem passes_rewrite {task written : Task} {rest : Unit → Command α}
    (status : written.status = task.status)
    (reviewer : written.reviewer = task.reviewer)
    (passes : Passes approver (some task) (rest ())) :
    Passes approver (some task) (Store.updateTask written >>= rest) := by
  refine passes_update ?_ passes
  by_cases done : task.status = .done
  · exact .inr ⟨task, rfl, reviewer, .inl done⟩
  · exact .inl (status ▸ done)

theorem promoteChildren_passes (parent : Task) :
    Passes approver read (promoteChildren parent) := by
  refine .after (quiet_send trivial) fun tasks => ?_
  refine passes_forEach (fun read child => .ignored ?_) _
  exact passes_write (.inl (by simp))

theorem doComplete_passes (taskId sender : String) (summary : Option String) :
    Passes approver read (doComplete taskId sender summary) := by
  refine passes_getTask fun task => ?_
  refine .after (requireAssignee_quiet _ _) fun _ => ?_
  refine .after (quiet_send trivial) fun ts => ?_
  have children (finished : Task) (held : Option Task) :
      Passes approver held (releaseChildren finished >>= fun _ =>
        (pure finished : Command Task)) := by
    refine .bind ?_ fun _ _ => passes_pure _
    rw [releaseChildren]
    split
    · exact passes_pure ()
    · exact promoteChildren_passes finished
  refine passes_update ?_ (passes_insertEvent (by simp [newEvent]) (children _ _))
  cases reviewer : task.reviewer with
  | some reviewer => exact .inl (by simp)
  | none => exact .inr ⟨task, rfl, by simp [reviewer], .inr reviewer⟩

theorem handleComplete_passes :
    Passes approver read (handleComplete cmd sender) :=
  passes_extract fun _ =>
    (doComplete_passes _ _ _).bind fun _ _ => passes_pure _

theorem handleReview_passes :
    Passes approver read (handleReview cmd sender) := by
  refine passes_extract fun taskId => ?_
  refine .after (required_quiet _ _) fun reviewer => ?_
  refine passes_getTask fun task => ?_
  refine .after (requireRole_quiet _ _ _) fun _ => ?_
  refine .after (quiet_send trivial) fun now => ?_
  exact passes_update (.inl (by simp)) (passes_pure _)

theorem handleApprove_passes :
    Passes (some sender) read (handleApprove cmd sender) := by
  refine passes_extract fun taskId => ?_
  refine passes_getTask fun task => ?_
  rw [requireReviewer]
  split
  · next own =>
      change Passes (some sender) (some task) (if _ then _ else _)
      split
      · exact passes_fail _
      · next reviewing =>
          refine .after (quiet_send trivial) fun ts => ?_
          refine ⟨rfl, .approved rfl rfl rfl rfl rfl own
            (Decidable.not_not.mp reviewing) (fun _ => rfl) ?_⟩
          refine ⟨rfl, ?_⟩
          rintro (error | _)
          · rfl
          · exact (promoteChildren_passes _).bind fun _ _ => passes_pure _
  · exact passes_fail _

theorem handleReject_passes :
    Passes approver read (handleReject cmd sender) := by
  refine passes_extract fun taskId => ?_
  refine passes_getTask fun task => ?_
  rw [requireReviewer]
  split
  · change Passes approver (some task) (if _ then _ else _)
    split
    · exact passes_fail _
    · refine .after (quiet_send trivial) fun ts => ?_
      exact passes_update (.inl (by simp))
        (passes_insertEvent (by simp [newEvent]) (passes_pure _))
  · exact passes_fail _

theorem handleBlock_passes : Passes approver read (handleBlock cmd sender) := by
  refine passes_extract fun taskId => ?_
  refine passes_getTask fun task => ?_
  refine .after ?_ fun _ => .after (quiet_send trivial) fun ts =>
    passes_update (.inl (by simp))
      (passes_insertEvent (by simp [newEvent]) (passes_pure _))
  rw [requireBlocker]
  split
  · exact requireRole_quiet _ _ _
  · exact quiet_pure _

theorem handleUnblock_passes :
    Passes approver read (handleUnblock cmd sender) :=
  passes_extract fun _ => passes_getTask fun _ =>
    .after (requireRole_quiet _ _ _) fun _ => .after (quiet_send trivial)
      fun _ => passes_update (.inl (by simp))
        (passes_insertEvent (by simp [newEvent]) (passes_pure _))

theorem heartbeat_passes (taskRef actor : String) :
    Passes approver read (Awareness.heartbeat taskRef actor) := by
  refine passes_getTask fun task => ?_
  split
  · exact passes_fail _
  · refine Passes.bind ?_ fun read _ => .after ?_ fun _ =>
      .after (quiet_send trivial) fun ts =>
        passes_record (by simp)
    · rw [Awareness.start]
      split
      · exact passes_write (.inl (by simp))
      · split
        · exact passes_fail _
        · exact passes_pure _
    · exact quiet_bind (quiet_send trivial) fun _ => quiet_send trivial

theorem handleHeartbeat_passes :
    Passes approver read (handleHeartbeat cmd sender) :=
  passes_extract fun _ =>
    (heartbeat_passes _ _).bind fun _ _ => passes_pure _

theorem handleComment_passes :
    Passes approver read (handleComment cmd sender) :=
  passes_extract fun _ => passes_getTask fun _ =>
    .after (requireRole_quiet _ _ _) fun _ => .after (quiet_send trivial)
      fun _ => passes_insertEvent (by simp [newEvent]) (passes_pure _)

theorem handleContinue_passes :
    Passes approver read (handleContinue cmd sender) := by
  refine passes_extract fun taskId => ?_
  refine passes_getTask fun task => ?_
  refine .after (requireRole_quiet _ _ _) fun _ => ?_
  refine .after (requireAssignee_quiet _ _) fun _ => ?_
  dsimp only
  split
  · exact passes_fail _
  · refine .after (quiet_send trivial) fun ts => ?_
    exact passes_rewrite rfl rfl
      (passes_insertEvent (by simp [newEvent]) (passes_pure _))

theorem handleCancel_passes :
    Passes approver read (handleCancel cmd sender) := by
  refine passes_extract fun taskId => ?_
  refine passes_getTask fun task => ?_
  refine .after (requireRole_quiet _ _ _) fun _ => ?_
  split
  · exact passes_fail _
  · refine .after (quiet_send trivial) fun ts => ?_
    exact passes_update (.inl (by simp))
      (passes_insertEvent (by simp [newEvent]) (passes_pure _))

theorem handleReassign_passes :
    Passes approver read (handleReassign cmd sender) := by
  refine passes_extract fun taskId => ?_
  refine passes_getTask fun task => ?_
  refine .after (requireRole_quiet _ _ _) fun _ => ?_
  dsimp only
  split
  · exact passes_fail _
  · refine .after (quiet_send trivial) fun member => ?_
    cases member with
    | none => exact passes_fail _
    | some member =>
        exact .after (quiet_send trivial) fun now =>
          passes_rewrite rfl rfl (passes_pure _)

theorem handleEdit_passes : Passes approver read (handleEdit cmd sender) :=
  passes_extract fun _ => passes_getTask fun _ =>
    .after (requireRole_quiet _ _ _) fun _ => .after (quiet_send trivial)
      fun _ => passes_rewrite rfl rfl (passes_pure _)

theorem handleDeadline_passes (host : Host) (cmd : A2aCommand)
    (sender : String) : Passes approver read (handleDeadline host cmd sender) := by
  refine passes_extract fun taskId => ?_
  refine passes_getTask fun task => ?_
  refine .after (requireRole_quiet _ _ _) fun _ => ?_
  dsimp only
  split
  · exact passes_fail _
  · split
    · exact passes_fail _
    · exact .after (quiet_send trivial) fun now =>
        passes_rewrite rfl rfl (passes_pure _)

theorem getBoard_quiet (boardId : String) : Asks Quiet (Store.getBoard boardId) := by
  refine quiet_bind (quiet_send trivial) fun board => ?_
  cases board with
  | none => exact quiet_fail _
  | some board => exact quiet_pure _

theorem handleOutput_passes :
    Passes approver read (handleOutput cmd sender) := by
  refine passes_extract fun taskId => ?_
  refine passes_getTask fun task => ?_
  refine .after (requireRole_quiet _ _ _) fun _ => ?_
  split
  · exact passes_fail _
  · refine .after (quiet_bind (quiet_send trivial) fun _ => quiet_pure _)
      fun issues => ?_
    split
    · exact passes_fail _
    · refine .after (quiet_send trivial) fun ts => ?_
      refine passes_insertEvent (by simp [newEvent]) ?_
      exact .after (getBoard_quiet _) fun board =>
        .after (quiet_send trivial) fun _ => passes_pure _

theorem parentSummaries_quiet (task : Task) (parents : List String) :
    Asks Quiet (Awareness.parentSummaries task parents) := by
  induction parents with
  | nil => exact quiet_pure _
  | cons parent rest induction =>
      exact quiet_bind (quiet_send trivial) fun _ =>
        quiet_bind induction fun _ => quiet_pure _

theorem awarenessGetTask_passes (taskId : String) :
    Passes approver read (Awareness.getTask taskId) :=
  passes_getTask fun _ => .after (parentSummaries_quiet _ _) fun _ => passes_pure _

theorem handleShow_passes : Passes approver read (handleShow cmd sender) := by
  refine passes_extract fun taskId => ?_
  refine (awarenessGetTask_passes taskId).bind fun read found => ?_
  refine .after (requireMember_quiet _ _) fun _ => ?_
  split
  · exact passes_pure _
  · exact passes_pure _

theorem boardStatus_quiet (boardId : String) :
    Asks Quiet (Awareness.boardStatus boardId) :=
  quiet_bind (getBoard_quiet _) fun _ =>
    quiet_bind (quiet_send trivial) fun _ => quiet_pure _

theorem listRoles_quiet : Asks Quiet Awareness.listRoles :=
  quiet_bind (quiet_send trivial) fun _ => quiet_pure _

theorem listMembers_quiet (boardId : String) (email : Option String) :
    Asks Quiet (Awareness.listMembers boardId email) :=
  quiet_bind (quiet_send trivial) fun _ => quiet_pure _

theorem requireListed_quiet (boardId address role : String) :
    Asks Quiet (requireListed boardId address role) := by
  rw [requireListed]
  split
  · exact quiet_pure _
  · refine quiet_bind (quiet_send trivial) fun member => ?_
    cases member with
    | none => exact quiet_fail _
    | some member => exact quiet_pure _

theorem requireReviewerListed_quiet (boardId : String) (entry : Json) :
    Asks Quiet (requireReviewerListed boardId entry) := by
  rw [requireReviewerListed]
  split
  · exact requireListed_quiet _ _ _
  · exact quiet_pure _

theorem createEntry_passes (host : Host) (boardId sender : String)
    (entry : Json) :
    Passes approver read (createEntry host boardId sender entry) := by
  refine .after (requireListed_quiet _ _ _) fun _ => ?_
  refine .after (requireReviewerListed_quiet _ _) fun _ => ?_
  refine .after (quiet_bind (quiet_send trivial) fun _ => quiet_pure _)
    fun shortId => ?_
  refine .after (quiet_send trivial) fun ts => ?_
  refine ensures_sequence.mpr ⟨rfl, ?_, fun answer => ?_⟩
  · simp only [newTask]
    split
    · simp
    · simp
  · cases answer <;> rfl

theorem handleCreate_passes (host : Host) (cmd : A2aCommand) (sender : String) :
    Passes approver read (handleCreate host cmd sender) := by
  refine .after (required_quiet _ _) fun boardId => ?_
  refine .after (requireRole_quiet _ _ _) fun _ => ?_
  exact (passes_forEach (fun _ => createEntry_passes _ _ _) _).bind
    fun _ _ => passes_pure _

theorem addMember_quiet (host : Host) (member : Member) :
    Asks Quiet (Store.addMember host member) := by
  have upsert (member : Member) : Asks Quiet (Store.upsertMember member) :=
    quiet_bind (quiet_send trivial) fun answer => quiet_check answer
  rw [Store.addMember]
  split
  · exact quiet_bind (quiet_send trivial) fun _ => upsert _
  · exact upsert _
  · exact upsert _

theorem knownRole_quiet (role note : String) : Asks Quiet (knownRole role note) := by
  rw [knownRole]
  split
  · exact quiet_pure _
  · exact quiet_fail _

theorem refreshMember_quiet (host : Host) (boardId ts : String)
    (creds : List (String × String × Option String)) (entry : Json) :
    Asks Quiet (refreshMember host boardId ts creds entry) := by
  refine quiet_bind (knownRole_quiet _ _) fun _ => ?_
  split
  · exact quiet_pure _
  · refine quiet_bind ?_ fun cred => addMember_quiet _ _
    rw [credential]
    split
    · exact quiet_pure _
    · exact quiet_bind (quiet_send trivial) fun _ => quiet_pure _

theorem overridePermissions_quiet (entries : Option (List Json)) :
    Asks Quiet (overridePermissions entries) := by
  cases entries with
  | none => exact quiet_pure _
  | some entries =>
      refine quiet_bind (quiet_forEach (fun entry => ?_) _)
        fun _ => addRolePermissions_quiet _
      refine quiet_bind (knownRole_quiet _ _)
        fun _ => quiet_forEach (fun verb => ?_) _
      rw [knownVerb]
      split
      · exact quiet_pure _
      · exact quiet_fail _

theorem handleRefresh_quiet (host : Host) (notifier : Notifier)
    (cmd : A2aCommand) (sender : String) :
    Asks Quiet (handleRefresh host notifier cmd sender) := by
  refine quiet_bind (quiet_send trivial) fun ts => ?_
  refine quiet_bind (quiet_send trivial) fun member => ?_
  split
  · exact quiet_fail _
  · refine quiet_bind (quiet_send trivial) fun board => ?_
    cases board with
    | none => exact quiet_fail _
    | some board =>
        refine quiet_bind (quiet_send trivial) fun _ => ?_
        refine quiet_bind (required_quiet _ _) fun entries => ?_
        refine quiet_bind (quiet_send trivial) fun members => ?_
        refine quiet_bind
          (quiet_forEach (refreshMember_quiet _ _ _ _) _) fun _ => ?_
        refine quiet_bind (addRolePermissions_quiet _) fun _ => ?_
        exact quiet_bind (overridePermissions_quiet _) fun _ => quiet_pure _

theorem reopenTask_passes (reopened : List String) (task : Task) :
    Passes approver read (reopenTask reopened task) := by
  rw [reopenTask]
  split
  · next status moves =>
      refine .after (quiet_send trivial) fun now => ?_
      refine passes_write (.inl ?_)
      rintro (becomes : status = .done)
      rw [reopenedStatus, becomes] at moves
      split at moves
      · cases moves
      · split at moves <;> cases moves
  · exact passes_pure _

theorem handleReopen_passes :
    Passes approver read (handleReopen cmd sender) := by
  refine .after (required_quiet _ _) fun boardId => ?_
  refine .after (requireRole_quiet _ _ _) fun _ => ?_
  refine .after (getBoard_quiet _) fun board => ?_
  split
  · exact passes_fail _
  · refine .after (quiet_send trivial) fun tasks => ?_
    refine (passes_forEach (fun _ => reopenTask_passes _) _).bind fun _ _ => ?_
    exact .after (quiet_send trivial) fun _ => passes_pure _

theorem resolveTaskId_passes (taskRef : String) :
    Passes approver read (Store.resolveTaskId taskRef) :=
  passes_getTask fun _ => passes_pure _

theorem arbitratedTask_passes (taskId : String) :
    Passes approver read (arbitratedTask taskId) := by
  rw [arbitratedTask]
  split
  · exact passes_pure _
  · refine (resolveTaskId_passes taskId).attempted.bind fun read full => ?_
    cases full with
    | error error => exact passes_pure _
    | ok full =>
        have lookedUp : Passes approver read (Store.getTask full) := by
          rw [← bind_pure (Store.getTask full)]
          exact passes_getTask fun task => passes_pure task
        refine lookedUp.attempted.bind fun read found => ?_
        cases found <;> exact passes_pure _

theorem handleArbitrate_passes :
    Passes approver read (handleArbitrate cmd sender) := by
  refine (arbitratedTask_passes _).bind fun read task => ?_
  refine .after (quiet_send trivial) fun member => ?_
  dsimp only
  split
  · exact passes_fail _
  · exact passes_pure _

theorem dispatch_passes (host : Host) (notifier : Notifier)
    (approves : cmd.verb ∈ ["approve", "verify"] → approver = some sender) :
    Passes approver read (dispatch host notifier cmd sender) := by
  unfold dispatch
  split
  · exact handleComplete_passes
  · exact handleContinue_passes
  · next verb =>
      rw [approves (by simp [verb])]
      exact handleApprove_passes
  · exact handleReview_passes
  · next verb =>
      rw [approves (by simp [verb])]
      exact handleApprove_passes
  · exact handleReject_passes
  · exact handleBlock_passes
  · exact handleUnblock_passes
  · exact handleHeartbeat_passes
  · exact handleComment_passes
  · exact handleCancel_passes
  · exact handleReassign_passes
  · exact handleReassign_passes
  · exact handleEdit_passes
  · exact handleDeadline_passes _ _ _
  · exact handleReopen_passes
  · exact handleOutput_passes
  · exact handleShow_passes
  · exact passes_quiet (quiet_bind (requireMember_quiet _ _) fun _ =>
      quiet_bind (quiet_send trivial) fun _ => quiet_pure _)
  · exact passes_quiet (quiet_bind (requireMember_quiet _ _) fun _ =>
      quiet_bind (listMembers_quiet _ _) fun _ => quiet_pure _)
  · exact passes_quiet (quiet_bind (requireMember_quiet _ _) fun _ =>
      quiet_bind listRoles_quiet fun _ => quiet_pure _)
  · exact passes_quiet (quiet_bind (required_quiet _ _) fun _ =>
      quiet_bind (requireMember_quiet _ _) fun _ =>
        quiet_bind (boardStatus_quiet _) fun _ => quiet_pure _)
  · exact passes_pure _
  · exact handleCreate_passes _ _ _
  · exact passes_quiet (handleRefresh_quiet _ _ _ _)
  · exact handleArbitrate_passes
  · exact passes_pure _

theorem executeCommand_passes (host : Host) (notifier : Notifier)
    (approves : cmd.verb ∈ ["approve", "verify"] → approver = some sender) :
    Passes approver read (executeCommand host notifier cmd sender) := by
  rw [executeCommand, resolveReference]
  split
  · split
    · simp only [bind_assoc, pure_bind]
      exact (resolveTaskId_passes _).bind fun read taskId =>
        dispatch_passes host notifier approves
    · exact dispatch_passes host notifier approves
  · exact dispatch_passes host notifier approves

end Handlers

/-! ## The jobs -/

section Jobs

open Commands

variable {approver : Option String} {read : Option Task} {settings : Settings}
  {boardId : String}

theorem registerMember_quiet (host : Host)
    (email role displayName : String) : Asks Quiet
      (Interceptor.registerMember host boardId email role displayName) := by
  refine quiet_bind (quiet_send trivial) fun member => ?_
  cases member with
  | some member => exact quiet_pure _
  | none =>
      refine quiet_bind (quiet_send trivial) fun token => ?_
      refine quiet_bind (quiet_send trivial) fun joinedAt => ?_
      exact quiet_ignore (addMember_quiet _ _)

theorem registerMembers_quiet (host : Host) (members : List Json) :
    Asks Quiet (Interceptor.registerMembers host boardId members) := by
  induction members with
  | nil => exact quiet_pure _
  | cons entry rest induction =>
      rw [Interceptor.registerMembers]
      split
      · exact quiet_pure _
      · split
        · exact induction
        · exact quiet_bind (registerMember_quiet _ _ _ _) fun _ =>
            quiet_bind induction fun _ => quiet_pure _

theorem initPermissions_quiet (given : Option (List (String × List String))) :
    Asks Quiet (Interceptor.initPermissions given) := by
  have seeds : Asks Quiet Store.seedDefaultRolePermissions :=
    addRolePermissions_quiet _
  have writes (permissions : List (String × List String)) :
      Asks Quiet (Store.insertRolePermissions permissions) :=
    addRolePermissions_quiet permissions
  cases given with
  | none => exact quiet_bind (quiet_pure ()) fun _ => quiet_ignore seeds
  | some permissions =>
      exact quiet_bind (quiet_ignore (writes permissions)) fun _ =>
        quiet_ignore seeds

theorem confirmAs_quiet (sender body : String) (kind : Interceptor.ConfirmType)
    (after : Option String) :
    Asks Quiet (Interceptor.confirmAs boardId sender body kind after) := by
  refine quiet_bind (quiet_send trivial) fun member => ?_
  split
  · rw [Interceptor.confirm]
    split
    · exact quiet_bind (quiet_send trivial) fun _ => quiet_send trivial
    · exact quiet_pure _
  · exact quiet_pure _

theorem authorize_quiet (token memberEmail verb : String) : Asks Quiet
    (Handlers.authorize settings boardId token memberEmail verb) := by
  have verified : Asks Quiet (Store.verifyMemberTokenCfg settings.host boardId
      token memberEmail settings.allowPlaintext) := by
    rw [Store.verifyMemberTokenCfg]
    split
    · exact quiet_pure _
    · refine quiet_bind (quiet_send trivial) fun member => ?_
      cases member with
      | none => exact quiet_pure _
      | some row =>
          dsimp only
          split
          · exact quiet_pure _
          · split
            · exact quiet_pure _
            · exact quiet_pure _
          · split
            · exact quiet_bind (quiet_send trivial) fun _ =>
                quiet_bind (quiet_send trivial) fun _ => quiet_pure _
            · exact quiet_pure _
  refine quiet_bind verified fun email => ?_
  cases email with
  | none => exact quiet_pure _
  | some email =>
      refine quiet_bind (quiet_send trivial) fun member => ?_
      cases member with
      | none => exact quiet_pure _
      | some member =>
          refine quiet_bind (checkRolePermission_quiet _ _) fun allowed => ?_
          split
          · exact quiet_pure _
          · exact quiet_pure _

theorem serve_passes (memberEmail token : String) (request : Handlers.Request) :
    Passes approver read
      (Handlers.serve settings boardId memberEmail token request) := by
  refine .after (authorize_quiet _ _ _) fun member => ?_
  cases member with
  | none => exact passes_fail _
  | some member =>
      cases request with
      | listTasks status assignee =>
          exact passes_quiet (quiet_bind (quiet_send trivial) fun _ => quiet_pure _)
      | listMembers =>
          exact passes_quiet
            (quiet_bind (listMembers_quiet _ _) fun _ => quiet_pure _)
      | listRoles =>
          exact passes_quiet (quiet_bind listRoles_quiet fun _ => quiet_pure _)
      | getTask taskId =>
          exact (awarenessGetTask_passes _).bind fun _ _ => passes_pure _
      | postHeartbeat taskId => exact heartbeat_passes _ _
      | boardStatus =>
          exact passes_quiet
            (quiet_bind (boardStatus_quiet _) fun _ => quiet_pure _)

theorem blockStale_passes (tick : Nat) :
    Passes approver read (Sweeper.blockStale settings tick boardId) := by
  refine .after (quiet_send trivial) fun tasks => ?_
  refine passes_forEach (fun read task => .ignored ?_) _
  exact passes_write (.inl (by simp))

theorem archiveCompleted_quiet (tick : Nat) :
    Asks Quiet (Sweeper.archiveCompleted settings tick boardId) := by
  refine quiet_bind (quiet_send trivial) fun board => ?_
  cases board with
  | none => exact quiet_pure _
  | some board =>
      dsimp only
      split
      · exact quiet_bind (quiet_send trivial) fun _ => quiet_send trivial
      · exact quiet_pure _

theorem Job.passes (job : Job) :
    Passes job.approver none (job.program settings boardId) := by
  cases job with
  | command notifier cmd sender =>
      refine (executeCommand_passes settings.host notifier ?_).bind
        fun _ _ => passes_pure _
      exact fun approves => if_pos approves
  | lookUp =>
      exact passes_quiet (quiet_bind (quiet_send trivial) fun _ => quiet_pure _)
  | found shortId boardEmail description system =>
      refine passes_quiet (quiet_bind (quiet_send trivial) fun _ => ?_)
      exact quiet_ignore (quiet_bind (quiet_send trivial) fun _ => quiet_check _)
  | enroll members =>
      exact passes_quiet
        (quiet_bind (registerMembers_quiet _ _) fun _ => quiet_pure _)
  | permit given => exact passes_quiet (initPermissions_quiet _)
  | confirm sender body kind after => exact passes_quiet (confirmAs_quiet _ _ _ _)
  | request memberEmail token request => exact serve_passes _ _ _
  | scanHeartbeats tick => exact blockStale_passes tick
  | scanCompleted tick => exact passes_quiet (archiveCompleted_quiet tick)

end Jobs

/-! ## Tasks that are done -/

def approvals (db : BoardDb) (taskId : String) : Nat :=
  db.taskEvents.countP fun event => approvalOf event == some taskId

/-- A task that has a reviewer, before or after, becomes done. -/
structure Finishes (before after : BoardDb) (row row' : Task)
    (reviewer : String) : Prop where
  known : row ∈ before.tasks
  there : row' ∈ after.tasks
  same : row'.id = row.id
  reviewed : row.reviewer = some reviewer ∨ row'.reviewer = some reviewer
  unfinished : row.status ≠ .done
  done : row'.status = .done

/-- A task with this id and with a reviewer becomes done. -/
def finishes (before after : BoardDb) (taskId : String) : Bool :=
  before.tasks.rows.any fun row => row.id == taskId && row.status != .done &&
    after.tasks.rows.any fun row' => row'.id == taskId &&
      row'.status == .done && (row.reviewer.isSome || row'.reviewer.isSome)

theorem finishes_iff {before after : BoardDb} {taskId : String} :
    finishes before after taskId = true ↔
      ∃ row row' reviewer, row.id = taskId ∧
        Finishes before after row row' reviewer := by
  simp only [finishes, List.any_eq_true, Bool.and_eq_true, beq_iff_eq,
    bne_iff_ne, Bool.or_eq_true, Option.isSome_iff_exists]
  constructor
  · rintro ⟨row, known, ⟨id, unfinished⟩, row', there, ⟨id', done⟩, reviewed⟩
    rcases reviewed with ⟨reviewer, own⟩ | ⟨reviewer, own⟩
    · exact ⟨row, row', reviewer, id, known, there, id'.trans id.symm, .inl own,
        unfinished, done⟩
    · exact ⟨row, row', reviewer, id, known, there, id'.trans id.symm, .inr own,
        unfinished, done⟩
  · rintro ⟨row, row', reviewer, id, finishes⟩
    refine ⟨row, finishes.known, ⟨id, finishes.unfinished⟩, row', finishes.there,
      ⟨finishes.same.trans id, finishes.done⟩, ?_⟩
    exact finishes.reviewed.imp (⟨reviewer, ·⟩) (⟨reviewer, ·⟩)

/-- The task whose approval a command is about to record. -/
def dueOf (rest : Command α) : Option String :=
  match rest with
  | .request (.insertEvent event) _ => approvalOf event
  | _ => none

theorem due_eq {approver : Option String} {rest : Command α}
    {progress : Progress}
    (passes : Ensures (gate approver) rest (fun _ later => later.due = none)
      progress) : progress.due = dueOf rest := by
  cases rest with
  | done outcome => exact passes
  | request statement next =>
      cases statement <;> exact passes.1

namespace Connection

def due (connection : Connection) : Option String := dueOf connection.rest

/-- The next statement writes a task as done although another job has made
something else of it since it was read: a second approval, or a reviewed task
with another state or reviewer. -/
def writesOver (db : BoardDb) (connection : Connection) : Bool :=
  match connection.rest with
  | .request (.updateTask task) _ =>
      task.status == .done && db.tasks.rows.any fun row => row.id == task.id &&
        if row.status = .done then connection.job.approver.isSome
        else (row.reviewer.isSome || task.reviewer.isSome) &&
          connection.read.any fun read =>
            (taskFromRow row).status != read.status ||
              row.reviewer != read.reviewer
  | _ => false

/-- What is known of a job under way. -/
structure Sound (db : BoardDb) (connection : Connection) : Prop where
  passes : Ensures (gate connection.job.approver) connection.rest
    (fun _ later => later.due = none) ⟨connection.read, connection.due⟩
  reads : ∀ task, connection.read = some task → db.hasTask task.id = true
  owes : ∀ taskId, connection.due = some taskId → db.hasTask taskId = true

theorem Sound.mono {before after : BoardDb} {connection : Connection}
    (sound : connection.Sound before)
    (known : ∀ taskId, before.hasTask taskId = true →
      after.hasTask taskId = true) : connection.Sound after where
  passes := sound.passes
  reads := fun task read => known _ (sound.reads task read)
  owes := fun taskId due => known _ (sound.owes taskId due)

theorem sound_of_ensures {db : BoardDb} {job : Job} {rest : Command Unit}
    {read : Option Task} {due : Option String}
    (passes : Ensures (gate job.approver) rest
      (fun _ later => later.due = none) ⟨read, due⟩)
    (reads : ∀ task, read = some task → db.hasTask task.id = true)
    (owes : ∀ taskId, due = some taskId → db.hasTask taskId = true) :
    Sound db ⟨job, rest, read⟩ := by
  have same : due = dueOf rest := due_eq passes
  subst same
  exact ⟨passes, reads, owes⟩

end Connection

/-! ## One statement -/

/-- What the next statement of a connection does to the gate. -/
structure Sent (world world' : BoardWorld) (connection connection' : Connection) :
    Prop where
  sound : connection'.Sound world'.db
  known : ∀ taskId, world.db.hasTask taskId = true →
    world'.db.hasTask taskId = true
  approved : ∀ row row' reviewer,
    Finishes world.db world'.db row row' reviewer →
      connection.job.approver = some reviewer ∧ row.status = .reviewing
  ledger : ∀ taskId,
    approvals world'.db taskId + (connection'.due == some taskId).toNat =
      approvals world.db taskId + (connection.due == some taskId).toNat +
        (finishes world.db world'.db taskId).toNat
  fresh : ∀ row' ∈ world'.db.tasks,
    (∀ row ∈ world.db.tasks, row.id ≠ row'.id) → row'.status ≠ .done

section Sending

variable {host : Host} {world world' : BoardWorld}
  {connection connection' : Connection} {before after : BoardDb}
  {change : Task → Task}

theorem Connection.send_of_begins {statement : Statement}
    {rest : statement.Answer → Command Unit}
    (begins : connection.rest = .request statement rest) :
    connection.send host world =
      ({ connection with
          rest := rest (perform host statement world).1
          read := seen statement (perform host statement world).1
            connection.read },
        (perform host statement world).2) := by
  rw [send, begins]

theorem not_finishes_of_tasks (same : after.tasks = before.tasks)
    (row row' : Task) (reviewer : String) :
    ¬ Finishes before after row row' reviewer := by
  intro ends
  have there := ends.there
  rw [same] at there
  have equal := Tasks.eq_of_id there ends.known ends.same
  exact ends.unfinished (equal ▸ ends.done)

theorem finishes_false
    (none : ∀ row row' reviewer, ¬ Finishes before after row row' reviewer)
    (taskId : String) : finishes before after taskId = false := by
  rw [Bool.eq_false_iff]
  intro finished
  rcases finishes_iff.mp finished with ⟨row, row', reviewer, _, ends⟩
  exact none row row' reviewer ends

theorem Finishes.mapped {row row' : Task} {reviewer : String}
    (ends : Finishes before after row row' reviewer)
    (mapped : TasksMapped change before after)
    (keepsId : ∀ row, (change row).id = row.id) : row' = change row := by
  rcases mapped.mem.mp ends.there with ⟨origin, known, equal⟩
  have same : origin.id = row.id := by
    rw [← keepsId origin, equal, ends.same]
  rw [← equal, Tasks.eq_of_id known ends.known same]

theorem known_of_mapped (mapped : TasksMapped change before after)
    (keepsId : ∀ row, (change row).id = row.id) (taskId : String)
    (there : before.hasTask taskId = true) : after.hasTask taskId = true := by
  rcases hasTask_iff.mp there with ⟨row, known, same⟩
  exact hasTask_iff.mpr ⟨change row, mapped.mem.mpr ⟨row, known, rfl⟩,
    (keepsId row).trans same⟩

theorem Sent.of_mapped (mapped : TasksMapped change world.db world'.db)
    (keepsId : ∀ row, (change row).id = row.id)
    (none : ∀ row row' reviewer,
      ¬ Finishes world.db world'.db row row' reviewer)
    (sound : connection'.Sound world.db)
    (idle : connection.due = Option.none)
    (idle' : connection'.due = Option.none) :
    Sent world world' connection connection' where
  sound := sound.mono (known_of_mapped mapped keepsId)
  known := known_of_mapped mapped keepsId
  approved := fun row row' reviewer ends =>
    (none row row' reviewer ends).elim
  ledger := fun taskId => by
    rw [finishes_false none, idle, idle', approvals, mapped.taskEvents]
    rfl
  fresh := fun row' there absent => by
    rcases mapped.mem.mp there with ⟨row, known, equal⟩
    refine absurd ?_ (absent row known)
    rw [← equal, keepsId]

theorem Sent.of_same (tasks : world'.db.tasks = world.db.tasks)
    (events : world'.db.taskEvents = world.db.taskEvents)
    (sound : connection'.Sound world.db)
    (due : connection'.due = connection.due) :
    Sent world world' connection connection' := by
  have none := @not_finishes_of_tasks _ _ tasks
  have known : ∀ taskId, world.db.hasTask taskId = true →
      world'.db.hasTask taskId = true := by
    intro taskId there
    rwa [hasTask, tasks]
  refine ⟨sound.mono known, known, fun row row' reviewer ends =>
    (none row row' reviewer ends).elim, fun taskId => ?_, ?_⟩
  · rw [finishes_false none, due, approvals, events]
    rfl
  · intro row' there absent
    rw [tasks] at there
    exact absurd rfl (absent row' there)

theorem perform_quiet {statement : Statement} (quiet : Quiet statement)
    (touches : ∀ taskId now, statement ≠ .touchTask taskId now) :
    (perform host statement world).2.db.tasks = world.db.tasks ∧
      (perform host statement world).2.db.taskEvents = world.db.taskEvents := by
  cases statement with
  | selectTaskById taskId => exact quiet.elim
  | selectTaskByShortId shortId => exact quiet.elim
  | updateTask task => exact quiet.elim
  | insertTask task => exact quiet.elim
  | insertEvent event => exact quiet.elim
  | touchTask taskId now => exact absurd rfl (touches taskId now)
  | createBoard board =>
      simp only [perform, BoardWorld.commit]
      split
      · next db created =>
          have same := createBoard_tasks created
          exact ⟨same.2.1, same.2.2.1⟩
      · exact ⟨rfl, rfl⟩
  | upsertMember member =>
      simp only [perform, BoardWorld.commit]
      split
      · next db written =>
          have only := upsertMember_only written
          exact ⟨only.tasks, only.taskEvents⟩
      · exact ⟨rfl, rfl⟩
  | addRolePermission role verb =>
      have permitted := @addRolePermission_permitted world.db role verb
      exact ⟨permitted.tasks, permitted.taskEvents⟩
  | _ => exact ⟨rfl, rfl⟩

theorem writesOver_spec {task read row : Task}
    {next : Except AppError Unit → Command Unit}
    (calm : connection.writesOver world.db = false)
    (begins : connection.rest = .request (.updateTask task) next)
    (at_hand : connection.read = some read) (done : task.status = .done)
    (there : row ∈ world.db.tasks) (same : row.id = task.id) :
    (row.status = .done → connection.job.approver = none) ∧
      (row.status ≠ .done →
        row.reviewer.isSome = true ∨ task.reviewer.isSome = true →
        (taskFromRow row).status = read.status ∧
          row.reviewer = read.reviewer) := by
  rw [Connection.writesOver, begins] at calm
  simp only [done, beq_self_eq_true, Bool.true_and] at calm
  have each := List.any_eq_false.mp calm row there
  rw [same, beq_self_eq_true, Bool.true_and, at_hand] at each
  constructor
  · intro finished
    rw [if_pos finished] at each
    exact Option.isSome_eq_false_iff.mp (Bool.eq_false_iff.mpr each) |>
      Option.isNone_iff_eq_none.mp
  · intro unfinished reviewed
    rw [if_neg unfinished] at each
    simp only [Bool.and_eq_true, Bool.or_eq_true, Option.any_some,
      bne_iff_ne, not_and, not_or, Decidable.not_not] at each
    exact each reviewed

theorem taskChange_own {task row : Task} (same : row.id = task.id) :
    (taskChange task row).status = task.status ∧
      (taskChange task row).reviewer = task.reviewer := by
  rw [taskChange, if_pos same]
  exact ⟨rfl, rfl⟩

theorem Finishes.updated {task row row' : Task} {reviewer : String}
    (ends : Finishes before after row row' reviewer)
    (mapped : TasksMapped (taskChange task) before after) :
    row.id = task.id ∧ task.status = .done ∧
      (row.reviewer = some reviewer ∨ task.reviewer = some reviewer) := by
  have changed := ends.mapped mapped (taskChange_id task)
  by_cases same : row.id = task.id
  · have done := ends.done
    have reviewed := ends.reviewed
    rw [changed, (taskChange_own same).1] at done
    rw [changed, (taskChange_own same).2] at reviewed
    exact ⟨same, done, reviewed⟩
  · rw [taskChange_other same] at changed
    exact absurd (changed ▸ ends.done) ends.unfinished

theorem approvals_logged {event : TaskEvent}
    (logged : Logged event before after) (taskId : String) :
    approvals after taskId =
      approvals before taskId + (approvalOf event == some taskId).toNat := by
  have same : approvalOf (before.insertedEvent event) = approvalOf event := rfl
  rw [approvals, logged.taskEvents, List.countP_append, List.countP_singleton,
    same, approvals]
  cases approvalOf event == some taskId <;> rfl

end Sending

section Steps

variable {host : Host} {world : BoardWorld} {connection : Connection}
  {settings : Settings} {boardId : String} {floor next : Floor} {move : Move}

theorem updateTask_sent {task : Task}
    {rest : Except AppError Unit → Command Unit}
    (sound : connection.Sound world.db)
    (begins : connection.rest = .request (.updateTask task) rest)
    (calm : connection.writesOver world.db = false) :
    Sent world (connection.send host world).2 connection
      (connection.send host world).1 := by
  have idle : connection.due = none := by
    rw [Connection.due, begins]
    rfl
  have passes := sound.passes
  rw [begins, idle] at passes
  rw [Connection.send_of_begins begins, perform]
  have resumed {answer : Except AppError Unit}
      (passes : Ensures (gate connection.job.approver) (rest answer)
        (fun _ later => later.due = none) ⟨connection.read, none⟩) :
      Connection.Sound world.db { connection with rest := rest answer } :=
    Connection.sound_of_ensures passes sound.reads fun _ due => by cases due
  cases written : world.db.updateTask task with
  | error error =>
      have goesOn : Ensures (gate connection.job.approver) (rest (.error error))
          (fun _ later => later.due = none) ⟨connection.read, none⟩ := by
        cases passes.2 with
        | unfinished status after => exact after _
        | settled at_hand reviewer free after => exact after _
        | approved at_hand id done reviewer approves own reviewing refused _ =>
            exact refused error
      have kept := resumed goesOn
      exact .of_same rfl rfl kept ((due_eq goesOn).symm.trans idle.symm)
  | ok db =>
      change Sent world { world with db } connection
        { connection with rest := rest (.ok ()) }
      have mapped := updateTask_mapped written
      -- An update that does not approve finishes no reviewed task.
      have plain (goesOn : Ensures (gate connection.job.approver) (rest (.ok ()))
            (fun _ later => later.due = none) ⟨connection.read, none⟩)
          (none : ∀ row row' reviewer,
            ¬ Finishes world.db db row row' reviewer) :
          Sent world { world with db } connection
            { connection with rest := rest (.ok ()) } :=
        .of_mapped mapped (taskChange_id task) none (resumed goesOn) idle
          (due_eq goesOn).symm
      cases passes.2 with
      | unfinished status after =>
          refine plain (after _) fun row row' reviewer ends => ?_
          exact status (ends.updated mapped).2.1
      | @settled read at_hand kept free after =>
          refine plain (after _) fun row row' reviewer ends => ?_
          rcases ends.updated mapped with ⟨same, done, reviewed⟩
          have current := (writesOver_spec calm begins at_hand done ends.known
            same).2 ends.unfinished (reviewed.imp
              (fun own => Option.isSome_iff_exists.mpr ⟨reviewer, own⟩)
              fun own => Option.isSome_iff_exists.mpr ⟨reviewer, own⟩)
          rcases free with finished | nobody
          · exact ends.unfinished
              (status_of_read (current.1.trans finished) (by simp))
          · rw [current.2, kept, nobody] at reviewed
            rcases reviewed with impossible | impossible <;> cases impossible
      | @approved read sender at_hand id done kept approves own reviewing refused
          goesOn =>
          have named : task.reviewer = some sender := kept.trans own
          have there := sound.reads read at_hand
          rw [← id] at there
          have current {row : Task} (known : row ∈ world.db.tasks)
              (same : row.id = task.id) :
              row.status = .reviewing ∧ row.reviewer = some sender := by
            have spec := writesOver_spec calm begins at_hand done known same
            have unfinished : row.status ≠ .done := fun finished => by
              rw [spec.1 finished] at approves
              cases approves
            have equal := spec.2 unfinished (.inr (by rw [named]; rfl))
            exact ⟨status_of_read (equal.1.trans reviewing) (by simp),
              equal.2.trans own⟩
          have finished (taskId : String) : finishes world.db db taskId =
              (some task.id == some taskId) := by
            rw [Bool.eq_iff_iff, finishes_iff, beq_iff_eq, Option.some_inj]
            constructor
            · rintro ⟨row, row', reviewer, same, ends⟩
              rw [← same, (ends.updated mapped).1]
            · intro same
              rcases hasTask_iff.mp there with ⟨row, known, equal⟩
              have changed := taskChange_own equal
              refine ⟨row, taskChange task row, sender, equal.trans same, known,
                mapped.mem.mpr ⟨row, known, rfl⟩, taskChange_id task row,
                .inl (current known equal).2, ?_, changed.1.trans done⟩
              rw [(current known equal).1]
              simp
          have due : dueOf (rest (.ok ())) = some task.id := (due_eq goesOn).symm
          refine ⟨?_, known_of_mapped mapped (taskChange_id task), ?_, ?_, ?_⟩
          · refine Connection.Sound.mono ?_
              (known_of_mapped mapped (taskChange_id task))
            refine Connection.sound_of_ensures goesOn sound.reads ?_
            rintro taskId equal
            rwa [← Option.some.inj equal]
          · intro row row' reviewer ends
            rcases ends.updated mapped with ⟨same, _, reviewed⟩
            have own' := (current ends.known same).2
            rw [own', named] at reviewed
            exact ⟨approves.trans (reviewed.elim (fun equal => equal)
              fun equal => equal), (current ends.known same).1⟩
          · intro taskId
            change approvals db taskId + (dueOf (rest (.ok ())) == some taskId).toNat
              = _
            rw [due, idle, finished, approvals, mapped.taskEvents]
            rfl
          · intro row' there absent
            rcases mapped.mem.mp there with ⟨row, known, equal⟩
            refine absurd ?_ (absent row known)
            rw [← equal, taskChange_id]

theorem insertEvent_sent {event : TaskEvent}
    {rest : Except AppError Unit → Command Unit}
    (sound : connection.Sound world.db)
    (begins : connection.rest = .request (.insertEvent event) rest) :
    Sent world (connection.send host world).2 connection
      (connection.send host world).1 := by
  have due : connection.due = approvalOf event := by
    rw [Connection.due, begins]
    rfl
  have passes := sound.passes
  rw [begins] at passes
  have idle (answer : Except AppError Unit) : dueOf (rest answer) = none :=
    (due_eq (passes.2 answer)).symm
  have resumed (answer : Except AppError Unit) :
      Connection.Sound world.db { connection with rest := rest answer } :=
    Connection.sound_of_ensures (passes.2 answer) sound.reads
      fun _ due => by cases due
  rw [Connection.send_of_begins begins, perform]
  cases written : world.db.insertEvent event with
  | error error =>
      refine .of_same rfl rfl (resumed _) ?_
      rw [due]
      refine (idle _).trans ?_
      cases approval : approvalOf event with
      | none => rfl
      | some taskId =>
          have there := sound.owes taskId (due.trans approval)
          have same : event.taskId = taskId := by
            rw [approvalOf] at approval
            split at approval
            · exact Option.some.inj approval
            · cases approval
          rcases insertEvent_ok (same ▸ there) with ⟨after, success⟩
          rw [written] at success
          cases success
  | ok db =>
      change Sent world { world with db } connection
        { connection with rest := rest (.ok ()) }
      have logged := insertEvent_logged written
      have none := @not_finishes_of_tasks _ _ logged.tasks
      have known : ∀ taskId, world.db.hasTask taskId = true →
          db.hasTask taskId = true := by
        intro taskId there
        rwa [hasTask, logged.tasks]
      refine ⟨(resumed _).mono known, known, fun row row' reviewer ends =>
        (none row row' reviewer ends).elim, fun taskId => ?_, ?_⟩
      · rw [finishes_false none, due, approvals_logged logged]
        change _ + (dueOf (rest (.ok ())) == some taskId).toNat = _
        rw [idle]
        rfl
      · intro row' there absent
        rw [logged.tasks] at there
        exact absurd rfl (absent row' there)

theorem insertTask_sent {task : Task}
    {rest : Except AppError Unit → Command Unit}
    (sound : connection.Sound world.db)
    (begins : connection.rest = .request (.insertTask task) rest) :
    Sent world (connection.send host world).2 connection
      (connection.send host world).1 := by
  have idle : connection.due = none := by
    rw [Connection.due, begins]
    rfl
  have passes := sound.passes
  rw [begins, idle] at passes
  have resumed (answer : Except AppError Unit) :
      Connection.Sound world.db { connection with rest := rest answer } :=
    Connection.sound_of_ensures (passes.2.2 answer) sound.reads
      fun _ due => by cases due
  have idle' (answer : Except AppError Unit) : dueOf (rest answer) = none :=
    (due_eq (passes.2.2 answer)).symm
  rw [Connection.send_of_begins begins, perform]
  cases written : world.db.insertTask task with
  | error error => exact .of_same rfl rfl (resumed _) ((idle' _).trans idle.symm)
  | ok db =>
      change Sent world { world with db } connection
        { connection with rest := rest (.ok ()) }
      have added := insertTask_added written
      have mem {row : Task} : row ∈ db.tasks ↔
          row ∈ world.db.tasks ∨ row = insertedTask task := by
        rw [← Table.mem_rows, added.tasks, List.mem_append, List.mem_singleton]
        rfl
      have none : ∀ row row' reviewer,
          ¬ Finishes world.db db row row' reviewer := by
        intro row row' reviewer ends
        rcases mem.mp ends.there with known | equal
        · have same := Tasks.eq_of_id known ends.known ends.same
          exact ends.unfinished (same ▸ ends.done)
        · have done := ends.done
          rw [equal] at done
          exact passes.2.1 done
      have known : ∀ taskId, world.db.hasTask taskId = true →
          db.hasTask taskId = true := by
        intro taskId there
        rcases hasTask_iff.mp there with ⟨row, known, same⟩
        exact hasTask_iff.mpr ⟨row, mem.mpr (.inl known), same⟩
      refine ⟨(resumed _).mono known, known, fun row row' reviewer ends =>
        (none row row' reviewer ends).elim, fun taskId => ?_, ?_⟩
      · rw [finishes_false none, idle, approvals, added.taskEvents]
        change _ + (dueOf (rest (.ok ())) == some taskId).toNat = _
        rw [idle']
        rfl
      · intro row' there absent
        rcases mem.mp there with known | equal
        · exact absurd rfl (absent row' known)
        · rw [equal]
          exact passes.2.1

theorem Connection.Sound.sent (sound : connection.Sound world.db)
    (calm : connection.writesOver world.db = false) :
    Sent world (connection.send host world).2 connection
      (connection.send host world).1 := by
  cases begins : connection.rest with
  | done outcome =>
      have sent : connection.send host world = (connection, world) := by
        rw [send, begins]
      rw [sent]
      exact .of_same rfl rfl sound rfl
  | request statement rest =>
      have passes := sound.passes
      rw [begins] at passes
      have sent := @send_of_begins host world _ _ _ begins
      -- A statement after which nothing is due, with the task that it reads.
      have quietly {read : Option Task}
          (tasks : (perform host statement world).2.db.tasks = world.db.tasks)
          (events : (perform host statement world).2.db.taskEvents =
            world.db.taskEvents)
          (idle : connection.due = none)
          (goesOn : Ensures (gate connection.job.approver)
            (rest (perform host statement world).1)
            (fun _ later => later.due = none) ⟨read, none⟩)
          (same : seen statement (perform host statement world).1
            connection.read = read)
          (reads : ∀ task, read = some task → world.db.hasTask task.id = true) :
          Sent world (connection.send host world).2 connection
            (connection.send host world).1 := by
        rw [sent, same]
        refine .of_same tasks events (sound_of_ensures goesOn reads
          fun _ due => by cases due) ?_
        exact (due_eq goesOn).symm.trans idle.symm
      have elsewhere (quiet : Quiet statement)
          (touches : ∀ taskId now, statement ≠ .touchTask taskId now)
          (idle : connection.due = none)
          (goesOn : Ensures (gate connection.job.approver)
            (rest (perform host statement world).1)
            (fun _ later => later.due = none) ⟨connection.read, none⟩)
          (same : seen statement (perform host statement world).1
            connection.read = connection.read) :
          Sent world (connection.send host world).2 connection
            (connection.send host world).1 :=
        quietly (perform_quiet quiet touches).1 (perform_quiet quiet touches).2
          idle goesOn same sound.reads
      have found {answer : Option Task}
          (located : ∀ task, answer = some task →
            ∃ row ∈ world.db.tasks, taskFromRow row = task)
          (task : Task) (read : answer.or connection.read = some task) :
          world.db.hasTask task.id = true := by
        rcases Option.or_eq_some_iff.mp read with fresh | ⟨_, held⟩
        · rcases located task fresh with ⟨row, there, equal⟩
          exact hasTask_iff.mpr ⟨row, there, by rw [← equal]; rfl⟩
        · exact sound.reads task held
      cases statement with
      | updateTask task => exact updateTask_sent sound begins calm
      | insertEvent event => exact insertEvent_sent sound begins
      | selectTaskById reference | selectTaskByShortId reference =>
          have idle : connection.due = none := passes.1
          rw [idle] at passes
          refine quietly rfl rfl idle (passes.2 _) rfl
            (@found _ fun task located => ?_)
          rcases Option.map_eq_some_iff.mp located with ⟨row, searched, read⟩
          exact ⟨row, (Table.mem_of_find? searched).1, read⟩
      | touchTask taskId now =>
          have idle : connection.due = none := passes.1
          rw [idle] at passes
          rw [sent]
          refine .of_mapped touchTask_mapped (touchChange_id taskId now) ?_
            (sound_of_ensures (passes.2 ()) sound.reads fun _ due => by cases due)
            idle (due_eq (passes.2 ())).symm
          intro row row' reviewer ends
          have changed := ends.mapped touchTask_mapped (touchChange_id taskId now)
          refine ends.unfinished ?_
          rw [← ends.done, changed, touchChange]
          split <;> rfl
      | insertTask task => exact insertTask_sent sound begins
      | _ =>
          have idle : connection.due = none := passes.1
          rw [idle] at passes
          exact elsewhere trivial (fun _ _ equal => by cases equal) idle
            (passes.2 _) rfl

end Steps

/-! ## Runs -/

namespace Floor

/-- The approvals of a task whose event is still to be written. -/
def owed (floor : Floor) (taskId : String) : Nat :=
  floor.connections.countP fun connection => connection.due == some taskId

/-- The move is no statement that writes over what another job did, and no
failure that cuts off an approval before its event. -/
def undisturbed (floor : Floor) : Move → Bool
  | .sends index => floor.connections[index]?.all fun connection =>
      !connection.writesOver floor.db
  | .fails index => floor.connections[index]?.all fun connection =>
      connection.due.isNone
  | _ => true

def Undisturbed (floor : Floor) (move : Move) : Prop :=
  floor.undisturbed move = true

/-- How often a task that has a reviewer becomes done. -/
def completions (settings : Settings) (boardId taskId : String) :
    Floor → List Move → Nat
  | _, [] => 0
  | floor, move :: rest =>
      (finishes floor.db (floor.advance settings boardId move).db taskId).toNat +
        completions settings boardId taskId (floor.advance settings boardId move)
          rest

def Sound (floor : Floor) : Prop :=
  ∀ connection ∈ floor.connections, connection.Sound floor.db

end Floor

/-- A step in which a task with a reviewer is done only by the approval of this
reviewer, each approval is recorded or about to be, and no task starts out
done. -/
structure ReviewGated (floor : Floor) (move : Move) (next : Floor) : Prop where
  approved : ∀ row row' reviewer,
    Finishes floor.db next.db row row' reviewer →
      ∃ index connection notifier cmd, move = .sends index ∧
        floor.connections[index]? = some connection ∧
        connection.job = .command notifier cmd reviewer ∧
        cmd.verb ∈ ["approve", "verify"] ∧ row.status = .reviewing
  recorded : ∀ taskId,
    approvals next.db taskId + next.owed taskId =
      approvals floor.db taskId + floor.owed taskId +
        (finishes floor.db next.db taskId).toNat
  unfinished : ∀ row' ∈ next.db.tasks,
    (∀ row ∈ floor.db.tasks, row.id ≠ row'.id) → row'.status ≠ .done

section Runs

variable {settings : Settings} {boardId : String} {floor next : Floor}
  {move : Move} {moves : List Move}

theorem Job.command_of_approver {job : Job} {reviewer : String}
    (approves : job.approver = some reviewer) : ∃ notifier cmd,
      job = .command notifier cmd reviewer ∧ cmd.verb ∈ ["approve", "verify"] := by
  cases job with
  | command notifier cmd sender =>
      rw [approver] at approves
      split at approves
      · next verb =>
          cases approves
          exact ⟨notifier, cmd, rfl, verb⟩
      · cases approves
  | _ => cases approves

theorem countP_set_toNat {α : Type} {holds : α → Bool} {elements : List α}
    {index : Nat} {before after : α} (there : elements[index]? = some before) :
    (elements.set index after).countP holds + (holds before).toNat =
      elements.countP holds + (holds after).toNat := by
  rcases List.getElem?_eq_some_iff.mp there with ⟨inside, equal⟩
  have atLeast := @List.boole_getElem_le_countP _ holds _ _ inside
  rw [List.countP_set inside, equal]
  rw [equal] at atLeast
  generalize elements.countP holds = total at atLeast ⊢
  cases kept : holds before <;> cases holds after <;>
    simp only [kept, if_true, if_false, Bool.false_eq_true, Bool.toNat_true,
      Bool.toNat_false] at atLeast ⊢ <;> omega

theorem ReviewGated.of_same (db : next.db = floor.db)
    (owed : ∀ taskId, next.owed taskId = floor.owed taskId) :
    ReviewGated floor move next := by
  have none := @not_finishes_of_tasks floor.db next.db (by rw [db])
  refine ⟨fun row row' reviewer ends => (none row row' reviewer ends).elim,
    fun taskId => ?_, ?_⟩
  · rw [finishes_false none, owed, db]
    rfl
  · intro row' there absent
    rw [db] at there
    exact absurd rfl (absent row' there)

theorem Connection.opened_sound (db : BoardDb) (job : Job) :
    (Connection.opened settings boardId job).Sound db ∧
      (Connection.opened settings boardId job).due = none := by
  have passes : Ensures (gate job.approver) (job.program settings boardId)
      (fun _ later => later.due = none) ⟨none, none⟩ := job.passes
  exact ⟨sound_of_ensures passes (fun _ read => by cases read)
    fun _ due => (by cases due), (due_eq passes).symm⟩

theorem Connection.Sound.failed {db : BoardDb} {connection : Connection}
    (sound : connection.Sound db) (idle : connection.due = none) :
    connection.fail.Sound db ∧ connection.fail.due = none := by
  have resumed {rest : Command Unit}
      (passes : Ensures (gate connection.job.approver) rest
        (fun _ later => later.due = none) ⟨connection.read, none⟩) :
      Connection.Sound db { connection with rest } ∧
        Connection.due { connection with rest } = none :=
    ⟨sound_of_ensures passes sound.reads fun _ due => (by cases due),
      (due_eq passes).symm⟩
  have passes := sound.passes
  cases begins : connection.rest with
  | done outcome =>
      rw [fail, begins]
      exact ⟨sound, idle⟩
  | request statement next =>
      rw [begins, idle] at passes
      rw [fail, begins]
      cases statement with
      | createBoard board => exact resumed (passes.2 _)
      | upsertMember member => exact resumed (passes.2 _)
      | insertTask task => exact resumed (passes.2.2 _)
      | insertEvent event => exact resumed (passes.2 _)
      | updateTask task =>
          cases passes.2 with
          | unfinished status after => exact resumed (after _)
          | settled at_hand reviewer free after => exact resumed (after _)
          | approved at_hand id done reviewer approves own reviewing refused _ =>
              exact resumed (refused _)
      | _ => exact @resumed (.done (.error locked)) rfl

theorem Floor.step_opens (sound : floor.Sound) (job : Job) :
    (floor.advance settings boardId (.opens job)).Sound ∧
      ReviewGated floor (.opens job)
        (floor.advance settings boardId (.opens job)) := by
  have fresh := @Connection.opened_sound settings boardId floor.db job
  constructor
  · intro connection there
    rcases List.mem_append.mp there with known | new
    · exact sound connection known
    · rw [List.mem_singleton.mp new]
      exact fresh.1
  · refine .of_same rfl fun taskId => ?_
    have counted : owed (floor.advance settings boardId (.opens job)) taskId =
        (floor.connections ++
          [Connection.opened settings boardId job]).countP
          fun connection => connection.due == some taskId := rfl
    rw [counted, List.countP_append, List.countP_singleton, fresh.2]
    rfl

theorem Floor.step_sends (sound : floor.Sound) {index : Nat}
    (calm : floor.undisturbed (.sends index) = true) :
    (floor.advance settings boardId (.sends index)).Sound ∧
      ReviewGated floor (.sends index)
        (floor.advance settings boardId (.sends index)) := by
  cases at_index : floor.connections[index]? with
  | none =>
      have still : floor.advance settings boardId (.sends index) = floor := by
        rw [advance, sends, at_index]
      rw [still]
      exact ⟨sound, .of_same rfl fun _ => rfl⟩
  | some connection =>
      rw [undisturbed, at_index, Option.all_some, Bool.not_eq_true'] at calm
      have member := List.mem_of_getElem? at_index
      have sent := @Connection.Sound.sent settings.host _ _
        (sound connection member) calm
      have moved : floor.advance settings boardId (.sends index) =
          { world := (connection.send settings.host floor.world).2
            connections := floor.connections.set index
              (connection.send settings.host floor.world).1 } := by
        rw [advance]
        exact sends_of_get at_index
      rw [moved]
      constructor
      · intro other there
        rcases List.mem_or_eq_of_mem_set there with known | own
        · exact (sound other known).mono sent.known
        · rw [own]
          exact sent.sound
      · refine ⟨fun row row' reviewer ends => ?_, fun taskId => ?_, sent.fresh⟩
        · rcases sent.approved row row' reviewer ends with ⟨approves, reviewing⟩
          rcases Job.command_of_approver approves with ⟨notifier, cmd, job, verb⟩
          exact ⟨index, connection, notifier, cmd, rfl, at_index, job, verb,
            reviewing⟩
        · have counted := @countP_set_toNat Connection
            (fun connection => connection.due == some taskId) _ _ _
            (connection.send settings.host floor.world).1 at_index
          have ledger := sent.ledger taskId
          simp only [owed, db] at counted ledger ⊢
          omega

theorem Floor.step_fails (sound : floor.Sound) {index : Nat}
    (calm : floor.undisturbed (.fails index) = true) :
    (floor.advance settings boardId (.fails index)).Sound ∧
      ReviewGated floor (.fails index)
        (floor.advance settings boardId (.fails index)) := by
  cases at_index : floor.connections[index]? with
  | none =>
      have still : floor.advance settings boardId (.fails index) = floor := by
        rw [advance, fails, at_index]
      rw [still]
      exact ⟨sound, .of_same rfl fun _ => rfl⟩
  | some connection =>
      rw [undisturbed, at_index, Option.all_some, Option.isNone_iff_eq_none]
        at calm
      have member := List.mem_of_getElem? at_index
      have failed := (sound connection member).failed calm
      have moved : floor.advance settings boardId (.fails index) =
          { floor with
            connections := floor.connections.set index connection.fail } := by
        rw [advance, fails, at_index]
      rw [moved]
      constructor
      · intro other there
        rcases List.mem_or_eq_of_mem_set there with known | own
        · exact sound other known
        · rw [own]
          exact failed.1
      · refine .of_same rfl fun taskId => ?_
        have counted := @countP_set_toNat Connection
          (fun connection => connection.due == some taskId) _ _ _
          connection.fail at_index
        simp only [failed.2, calm] at counted
        exact Nat.add_right_cancel counted

theorem Floor.step_renames (sound : floor.Sound) (old new : String) :
    (floor.advance settings boardId (.renames old new)).Sound ∧
      ReviewGated floor (.renames old new)
        (floor.advance settings boardId (.renames old new)) := by
  have relabelled := renamedFile_relabelled settings old new floor.db
  rcases relabelled.tasks with ⟨change, rows, same⟩
  rcases relabelled.taskEvents with ⟨label, events, alike⟩
  have mem {row : Task} : row ∈ (renamedFile settings old new floor.db).tasks ↔
      ∃ origin ∈ floor.db.tasks, change origin = row := by
    rw [← Table.mem_rows, rows, List.mem_map]
    rfl
  have kept (row : Task) :
      (change row).id = row.id ∧ (change row).status = row.status := by
    have equal := same row
    rw [Task.SameButAddresses] at equal
    have id := congrArg Task.id equal
    have status := congrArg Task.status equal
    exact ⟨id, status⟩
  have known (taskId : String) (there : floor.db.hasTask taskId = true) :
      (renamedFile settings old new floor.db).hasTask taskId = true := by
    rcases hasTask_iff.mp there with ⟨row, known, equal⟩
    exact hasTask_iff.mpr ⟨change row, mem.mpr ⟨row, known, rfl⟩,
      (kept row).1.trans equal⟩
  have none : ∀ row row' reviewer, ¬ Finishes floor.db
      (renamedFile settings old new floor.db) row row' reviewer := by
    intro row row' reviewer ends
    rcases mem.mp ends.there with ⟨origin, known, equal⟩
    have own : origin.id = row.id := by
      rw [← (kept origin).1, equal, ends.same]
    have origin_eq := Tasks.eq_of_id known ends.known own
    refine ends.unfinished ?_
    rw [← ends.done, ← equal, (kept origin).2, origin_eq]
  have recorded (taskId : String) :
      approvals (renamedFile settings old new floor.db) taskId =
        approvals floor.db taskId := by
    rw [approvals, events, List.countP_map, approvals]
    refine List.countP_congr fun event _ => ?_
    have about := congrArg TaskEvent.taskId (alike event)
    have kind := congrArg TaskEvent.eventType (alike event)
    simp only at about kind
    rw [Function.comp_apply, approvalOf, about, kind, approvalOf]
  refine ⟨fun connection there => (sound connection there).mono known,
    fun row row' reviewer ends => (none row row' reviewer ends).elim,
    fun taskId => ?_, ?_⟩
  · have changed : (floor.advance settings boardId (.renames old new)).db =
        renamedFile settings old new floor.db := rfl
    rw [changed, finishes_false none, recorded]
    rfl
  · intro row' there absent
    rcases mem.mp there with ⟨row, known, equal⟩
    refine absurd ?_ (absent row known)
    rw [← equal, (kept row).1]

theorem Floor.step_gated (sound : floor.Sound) (calm : floor.Undisturbed move) :
    (floor.advance settings boardId move).Sound ∧
      ReviewGated floor move (floor.advance settings boardId move) := by
  cases move with
  | opens job => exact step_opens sound job
  | sends index => exact step_sends sound calm
  | fails index => exact step_fails sound calm
  | renames old new => exact step_renames sound old new

theorem Floor.run_gated {last : Floor} (sound : floor.Sound)
    (run : Run (Guarded Undisturbed (Step settings boardId)) floor moves last) :
    Run (fun before move after => Step settings boardId before move after ∧
        ReviewGated before move after) floor moves last ∧
      ∀ taskId, approvals last.db taskId + last.owed taskId =
        approvals floor.db taskId + floor.owed taskId +
          completions settings boardId taskId floor moves := by
  induction run with
  | nil floor => exact ⟨.nil floor, fun taskId => rfl⟩
  | @cons before after last move moves moved rest induction =>
      rcases moved with ⟨calm, step⟩
      have same : before.advance settings boardId move = after := step
      rcases @step_gated settings boardId _ _ sound calm with ⟨sound', gated⟩
      rw [same] at sound' gated
      rcases induction sound' with ⟨run, sums⟩
      refine ⟨.cons ⟨step, gated⟩ run, fun taskId => ?_⟩
      have here := gated.recorded taskId
      have later := sums taskId
      rw [completions, same]
      omega

/-- In every run without such disturbance every step is gated, and there is one
event for each time a reviewed task was done, once no approval is under way. -/
theorem reviewGated_run (settings : Settings) (boardId : String) (db : BoardDb)
    {moves : List Move} {last : Floor}
    (run : Run (Guarded Floor.Undisturbed (Floor.Step settings boardId))
      (Floor.start db) moves last) :
    Run (fun before move after => Floor.Step settings boardId before move after ∧
        ReviewGated before move after) (Floor.start db) moves last ∧
      ∀ taskId, approvals last.db taskId + last.owed taskId =
        approvals db taskId +
          Floor.completions settings boardId taskId (Floor.start db) moves := by
  have sound : (Floor.start db).Sound := fun _ there => by cases there
  exact Floor.run_gated sound run

end Runs

namespace Floor

def after (settings : Settings) (boardId : String) (moves : List Move)
    (floor : Floor) : Floor :=
  moves.foldl (fun floor move => floor.advance settings boardId move) floor

/-- Every move finds nothing to write over. -/
def calm (settings : Settings) (boardId : String) : List Move → Floor → Bool
  | [], _ => true
  | move :: rest, floor => floor.undisturbed move &&
      calm settings boardId rest (floor.advance settings boardId move)

theorem after_run {settings : Settings} {boardId : String} {moves : List Move}
    {floor : Floor} (calm : floor.calm settings boardId moves = true) :
    Run (Guarded Undisturbed (Step settings boardId)) floor moves
      (floor.after settings boardId moves) := by
  induction moves generalizing floor with
  | nil => exact .nil floor
  | cons move rest induction =>
      rw [Floor.calm, Bool.and_eq_true] at calm
      exact .cons ⟨calm.1, rfl⟩ (induction calm.2)

end Floor

namespace Trial

def reviewedTask : String × Json :=
  listed "tasks" [[("title", "t"), ("assignee", "work@x.org"),
    ("reviewer", "ver@x.org")]]

def boardWith (task : String × Json) : BoardDb :=
  (reached [teamDocument, task]
    [creation teamDocument, toBoard "orch@x.org" "[A2A] create" task]).files
    demoBoard

def demoNotifier : Notifier := ⟨demoBoard, "proj1", demoBoard⟩

def commanded (sender verb : String) (params : Option Json) : Move :=
  .opens (.command demoNotifier ⟨verb, some "T1", params⟩ sender)

/-- Statements of two connections. -/
def alternate (first second : Nat) : List Move :=
  List.replicate first (.sends 0) ++ List.replicate second (.sends 1)

/-- The worker completes the task while the orchestrator comments on it, and
the reviewer begins to approve it before the comment ends. -/
def approval : List Move :=
  [commanded "work@x.org" "complete" none, commanded "orch@x.org" "comment" none] ++
    alternate 3 3 ++ alternate 7 2 ++ [commanded "ver@x.org" "approve" none] ++
    List.replicate 4 (.sends 2) ++ alternate 0 4 ++ List.replicate 3 (.sends 2)

/-- The worker's command has read the task when the orchestrator asks for its
review, and writes it afterwards. -/
def writtenOver : List Move :=
  [commanded "work@x.org" "complete" none,
    commanded "orch@x.org" "review"
      (some (.object [("reviewer", .string "ver@x.org")]))] ++ alternate 4 8

def teamSettings : Settings := configured [teamDocument, reviewedTask, plainTask]

end Trial

open Trial in
/-- Three commands at a time; the task is done by its reviewer, with one event
for it. -/
theorem reviewGated_run_approval :
    (((Floor.start (boardWith reviewedTask)).after teamSettings demoBoard
        approval).db.tasks.rows.map fun row => (row.status, row.reviewer)) =
      [(TaskStatus.done, some "ver@x.org")] ∧
    approvals ((Floor.start (boardWith reviewedTask)).after teamSettings demoBoard
      approval).db "t_T1_proj1.a2" = 1 ∧
    ∀ taskId, approvals ((Floor.start (boardWith reviewedTask)).after teamSettings
          demoBoard approval).db taskId +
        ((Floor.start (boardWith reviewedTask)).after teamSettings demoBoard
          approval).owed taskId =
      approvals (boardWith reviewedTask) taskId +
        Floor.completions teamSettings demoBoard taskId
          (Floor.start (boardWith reviewedTask)) approval :=
  ⟨by decide +kernel, by decide +kernel,
    (reviewGated_run teamSettings demoBoard (boardWith reviewedTask)
      (Floor.after_run (by decide +kernel))).2⟩

open Trial in
/-- The task is with its reviewer when the command of the worker, who read it
before, writes it as done and without a reviewer. -/
theorem reviewGate_written_over :
    ¬ ∀ (settings : Settings) (boardId : String) (db : BoardDb)
      (moves : List Move) (last : Floor),
      Run (Floor.Step settings boardId) (Floor.start db) moves last →
        Run (fun before move after => Floor.Step settings boardId before move after ∧
          ReviewGated before move after) (Floor.start db) moves last := by
  intro claimed
  have moved (moves : List Move) (floor : Floor) :
      Run (Floor.Step teamSettings demoBoard) floor moves
        (floor.after teamSettings demoBoard moves) := by
    induction moves generalizing floor with
    | nil => exact .nil floor
    | cons move rest induction => exact .cons rfl (induction _)
  have gated := claimed _ _ (boardWith plainTask) (writtenOver ++ [.sends 0]) _
    (moved _ _)
  rcases gated.split with ⟨middle, start, finish⟩
  have reached : middle = (Floor.start (boardWith plainTask)).after teamSettings
      demoBoard writtenOver :=
    (start.mono fun _ _ _ step => step.1).unique
      (fun _ _ _ _ one two => one.symm.trans two) (moved _ _)
  cases finish with
  | cons step rest =>
      rcases step with ⟨step, gated⟩
      rw [reached] at step gated
      rw [← step] at gated
      have done : finishes
          ((Floor.start (boardWith plainTask)).after teamSettings demoBoard
            writtenOver).db
          (((Floor.start (boardWith plainTask)).after teamSettings demoBoard
            writtenOver).advance teamSettings demoBoard (.sends 0)).db
          "t_T1_proj1.a2" = true := by decide +kernel
      rcases finishes_iff.mp done with ⟨row, row', reviewer, _, ends⟩
      rcases gated.approved row row' reviewer ends with
        ⟨index, connection, notifier, cmd, own, there, job, verb, _⟩
      cases own
      have completes : (((Floor.start (boardWith plainTask)).after teamSettings
          demoBoard writtenOver).connections[0]?.map fun connection =>
            connection.job.approver) = some none := by decide +kernel
      rw [there, Option.map_some, job, Job.approver, if_pos verb] at completes
      cases completes

end AimailGateway.Board
