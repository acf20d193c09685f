import AimailGateway.Board.CommandEffects
import AimailGateway.Board.TaskStorage

/-! # Creation of tasks

The handler checks the addressees of an entry, the schema checks the references
of the row it inserts. This says for which batches both accept.
-/

namespace AimailGateway.Board

open Library Fallible Commands BoardDb

namespace Creation

/-! ## The batch -/

def entriesOf (cmd : A2aCommand) : List Json :=
  (cmd.params.bind (·.getArray? "tasks")).getD []

def shortIdAt (next : Nat) : String := "T" ++ toString next

/-- An entry that passes the checks of the handler: its assignee and its
reviewer are empty or members of the board. -/
structure Valid (db : BoardDb) (boardId : String) (entry : Json) : Prop where
  assignee : Listed db boardId (assigneeOf entry)
  reviewer : ∀ reviewer, entry.getStr? "reviewer" = some reviewer →
    Listed db boardId reviewer

def newTasks (host : Host) (boardId sender : String) :
    Nat → Nat → List Json → List Task
  | _, _, [] => []
  | next, tick, entry :: rest =>
      newTask host boardId sender (shortIdAt next) (host.now tick) entry ::
        newTasks host boardId sender (next + 1) (tick + 1) rest

/-- Every assignee is in the table of members, and no task has an id that is
given next. -/
def Acceptable (db : BoardDb) (boardId : String) : Nat → List Json → Prop
  | _, [] => True
  | next, entry :: rest =>
      (assigneeOf entry = "" → db.isMember "" = true) ∧
        db.hasTask (Store.makeTaskId boardId (shortIdAt next)) = false ∧
        Acceptable db boardId (next + 1) rest

def HasShort (db : BoardDb) (boardId shortId : String) : Prop :=
  ∃ task ∈ db.tasks, task.boardId = boardId ∧ task.shortId = shortId

def nextShortIds (db : BoardDb) (boardId : String) (count : Nat) :
    List String :=
  (List.range' (db.nextTaskSeq boardId) count).map shortIdAt

def parentsOf (entry : Json) : List String := (entry.getStrs? "parents").getD []

/-- The batch is created: its rows can be inserted, the board has no task of a
short id that is given next, and each parent is a task of the board or of the
batch. -/
structure Accepted (db : BoardDb) (boardId : String) (entries : List Json) :
    Prop where
  rows : Acceptable db boardId (db.nextTaskSeq boardId) entries
  fresh : ∀ shortId ∈ nextShortIds db boardId entries.length,
    ¬ HasShort db boardId shortId
  parents : ∀ entry ∈ entries, ∀ parent ∈ parentsOf entry,
    HasShort db boardId parent ∨
      parent ∈ nextShortIds db boardId entries.length

/-- The command succeeds and inserts the tasks of its batch, with short ids that
no other task of the board has, and with parents that are tasks of the board. -/
def Creates (host : Host) (world : BoardWorld) (boardId sender : String)
    (cmd : A2aCommand) : Prop :=
  ∃ response after,
    Command.run host (handleCreate host cmd sender) world =
        (.ok response, after) ∧
      ∃ tasks, tasks = newTasks host boardId sender
          (world.db.nextTaskSeq boardId) world.tick (entriesOf cmd) ∧
        after.db.tasks.rows = world.db.tasks.rows ++ tasks ∧
        (tasks.map (·.shortId)).Nodup ∧
        (∀ task ∈ tasks, ¬ HasShort world.db boardId task.shortId) ∧
        ∀ task ∈ tasks, ∀ parent ∈ task.parentIds,
          HasShort after.db boardId parent

/-! ## Ids -/

theorem shortIdAt_inj {first second : Nat}
    (same : shortIdAt first = shortIdAt second) : first = second := by
  have digits := congrArg String.toList same
  rw [shortIdAt, shortIdAt, String.toList_append, String.toList_append,
    List.append_cancel_left_eq, Nat.toString_eq_repr, Nat.toString_eq_repr,
    Nat.toList_repr, Nat.toList_repr] at digits
  have numbers := congrArg (fun list => Nat.ofDigitChars 10 list 0) digits
  simpa using numbers

theorem makeTaskId_inj {boardId first second : String}
    (same : Store.makeTaskId boardId first = Store.makeTaskId boardId second) :
    first = second := by
  have lists := congrArg String.toList same
  simp only [Store.makeTaskId, String.toList_append, List.append_assoc] at lists
  exact String.toList_inj.mp
    (List.append_cancel_right (List.append_cancel_left lists))

/-! ## The tasks of a batch -/

theorem newTasks_shortIds (host : Host) (boardId sender : String)
    (next tick : Nat) (entries : List Json) :
    (newTasks host boardId sender next tick entries).map (·.shortId) =
      (List.range' next entries.length).map shortIdAt := by
  induction entries generalizing next tick with
  | nil => rfl
  | cons entry rest induction =>
      rw [newTasks, List.map_cons, induction, List.length_cons,
        List.range'_succ, List.map_cons]
      rfl

theorem newTasks_parents (host : Host) (boardId sender : String)
    (next tick : Nat) (entries : List Json) :
    (newTasks host boardId sender next tick entries).map (·.parentIds) =
      entries.map parentsOf := by
  induction entries generalizing next tick with
  | nil => rfl
  | cons entry rest induction =>
      rw [newTasks, List.map_cons, induction, List.map_cons]
      rfl

theorem boardId_of_newTasks {host : Host} {boardId sender : String}
    {next tick : Nat} {entries : List Json} {task : Task}
    (listed : task ∈ newTasks host boardId sender next tick entries) :
    task.boardId = boardId := by
  induction entries generalizing next tick with
  | nil => cases listed
  | cons entry rest induction =>
      rw [newTasks] at listed
      cases listed with
      | head => rfl
      | tail _ later => exact induction later

theorem nextShortIds_nodup (db : BoardDb) (boardId : String) (count : Nat) :
    (nextShortIds db boardId count).Nodup := by
  apply List.Pairwise.map shortIdAt (R := (· < ·)) ?_ List.pairwise_lt_range'
  exact fun first second before same =>
    absurd (shortIdAt_inj same) (Nat.ne_of_lt before)

theorem hasShort_appended {db after : BoardDb} {boardId shortId : String}
    {tasks : List Task} (rows : after.tasks.rows = db.tasks.rows ++ tasks)
    (board : ∀ task ∈ tasks, task.boardId = boardId) :
    HasShort after boardId shortId ↔
      HasShort db boardId shortId ∨ shortId ∈ tasks.map (·.shortId) := by
  have member (task : Task) :
      task ∈ after.tasks ↔ task ∈ db.tasks ∨ task ∈ tasks := by
    rw [← Table.mem_rows, rows, List.mem_append, Table.mem_rows]
  constructor
  · rintro ⟨task, there, owned, same⟩
    rcases (member task).mp there with before | new
    · exact .inl ⟨task, before, owned, same⟩
    · exact .inr (List.mem_map.mpr ⟨task, new, same⟩)
  · rintro (⟨task, there, owned, same⟩ | new)
    · exact ⟨task, (member task).mpr (.inl there), owned, same⟩
    · rcases List.mem_map.mp new with ⟨task, there, same⟩
      exact ⟨task, (member task).mpr (.inr there), board task there, same⟩

section Entries

variable {host : Host} {world : BoardWorld} {boardId sender : String}
  {db after : BoardDb} {failed : AppError → BoardWorld → Prop} {entry : Json}
  {ok : Unit → BoardWorld → Prop} {task : Task}

theorem nextTaskSeq_bump (db : BoardDb) (boardId : String) :
    (db.bumpTaskSeq boardId).nextTaskSeq boardId =
      db.nextTaskSeq boardId + 1 := by
  rw [bumpTaskSeq, nextTaskSeq]
  simp

theorem isMember_of_listed {db : BoardDb}
    (listed : Listed db boardId (assigneeOf entry))
    (empty : assigneeOf entry = "" → db.isMember "" = true) :
    db.isMember (assigneeOf entry) = true := by
  rcases listed with none | ⟨member, found⟩
  · rw [none]
    exact empty none
  · obtain ⟨there, fields⟩ := Table.mem_of_find? found
    have same : member.email = assigneeOf entry := by
      simp at fields
      exact fields.2
    exact isMember_iff.mpr ⟨member, there, same⟩

theorem ends_requireListed {address role : String}
    (listed : Listed world.db boardId address) :
    (Command.run host (requireListed boardId address role)).Ends ok failed
      world ↔ ok () world := by
  rw [requireListed]
  by_cases empty : address = ""
  · rw [if_pos empty]
    rfl
  · rw [if_neg empty, Command.ends_sequence, Store.ends_getMember]
    rcases listed with none | ⟨member, found⟩
    · exact absurd none empty
    · rw [found]
      rfl

theorem ends_requireReviewerListed
    (listed : ∀ reviewer, entry.getStr? "reviewer" = some reviewer →
      Listed world.db boardId reviewer) :
    (Command.run host (requireReviewerListed boardId entry)).Ends ok failed
      world ↔ ok () world := by
  rw [requireReviewerListed]
  cases given : entry.getStr? "reviewer" with
  | none => rfl
  | some reviewer => exact ends_requireListed (listed reviewer given)

theorem ends_createEntry (valid : Valid world.db boardId entry) :
    (Command.run host (createEntry host boardId sender entry)).Ends ok failed
        world ↔
      (∀ db, (world.db.bumpTaskSeq boardId).insertTask
          (newTask host boardId sender
            (shortIdAt (world.db.nextTaskSeq boardId)) (host.now world.tick)
            entry) = .ok db →
        ok () (world.tock.withDb db)) ∧
      ∀ error, (world.db.bumpTaskSeq boardId).insertTask
          (newTask host boardId sender
            (shortIdAt (world.db.nextTaskSeq boardId)) (host.now world.tick)
            entry) = .error error →
        failed error (world.tock.withDb (world.db.bumpTaskSeq boardId)) := by
  rw [createEntry, Command.ends_sequence, ends_requireListed valid.assignee,
    Command.ends_sequence, ends_requireReviewerListed valid.reviewer,
    Command.ends_sequence, Store.ends_nextShortId, Command.ends_sequence,
    Store.ends_utcNow, Store.ends_createTask]
  rfl

/-! ## One row -/

theorem insertTask_ok_iff (db : BoardDb) (task : Task)
    (board : db.hasBoard task.boardId = true) :
    (∃ after, db.insertTask task = .ok after) ↔
      db.isMember task.assignee = true ∧ db.hasTask task.id = false := by
  rw [insertTask]
  split
  · next taken =>
      constructor
      · rintro ⟨after, impossible⟩
        cases impossible
      · rintro ⟨-, free⟩
        rw [taken] at free
        cases free
  · next free =>
      split
      · next known =>
          exact iff_of_true ⟨_, rfl⟩ ⟨known.2, by simpa using free⟩
      · next unknown =>
          constructor
          · rintro ⟨after, impossible⟩
            cases impossible
          · rintro ⟨known, -⟩
            exact absurd ⟨board, known⟩ unknown

theorem insertTask_taskSeq (inserted : db.insertTask task = .ok after) :
    after.taskSeq = db.taskSeq := by
  rw [insertTask] at inserted
  split at inserted
  · cases inserted
  · split at inserted
    · cases inserted
      rfl
    · cases inserted

/-- The database with the row of an entry: the next short id is given, and the
rest stays. -/
structure Inserted (boardId : String) (task : Task) (db after : BoardDb) :
    Prop where
  members : after.members = db.members
  boards : after.boards = db.boards
  rows : after.tasks.rows = db.tasks.rows ++ [task]
  next : after.nextTaskSeq boardId = db.nextTaskSeq boardId + 1

theorem inserted_newTask {shortId ts : String}
    (inserted : (db.bumpTaskSeq boardId).insertTask
      (newTask host boardId sender shortId ts entry) = .ok after) :
    Inserted boardId (newTask host boardId sender shortId ts entry) db after := by
  have added := insertTask_added inserted
  refine ⟨added.members, added.boards, added.tasks, ?_⟩
  rw [nextTaskSeq, insertTask_taskSeq inserted, ← nextTaskSeq]
  exact nextTaskSeq_bump db boardId

theorem Inserted.hasTask
    (inserted : Inserted boardId task db after) (taskId : String)
    (other : task.id ≠ taskId) :
    after.hasTask taskId = db.hasTask taskId := by
  rw [BoardDb.hasTask, BoardDb.hasTask, inserted.rows, List.any_append]
  simp [other]

theorem Inserted.isMember
    (inserted : Inserted boardId task db after) (email : String) :
    after.isMember email = db.isMember email := by
  rw [BoardDb.isMember, BoardDb.isMember, inserted.members]

theorem Inserted.acceptable_iff {given : Nat}
    (inserted : Inserted boardId task db after)
    (id : task.id = Store.makeTaskId boardId (shortIdAt given))
    (rest : List Json) (next : Nat) (later : given < next) :
    Acceptable after boardId next rest ↔ Acceptable db boardId next rest := by
  induction rest generalizing next with
  | nil => exact Iff.rfl
  | cons entry rest induction =>
      have other : task.id ≠ Store.makeTaskId boardId (shortIdAt next) := by
        rw [id]
        intro same
        have equal := shortIdAt_inj (makeTaskId_inj same)
        omega
      rw [Acceptable, Acceptable, inserted.hasTask _ other,
        inserted.isMember, induction (next + 1) (by omega)]

theorem Inserted.valid (inserted : Inserted boardId task db after)
    (valid : Valid db boardId entry) : Valid after boardId entry :=
  ⟨(listed_of_members inserted.members).mpr valid.assignee,
    fun reviewer named =>
      (listed_of_members inserted.members).mpr (valid.reviewer reviewer named)⟩

theorem Inserted.hasBoard {other : String}
    (inserted : Inserted boardId task db after) :
    after.hasBoard other = db.hasBoard other := by
  rw [BoardDb.hasBoard, BoardDb.hasBoard, inserted.boards]

/-! ## The loop -/

theorem loop_creates (entries : List Json)
    (valid : ∀ entry ∈ entries, Valid world.db boardId entry)
    (board : world.db.hasBoard boardId = true)
    (acceptable : Acceptable world.db boardId (world.db.nextTaskSeq boardId)
      entries) :
    (Command.run host (forEach entries (createEntry host boardId sender))).Ends
      (fun _ next => next.db.tasks.rows = world.db.tasks.rows ++
        newTasks host boardId sender (world.db.nextTaskSeq boardId) world.tick
          entries)
      (fun _ _ => False) world := by
  induction entries generalizing world with
  | nil => exact (List.append_nil _).symm
  | cons entry rest induction =>
      obtain ⟨empty, free, later⟩ := acceptable
      have own := valid entry List.mem_cons_self
      rw [forEach, Command.ends_sequence, ends_createEntry own]
      constructor
      · intro db inserted
        have row := inserted_newTask inserted
        have loop := @induction (world.tock.withDb db)
          (fun other member => row.valid
            (valid other (List.mem_cons_of_mem _ member)))
          (row.hasBoard.trans board)
          (by
            rw [show (world.tock.withDb db).db = db from rfl, row.next,
              row.acceptable_iff rfl _ _ (Nat.lt_succ_self _)]
            exact later)
        refine loop.mono ?_ fun _ _ impossible => impossible
        intro _ next rows
        rw [show (world.tock.withDb db).db = db from rfl, row.next, row.rows]
          at rows
        rw [rows, newTasks, List.append_assoc]
        rfl
      · intro error refused
        have accepted := (insertTask_ok_iff (world.db.bumpTaskSeq boardId)
          (newTask host boardId sender
            (shortIdAt (world.db.nextTaskSeq boardId)) (host.now world.tick)
            entry) board).mpr
          ⟨isMember_of_listed own.assignee empty, free⟩
        obtain ⟨after, inserted⟩ := accepted
        rw [inserted] at refused
        cases refused

theorem loop_accepts (entries : List Json)
    (valid : ∀ entry ∈ entries, Valid world.db boardId entry)
    (board : world.db.hasBoard boardId = true) :
    (Command.run host (forEach entries (createEntry host boardId sender))).Ends
      (fun _ _ => Acceptable world.db boardId (world.db.nextTaskSeq boardId)
        entries)
      (fun _ _ => True) world := by
  induction entries generalizing world with
  | nil => exact trivial
  | cons entry rest induction =>
      have own := valid entry List.mem_cons_self
      rw [forEach, Command.ends_sequence, ends_createEntry own]
      refine ⟨fun db inserted => ?_, fun _ _ => trivial⟩
      have row := inserted_newTask inserted
      have accepted := (insertTask_ok_iff (world.db.bumpTaskSeq boardId)
        (newTask host boardId sender
          (shortIdAt (world.db.nextTaskSeq boardId)) (host.now world.tick)
          entry) board).mp ⟨db, inserted⟩
      have loop := @induction (world.tock.withDb db)
        (fun other member => row.valid
          (valid other (List.mem_cons_of_mem _ member)))
        (row.hasBoard.trans board)
      refine loop.mono ?_ fun _ _ _ => trivial
      intro _ next later
      rw [show (world.tock.withDb db).db = db from rfl, row.next,
        row.acceptable_iff rfl _ _ (Nat.lt_succ_self _)] at later
      refine ⟨fun empty => ?_, accepted.2, later⟩
      have known : world.db.isMember (assigneeOf entry) = true := accepted.1
      rw [← empty]
      exact known

/-! ## The command -/

variable {cmd : A2aCommand} {member : Member}

theorem ends_handleCreate {ok : CommandResponse → BoardWorld → Prop}
    (given : strParam cmd "board_id" = some boardId)
    (searched : world.db.findMember boardId sender = some member)
    (permitted : world.db.permits member.role "create" = true)
    (loop : (Command.run host (forEach (entriesOf cmd)
      (createEntry host boardId sender))).Ends
        (fun _ => ok (okResponse none)) failed
        (world.withDb (world.db.checked member.role))) :
    (Command.run host (handleCreate host cmd sender)).Ends ok failed world := by
  rw [handleCreate, given, required, Command.ends_sequence, Command.ends_return,
    Command.ends_sequence, ends_requireRole]
  refine ⟨fun other found => ?_, fun absent => ?_⟩
  · rw [searched, Option.some_inj] at found
    rw [← found]
    refine ⟨fun _ => ?_, fun denied => ?_⟩
    · rw [Command.ends_sequence]
      exact loop
    · rw [permitted] at denied
      cases denied
  · rw [searched] at absent
    cases absent

theorem acceptable_checked
    (permitted : BoardDb.Permitted db after) (next : Nat) (rest : List Json) :
    Acceptable after boardId next rest ↔ Acceptable db boardId next rest := by
  induction rest generalizing next with
  | nil => exact Iff.rfl
  | cons entry rest induction =>
      rw [Acceptable, Acceptable, induction, BoardDb.isMember, BoardDb.isMember,
        BoardDb.hasTask, BoardDb.hasTask, permitted.members, permitted.tasks]

theorem valid_checked
    (permitted : BoardDb.Permitted db after) (valid : Valid db boardId entry) :
    Valid after boardId entry :=
  ⟨(listed_of_members permitted.members).mpr valid.assignee,
    fun reviewer named =>
      (listed_of_members permitted.members).mpr (valid.reviewer reviewer named)⟩

theorem nextTaskSeq_checked (permitted : BoardDb.Permitted db after) :
    after.nextTaskSeq boardId = db.nextTaskSeq boardId := by
  rw [permitted.frame]
  rfl

end Entries

end Creation

open Creation in
theorem handleCreate_inserts_iff (host : Host) (world : BoardWorld)
    (boardId sender : String) (cmd : A2aCommand) (member : Member)
    (given : strParam cmd "board_id" = some boardId)
    (searched : world.db.findMember boardId sender = some member)
    (permitted : world.db.permits member.role "create" = true)
    (valid : ∀ entry ∈ entriesOf cmd, Valid world.db boardId entry) :
    (∃ response after, Command.run host (handleCreate host cmd sender) world =
        (.ok response, after) ∧ after.db.tasks.rows = world.db.tasks.rows ++
          newTasks host boardId sender (world.db.nextTaskSeq boardId) world.tick
            (entriesOf cmd)) ↔
      Acceptable world.db boardId (world.db.nextTaskSeq boardId)
        (entriesOf cmd) := by
  have seeded : Seeded world.db (world.db.checked member.role) :=
    seeded_self.checked member.role
  have kept := seeded.permitted
  have checked : ∀ entry ∈ entriesOf cmd,
      Valid (world.withDb (world.db.checked member.role)).db boardId entry :=
    fun entry listed => valid_checked kept (valid entry listed)
  have board : (world.withDb (world.db.checked member.role)).db.hasBoard boardId =
      true := by
    obtain ⟨there, fields⟩ := Table.mem_of_find? searched
    simp at fields
    have owned := (world.db.checked member.role).enrolled member
      (by rw [kept.members]; exact there)
    rw [fields.1] at owned
    exact hasBoard_iff.mpr owned
  have next : (world.withDb (world.db.checked member.role)).db.nextTaskSeq
      boardId = world.db.nextTaskSeq boardId :=
    nextTaskSeq_checked kept
  constructor
  · rintro ⟨response, after, run, -⟩
    have ends : (Command.run host (handleCreate host cmd sender)).Ends
        (fun _ _ => Acceptable (world.db.checked member.role) boardId
          ((world.db.checked member.role).nextTaskSeq boardId) (entriesOf cmd))
        (fun _ _ => True) world :=
      ends_handleCreate given searched permitted
        (loop_accepts (entriesOf cmd) checked board)
    have next : (world.db.checked member.role).nextTaskSeq boardId =
        world.db.nextTaskSeq boardId := next
    rw [Action.Ends, run, next] at ends
    exact (acceptable_checked kept _ _).mp ends
  · intro acceptable
    rw [← acceptable_checked kept, ← next] at acceptable
    have ends : (Command.run host (handleCreate host cmd sender)).Ends
        (fun _ after => after.db.tasks.rows =
          (world.db.checked member.role).tasks.rows ++
            newTasks host boardId sender
              ((world.db.checked member.role).nextTaskSeq boardId) world.tick
              (entriesOf cmd))
        (fun _ _ => False) world :=
      ends_handleCreate given searched permitted
        (loop_creates (entriesOf cmd) checked board acceptable)
    have next : (world.db.checked member.role).nextTaskSeq boardId =
        world.db.nextTaskSeq boardId := next
    rw [Action.Ends] at ends
    split at ends
    · next response after run =>
        refine ⟨response, after, run, ?_⟩
        rw [ends, next, kept.tasks]
    · exact ends.elim

open Creation in
/-- A batch that passes the checks of the handler is created exactly when the
schema accepts its rows, the short ids are free and the parents are tasks of the
board or of the batch. -/
theorem handleCreate_creates_iff (host : Host) (world : BoardWorld)
    (boardId sender : String) (cmd : A2aCommand) (member : Member)
    (given : strParam cmd "board_id" = some boardId)
    (searched : world.db.findMember boardId sender = some member)
    (permitted : world.db.permits member.role "create" = true)
    (valid : ∀ entry ∈ entriesOf cmd, Valid world.db boardId entry) :
    Creates host world boardId sender cmd ↔
      Accepted world.db boardId (entriesOf cmd) := by
  have inserts := handleCreate_inserts_iff host world boardId sender cmd member
    given searched permitted valid
  have shortIds := newTasks_shortIds host boardId sender
    (world.db.nextTaskSeq boardId) world.tick (entriesOf cmd)
  have parents := newTasks_parents host boardId sender
    (world.db.nextTaskSeq boardId) world.tick (entriesOf cmd)
  have boards (task : Task) (listed : task ∈ newTasks host boardId sender
      (world.db.nextTaskSeq boardId) world.tick (entriesOf cmd)) :=
    boardId_of_newTasks listed
  constructor
  · rintro ⟨response, after, run, tasks, rfl, rows, -, fresh, known⟩
    refine ⟨inserts.mp ⟨response, after, run, rows⟩, ?_, ?_⟩
    · intro shortId listed
      rw [nextShortIds, ← shortIds] at listed
      rcases List.mem_map.mp listed with ⟨task, new, rfl⟩
      exact fresh task new
    · intro entry listed parent among
      have mapped : parentsOf entry ∈ (entriesOf cmd).map parentsOf :=
        List.mem_map_of_mem listed
      rw [← parents] at mapped
      rcases List.mem_map.mp mapped with ⟨task, new, same⟩
      rw [← same] at among
      rw [nextShortIds, ← shortIds]
      exact (hasShort_appended rows boards).mp (known task new parent among)
  · rintro ⟨acceptable, fresh, known⟩
    rcases inserts.mpr acceptable with ⟨response, after, run, rows⟩
    refine ⟨response, after, run, _, rfl, rows, ?_, ?_, ?_⟩
    · rw [shortIds]
      exact nextShortIds_nodup world.db boardId _
    · intro task new
      apply fresh
      rw [nextShortIds, ← shortIds]
      exact List.mem_map_of_mem new
    · intro task new parent among
      rw [hasShort_appended rows boards, shortIds]
      have mapped : task.parentIds ∈ (entriesOf cmd).map parentsOf := by
        rw [← parents]
        exact List.mem_map_of_mem new
      rcases List.mem_map.mp mapped with ⟨entry, listed, same⟩
      rw [← same] at among
      exact known entry listed parent among

namespace Creation

/-! A board with an orchestrator and a worker. -/

def ledBoard : BoardRecord :=
  { TaskStorage.soleBoard with id := "a3f8c21b9d4e" }

def ledMember (email role : String) : Member :=
  { TaskStorage.soleMember with
    email
    role
    displayName := email
    boardId := ledBoard.id }

def led : BoardWorld :=
  (Command.run Trial.host (Store.createBoard ledBoard >>= fun _ =>
    Store.upsertMember (ledMember "orch@x.org" "orchestrator") >>= fun _ =>
    Store.upsertMember (ledMember "work@x.org" "worker")) ⟨BoardDb.empty, 0⟩).2

def batch (entries : List (List (String × Json))) : A2aCommand where
  verb := "create"
  taskId := none
  params := some (.object [("board_id", .string ledBoard.id),
    ("tasks", .array (entries.map .object))])

def parentTexts (parents : List String) : String × Json :=
  ("parents", .array (parents.map .string))

/-- A plan, and a task that waits for it and is reviewed. -/
def planned : A2aCommand :=
  batch [[("title", .string "Plan"), ("assignee", .string "orch@x.org")],
    [("title", .string "Build"), ("assignee", .string "work@x.org"),
      ("reviewer", .string "orch@x.org"), parentTexts ["T1"]]]

def unassigned : A2aCommand := batch [[("title", .string "Plan")]]

/-- An entry with a parent that no task is. -/
def orphaned : A2aCommand :=
  batch [[("title", .string "Build"), ("assignee", .string "work@x.org"),
    parentTexts ["T99"]]]

def namesMembers (cmd : A2aCommand) : Bool :=
  (entriesOf cmd).all fun entry =>
    (assigneeOf entry == "" ||
      (led.db.findMember ledBoard.id (assigneeOf entry)).isSome) &&
    match entry.getStr? "reviewer" with
    | some reviewer => (led.db.findMember ledBoard.id reviewer).isSome
    | none => true

theorem valid_of_namesMembers {cmd : A2aCommand}
    (names : namesMembers cmd = true) :
    ∀ entry ∈ entriesOf cmd, Valid led.db ledBoard.id entry := by
  intro entry listed
  have both := List.all_eq_true.mp names entry listed
  rw [Bool.and_eq_true, Bool.or_eq_true, beq_iff_eq] at both
  refine ⟨both.1.imp_right Option.isSome_iff_exists.mp, ?_⟩
  intro reviewer given
  have found := both.2
  rw [given] at found
  exact .inr (Option.isSome_iff_exists.mp found)

theorem handleCreate_creates_iff_planned :
    Creates Trial.host led ledBoard.id "orch@x.org" planned ↔
      Accepted led.db ledBoard.id (entriesOf planned) :=
  handleCreate_creates_iff Trial.host led ledBoard.id "orch@x.org" planned
    (ledMember "orch@x.org" "orchestrator") rfl (by decide +kernel)
    (by decide +kernel) (valid_of_namesMembers (by decide +kernel))

/-- An entry without an assignee passes the checks and is refused; one with an
unknown parent is accepted, and stored with it. -/
theorem unassigned_refused :
    (Command.run Trial.host (handleCreate Trial.host unassigned "orch@x.org")
        led).1.toOption.isNone = true ∧
      (Command.run Trial.host (handleCreate Trial.host orphaned "orch@x.org")
        led).2.db.tasks.rows.map (fun task => (task.shortId, task.parentIds)) =
          [("T1", ["T99"])] ∧
      ∀ cmd, cmd = unassigned ∨ cmd = orphaned →
        (∀ entry ∈ entriesOf cmd, Valid led.db ledBoard.id entry) ∧
          ¬ Creates Trial.host led ledBoard.id "orch@x.org" cmd := by
  have refused : (Command.run Trial.host (handleCreate Trial.host unassigned
      "orch@x.org") led).1.toOption.isNone = true := by
    decide +kernel
  have stored : (Command.run Trial.host (handleCreate Trial.host orphaned
      "orch@x.org") led).2.db.tasks.rows.map
        (fun task => (task.shortId, task.parentIds)) = [("T1", ["T99"])] := by
    decide +kernel
  refine ⟨refused, stored, ?_⟩
  rintro cmd (rfl | rfl)
  · refine ⟨valid_of_namesMembers (by decide +kernel), ?_⟩
    rintro ⟨response, after, run, -⟩
    rw [run] at refused
    cases refused
  · refine ⟨valid_of_namesMembers (by decide +kernel), ?_⟩
    rintro ⟨response, after, run, tasks, new, rows, -, -, known⟩
    rw [run] at stored
    have before : led.db.tasks.rows = [] := by decide +kernel
    rw [rows, before, List.nil_append, new] at stored
    rcases known _ (by rw [new]; exact List.mem_cons_self) "T99"
      (by exact List.mem_singleton_self _) with ⟨task, there, -, same⟩
    rw [← Table.mem_rows, rows, before, List.nil_append, new] at there
    have listed := List.mem_map_of_mem
      (f := fun task : Task => (task.shortId, task.parentIds)) there
    rw [stored, List.mem_singleton] at listed
    rw [show task.shortId = "T1" from congrArg Prod.fst listed] at same
    exact absurd same (by decide)

end Creation

end AimailGateway.Board
