import AimailGateway.Board.TaskSteps

/-! # The completion of a board

A board is completed by its owner's confirmation of an output, if confirmations
come only while the board waits for one.
-/

namespace AimailGateway.Board

open Library BoardDb

/-- The file of a board holds this board and no other. -/
def Homed (boardId : String) (db : BoardDb) : Prop :=
  ∀ board ∈ db.boards, board.id = boardId

/-- A board row in a state. -/
def InStatus (boardId : String) (status : BoardStatus) (gateway : Gateway) :
    Prop :=
  ∃ board ∈ (gateway.files boardId).boards, board.status = status

/-- A command in a mail puts out a task of the board that is done, while no
task needs work. -/
def PutsOut (settings : Settings) (boardId : String) (before : BoardDb)
    (event : Event) (board : BoardRecord) : Prop :=
  ∃ mail cmd, event = .mail mail ∧ Carries settings mail boardId cmd ∧
    cmd.verb = "output" ∧ board.status = .awaitingOwner ∧
    before.unfinished boardId = [] ∧
    ∃ row ∈ before.tasks, row.boardId = boardId ∧ row.status = .done ∧
      board.outputTaskId = some row.id

def ConfirmsOutput (settings : Settings) (boardId : String) (before : BoardDb)
    (event : Event) : Prop :=
  ∃ mail, event = .mail mail ∧ Confirms settings mail boardId .output before

/-! ## Steps of a board row -/

/-- What an event makes of the state of a board. -/
inductive StatusStep (settings : Settings) (boardId : String)
    (before : BoardDb) (event : Event) (row row' : BoardRecord) : Prop where
  | kept (same : row'.status = row.status)
  | active (status : row'.status = .active)
  | archived (status : row'.status = .archived)
  | output (putsOut : PutsOut settings boardId before event row')
  | confirmed (confirms : ConfirmsOutput settings boardId before event)
      (status : row'.status = .completed)

variable {settings : Settings} {boardId : String} {before after : BoardDb}
  {event : Event} {row' : BoardRecord}
  {past : List Event}

theorem Homed.task (homed : Homed boardId before) {row : Task}
    (there : row ∈ before.tasks) : row.boardId = boardId := by
  rcases before.owned row there with ⟨board, known, same⟩
  rw [← same]
  exact homed board known

theorem Homed.found (homed : Homed boardId before) {other : String}
    {board : BoardRecord} (found : before.findBoard other = some board) :
    other = boardId ∧ board.id = boardId := by
  have searched := Table.mem_of_find? found
  have home := homed board searched.1
  rw [beq_iff_eq] at searched
  exact ⟨searched.2.symm.trans home, home⟩

theorem Homed.member (homed : Homed boardId before) {member : Member}
    (there : member ∈ before.members) : member.boardId = boardId := by
  rcases before.enrolled member there with ⟨board, known, same⟩
  rw [← same]
  exact homed board known

theorem createBoard_boards {board : BoardRecord}
    (created : before.createBoard board = .ok after)
    (there : row' ∈ after.boards) :
    row' ∈ before.boards ∨ row' = insertedBoard board := by
  rw [createBoard] at created
  split at created
  · cases created
  · split at created
    · next boards inserted =>
        cases created
        exact (Table.mem_of_insert? inserted).mp there
    · cases created

structure BoardsStep (settings : Settings) (boardId : String)
    (before after : BoardDb) (event : Event) : Prop where
  rows : ∀ row' ∈ after.boards,
    (∃ row ∈ before.boards, row.id = row'.id ∧
      StatusStep settings boardId before event row row') ∨
      row'.id = boardId ∧ row'.status = .active

theorem BoardsStep.same (equal : after.boards = before.boards) :
    BoardsStep settings boardId before after event where
  rows := by
    intro row' there
    rw [equal] at there
    exact .inl ⟨row', there, rfl, .kept rfl⟩

theorem BoardsStep.mapped (change : BoardRecord → BoardRecord)
    (rows : after.boards.rows = before.boards.rows.map change)
    (each : ∀ row ∈ before.boards, (change row).id = row.id ∧
      StatusStep settings boardId before event row (change row)) :
    BoardsStep settings boardId before after event where
  rows := by
    intro row' there
    rw [← Table.mem_rows, rows, List.mem_map] at there
    rcases there with ⟨row, known, equal⟩
    subst equal
    exact .inl ⟨row, known, (each row known).1.symm, (each row known).2⟩

theorem Effect.boards {host : Host} {notifier : Notifier} {cmd : A2aCommand}
    {sender : String} (homed : Homed boardId before)
    (carried : cmd.verb = "output" → ∃ mail, event = .mail mail ∧
      Carries settings mail boardId cmd)
    (effect : Effect host notifier cmd sender before after) :
    BoardsStep settings boardId before after event := by
  cases effect with
  | kept seeded => exact .same seeded.permitted.boards
  | noted verb authority named seeded kind logged =>
      exact .same (logged.boards.trans seeded.permitted.boards)
  | moved authority named transition seeded mapped recorded =>
      have still := mapped.boards.trans seeded.permitted.boards
      cases recorded with
      | nothing same => exact .same (same ▸ still)
      | event kind logged => exact .same (logged.boards.trans still)
  | finished authority named finish seeded mapped about typed log promoted =>
      exact .same (promoted.boards.trans (log.boards.trans
        (mapped.boards.trans seeded.permitted.boards)))
  | @output task event board middle logged verb authority named done complete
      seeded kind log found result =>
      rcases named.row with ⟨origin, there, read⟩
      subst read
      have home := homed.task there
      have same := homed.found found
      have boards := log.boards.trans seeded.permitted.boards
      refine .mapped (boardChange
        { board with
          outputTaskId := some (taskFromRow origin).id
          status := .awaitingOwner }) ?_ ?_
      · rw [result]
        exact congrArg (fun boards : BoardTable => boards.rows.map _) boards
      · intro row known
        refine ⟨boardChange_id _ row, ?_⟩
        have hit : row.id = board.id := (homed row known).trans same.2.symm
        rw [boardChange, if_pos hit]
        rcases carried verb with ⟨mail, received, carries⟩
        refine .output ⟨mail, cmd, received, carries, verb, rfl, ?_, origin,
          there, home, status_of_read done (by simp), rfl⟩
        rw [taskFromRow_boardId, home] at complete
        exact complete
  | created verb authority seeded requested added =>
      exact .same (added.boards.trans seeded.permitted.boards)
  | @refreshed board goal members enrolled verb authority found asked written
      permissions =>
      have same := homed.found found
      refine .mapped (boardChange { board with goal, status := .active }) ?_ ?_
      · rw [permissions.permitted.boards, (upsertMembers_only written).boards]
        rfl
      · intro row known
        refine ⟨boardChange_id _ row, .active ?_⟩
        have hit : row.id = board.id := (homed row known).trans same.2.symm
        rw [boardChange, if_pos hit]
  | @reopened other board middle moved change verb authority seeded found
      awaiting mapped others own result =>
      have same := homed.found found
      have boards := mapped.boards.trans seeded.permitted.boards
      refine .mapped (boardChange
        { board with
          status := .active
          planVersion := none
          criteriaVersion := none }) ?_ ?_
      · rw [result]
        exact congrArg (fun boards : BoardTable => boards.rows.map _) boards
      · intro row known
        refine ⟨boardChange_id _ row, .active ?_⟩
        have hit : row.id = board.id := (homed row known).trans same.2.symm
        rw [boardChange, if_pos hit]

theorem Touched.boards (homed : Homed boardId before)
    (touched : Touched settings event boardId before after) :
    BoardsStep settings boardId before after event := by
  cases touched with
  | idle => exact .same rfl
  | founded founded =>
      rcases founded.stages with
        ⟨created, enrolled, members, opened, _, written, finish⟩
      have boards : after.boards = created.boards := by
        rw [← (upsertMembers_only written).boards]
        rcases finish with same | same
        · rw [same]
        · rw [same]
          exact (initialised_permitted _ enrolled).boards
      rcases opened with same | ⟨board, sameId, status, inserted⟩
      · exact .same (boards.trans (same ▸ rfl))
      · refine ⟨fun row' there => ?_⟩
        rw [boards] at there
        rcases createBoard_boards inserted there with known | equal
        · exact .inl ⟨row', known, rfl, .kept rfl⟩
        · subst equal
          exact .inr ⟨sameId, status⟩
  | commanded carried found current effect =>
      exact effect.boards homed fun _ => ⟨_, rfl, carried⟩
  | @confirmed mail _ version now _ kind confirms =>
      refine .mapped (boardSet boardId
        (Interceptor.confirmedBoard kind version mail.body now)) rfl ?_
      intro row known
      refine ⟨boardSet_id _ _ row, ?_⟩
      rw [boardSet, if_pos (homed row known)]
      cases kind with
      | plan => exact .kept rfl
      | criteria => exact .kept rfl
      | output => exact .confirmed ⟨mail, rfl, confirms⟩ rfl
  | @requested segment memberEmail token _ taskId member request _ middle seeded
      _ migrated seeds effect =>
      have still := seeds.permitted.boards.trans migrated.boards
      have home : Homed boardId _ := fun board there =>
        homed board (still ▸ there)
      have stepped : BoardsStep settings boardId seeded after
          (.request segment memberEmail token request) :=
        effect.boards home fun verb =>
          absurd verb (by simp [heartbeatCommand])
      refine ⟨fun row' there => ?_⟩
      rcases stepped.rows row' there with ⟨row, known, same, step⟩ | fresh
      · refine .inl ⟨row, still ▸ known, same, ?_⟩
        cases step with
        | kept same => exact .kept same
        | active status => exact .active status
        | archived status => exact .archived status
        | output putsOut =>
            rcases putsOut with ⟨_, _, impossible, _⟩
            cases impossible
        | confirmed confirms =>
            rcases confirms with ⟨_, impossible, _⟩
            cases impossible
      · exact .inr fresh
  | swept swept =>
      rcases swept.mapped with ⟨change, mapped, _⟩
      exact .same mapped.boards
  | archived archived =>
      rcases archived.boards with ⟨change, rows, each⟩
      refine .mapped change rows fun row _ => ?_
      rcases each row with same | ⟨sameId, status⟩
      · rw [same]
        exact ⟨rfl, .kept rfl⟩
      · exact ⟨sameId, .archived status⟩
  | @renamed old new _ before different =>
      rcases (renamedFile_relabelled settings old new before).boards with
        ⟨change, rows, same⟩
      refine .mapped change rows fun row _ => ?_
      have equal := same row
      rw [BoardRecord.SameButAddress] at equal
      have sameId := congrArg BoardRecord.id equal
      have status := congrArg BoardRecord.status equal
      exact ⟨sameId, .kept status⟩

theorem BoardsStep.homed (homed : Homed boardId before)
    (step : BoardsStep settings boardId before after event) :
    Homed boardId after := by
  intro row' there
  rcases step.rows row' there with ⟨row, known, same, _⟩ | ⟨home, _⟩
  · rw [← same]
    exact homed row known
  · exact home

theorem Step.boards {gateway next : Gateway}
    (homed : ∀ boardId, Homed boardId (gateway.files boardId))
    (step : Step settings gateway event next) (boardId : String) :
    BoardsStep settings boardId (gateway.files boardId) (next.files boardId)
      event := by
  have touched := advance_touches settings event gateway boardId
  rw [show advance settings event gateway = next from step] at touched
  exact touched.boards (homed boardId)

theorem homed_start (main : World) (boardId : String) :
    Homed boardId ((Gateway.start main).files boardId) :=
  fun _ absent => absurd absent List.not_mem_nil

/-! ## The history of a board -/

/-- The board has waited for its owner ever since a command put out a task that
was done. -/
inductive AwaitsOwner (settings : Settings) (first : Gateway)
    (boardId : String) : List Event → Gateway → Prop where
  | output {past : List Event} {before after : Gateway} {event : Event}
      {board : BoardRecord} (run : Run (Step settings) first past before)
      (step : Step settings before event after)
      (there : board ∈ (after.files boardId).boards)
      (putsOut : PutsOut settings boardId (before.files boardId) event board) :
      AwaitsOwner settings first boardId (past ++ [event]) after
  | waits {past : List Event} {before after : Gateway} {event : Event}
      (earlier : AwaitsOwner settings first boardId past before)
      (step : Step settings before event after)
      (still : InStatus boardId .awaitingOwner after) :
      AwaitsOwner settings first boardId (past ++ [event]) after

inductive CompletedByOwner (settings : Settings) (first : Gateway)
    (boardId : String) : List Event → Gateway → Prop where
  | confirmed {past : List Event} {before after : Gateway} {event : Event}
      (awaits : AwaitsOwner settings first boardId past before)
      (step : Step settings before event after)
      (confirms : ConfirmsOutput settings boardId (before.files boardId)
        event) :
      CompletedByOwner settings first boardId (past ++ [event]) after
  | remains {past : List Event} {before after : Gateway} {event : Event}
      (earlier : CompletedByOwner settings first boardId past before)
      (step : Step settings before event after)
      (still : InStatus boardId .completed after) :
      CompletedByOwner settings first boardId (past ++ [event]) after

/-- Outputs are confirmed only while the board waits for that, or is completed
already. -/
def ConfirmsInTime (settings : Settings) (gateway : Gateway) (event : Event) :
    Prop :=
  ∀ boardId, ConfirmsOutput settings boardId (gateway.files boardId) event →
    InStatus boardId .awaitingOwner gateway ∨
      InStatus boardId .completed gateway

/-- What holds of the boards after a run. -/
structure Chronicled (settings : Settings) (first : Gateway)
    (past : List Event) (gateway : Gateway) : Prop where
  run : Run (Step settings) first past gateway
  homed : ∀ boardId, Homed boardId (gateway.files boardId)
  awaits : ∀ boardId, InStatus boardId .awaitingOwner gateway →
    AwaitsOwner settings first boardId past gateway
  completed : ∀ boardId, InStatus boardId .completed gateway →
    CompletedByOwner settings first boardId past gateway

theorem Chronicled.step {first gateway next : Gateway}
    (chronicled : Chronicled settings first past gateway)
    (inTime : ConfirmsInTime settings gateway event)
    (step : Step settings gateway event next) :
    Chronicled settings first (past ++ [event]) next := by
  have boards := step.boards chronicled.homed
  have run := chronicled.run.append (.cons step (.nil next))
  refine ⟨run, fun boardId => (boards boardId).homed (chronicled.homed boardId),
    ?_, ?_⟩
  · intro boardId waiting
    have still := waiting
    rcases waiting with ⟨row', there, status⟩
    rcases (boards boardId).rows row' there with
      ⟨row, known, _, moved⟩ | ⟨_, active⟩
    · cases moved with
      | kept same =>
          have earlier := chronicled.awaits boardId
            ⟨row, known, same.symm.trans status⟩
          exact .waits earlier step still
      | active active =>
          rw [status] at active
          cases active
      | archived archived =>
          rw [status] at archived
          cases archived
      | output putsOut => exact .output chronicled.run step there putsOut
      | confirmed _ completed =>
          rw [status] at completed
          cases completed
    · rw [status] at active
      cases active
  · intro boardId complete
    have still := complete
    rcases complete with ⟨row', there, status⟩
    rcases (boards boardId).rows row' there with
      ⟨row, known, _, moved⟩ | ⟨_, active⟩
    · cases moved with
      | kept same =>
          have earlier := chronicled.completed boardId
            ⟨row, known, same.symm.trans status⟩
          exact .remains earlier step still
      | active active =>
          rw [status] at active
          cases active
      | archived archived =>
          rw [status] at archived
          cases archived
      | output putsOut =>
          rcases putsOut with ⟨_, _, _, _, _, awaiting, _⟩
          rw [status] at awaiting
          cases awaiting
      | confirmed confirms _ =>
          rcases inTime boardId confirms with awaiting | already
          · exact .confirmed (chronicled.awaits boardId awaiting) step confirms
          · exact .remains (chronicled.completed boardId already) step still
    · rw [status] at active
      cases active

/-- In every run that confirms outputs in time, a completed board waited for its
owner since the output of a task that was done, and the owner confirmed. -/
theorem completed_by_owner (settings : Settings) (main : World)
    {events : List Event} {gateway : Gateway}
    (run : Run (Guarded (ConfirmsInTime settings) (Step settings))
      (Gateway.start main) events gateway) (boardId : String)
    (completed : InStatus boardId .completed gateway) :
    CompletedByOwner settings (Gateway.start main) boardId events gateway := by
  have start : Chronicled settings (Gateway.start main) []
      (Gateway.start main) := by
    refine ⟨.nil _, homed_start main, ?_, ?_⟩
    · rintro _ ⟨_, absent, _⟩
      exact absurd absent List.not_mem_nil
    · rintro _ ⟨_, absent, _⟩
      exact absurd absent List.not_mem_nil
  have chronicled := run.accumulates
    (Chronicled settings (Gateway.start main))
    (fun past state label next earlier moved => earlier.step moved.1 moved.2)
    start
  exact chronicled.completed boardId completed

/-! ## Boards that are completed, in time and out of it -/

theorem inStatus_of_any {gateway : Gateway} {status : BoardStatus}
    (present : (gateway.files boardId).boards.rows.any
      (fun board => decide (board.status = status)) = true) :
    InStatus boardId status gateway := by
  rcases List.any_eq_true.mp present with ⟨board, there, same⟩
  exact ⟨board, there, of_decide_eq_true same⟩

theorem confirmsInTime_none {gateway : Gateway} {mail : InboundMail}
    (unread : Interceptor.confirmationOf settings mail = none) :
    ConfirmsInTime settings gateway (.mail mail) := by
  rintro boardId ⟨_, same, _, ⟨after, parsed⟩, _⟩
  cases same
  rw [unread] at parsed
  cases parsed

theorem AwaitsOwner.putOut {first gateway : Gateway}
    (awaits : AwaitsOwner settings first boardId past gateway) :
    ∃ event ∈ past, ∃ db board, PutsOut settings boardId db event board := by
  induction awaits with
  | output run step there putsOut =>
      exact ⟨_, List.mem_append_right _ (List.mem_singleton_self _), _, _,
        putsOut⟩
  | waits earlier step still induction =>
      rcases induction with ⟨event, member, putsOut⟩
      exact ⟨event, List.mem_append_left _ member, putsOut⟩

theorem CompletedByOwner.putOut {first gateway : Gateway}
    (completed : CompletedByOwner settings first boardId past gateway) :
    ∃ event ∈ past, ∃ db board, PutsOut settings boardId db event board := by
  induction completed with
  | confirmed awaits step confirms =>
      rcases awaits.putOut with ⟨event, member, putsOut⟩
      exact ⟨event, List.mem_append_left _ member, putsOut⟩
  | remains earlier step still induction =>
      rcases induction with ⟨event, member, putsOut⟩
      exact ⟨event, List.mem_append_left _ member, putsOut⟩

namespace Trial

/-- The task is done, put out and confirmed. -/
def confirmedOutput : List Event :=
  [creation teamDocument, toBoard "orch@x.org" "[A2A] create" plainTask,
    toBoard "work@x.org" "[A2A] complete T1" noDocument,
    toBoard "orch@x.org" "[A2A] output T1" noDocument,
    toBoard "own@x.org" "Confirm output proj1" noDocument]

/-- The owner confirms a board that is active. -/
def prematureConfirmation : List Event :=
  [creation teamDocument,
    toBoard "own@x.org" "Confirm output proj1" noDocument]

end Trial

open Trial in
/-- A board completed in the intended way. -/
theorem completed_by_owner_confirmed :
    InStatus demoBoard .completed
        (reached [teamDocument, plainTask] confirmedOutput) ∧
      CompletedByOwner (configured [teamDocument, plainTask])
        (Gateway.start (World.start Database.empty)) demoBoard confirmedOutput
        (reached [teamDocument, plainTask] confirmedOutput) := by
  have completed : InStatus demoBoard .completed
      (reached [teamDocument, plainTask] confirmedOutput) :=
    inStatus_of_any (by decide +kernel)
  refine ⟨completed, completed_by_owner _ _ ?_ demoBoard completed⟩
  refine .cons ⟨confirmsInTime_none (by decide +kernel), rfl⟩
    (.cons ⟨confirmsInTime_none (by decide +kernel), rfl⟩
      (.cons ⟨confirmsInTime_none (by decide +kernel), rfl⟩
        (.cons ⟨confirmsInTime_none (by decide +kernel), rfl⟩
          (.cons ⟨?_, rfl⟩ (.nil _)))))
  rintro boardId ⟨_, same, _, ⟨after, parsed⟩, _⟩
  cases same
  have about : (Interceptor.confirmationOf
      (configured [teamDocument, plainTask])
      { subject := "Confirm output proj1"
        sender := "own@x.org"
        toArr := [demoBoard]
        ccArr := []
        body := noDocument.1
        attachments := none }).map Prod.fst = some demoBoard := by
    decide +kernel
  rw [parsed] at about
  cases Option.some.inj about
  exact .inl (inStatus_of_any (by decide +kernel))

open Trial in
/-- The owner's confirmation completes a board that is active and never put out
anything. -/
theorem completed_without_output :
    ¬ ∀ (settings : Settings) (main : World) (events : List Event)
      (gateway : Gateway) (boardId : String),
      Run (Step settings) (Gateway.start main) events gateway →
        InStatus boardId .completed gateway →
          CompletedByOwner settings (Gateway.start main) boardId events
            gateway := by
  intro claimed
  have completed : InStatus demoBoard .completed
      (reached [teamDocument] prematureConfirmation) :=
    inStatus_of_any (by decide +kernel)
  have history := claimed _ _ _ _ demoBoard
    (reached_run [teamDocument] prematureConfirmation) completed
  rcases history.putOut with ⟨event, member, _, _, mail, cmd, same, carried,
    verb, _⟩
  have words := carried.words.1
  rw [verb] at words
  have unspoken : ∀ event ∈ prematureConfirmation, ∀ mail, event = .mail mail →
      (commandWords mail).head?.getD "" ≠ "output" := by
    intro event member mail same
    rw [prematureConfirmation, List.mem_cons, List.mem_singleton] at member
    rcases member with equal | equal
    · rw [equal] at same
      cases same
      decide +kernel
    · rw [equal] at same
      cases same
      decide +kernel
  exact unspoken event member mail same words.symm

end AimailGateway.Board
