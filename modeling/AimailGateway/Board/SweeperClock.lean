import Mathlib
import AimailGateway.Board.Runs

/-! # The sweeper and the clock

The sweeper compares readings of the wall clock, kept as unsigned seconds,
with intervals of the configuration, and spawns the scans that are due. A scan
reads the clock again and compares signed seconds with its threshold.
-/

namespace AimailGateway.Board

open Library

namespace SweeperClock

/-! ## Machine arithmetic -/

/-- Out of range, a debug build panics and a release build wraps. -/
inductive Build where
  | debug
  | release
  deriving DecidableEq, Repr

/-- `first - second` of `u64`. -/
def subtract (build : Build) (first second : Nat) : Option Nat :=
  if second ≤ first then some (first - second)
  else
    match build with
    | .debug => none
    | .release => some (first + 2 ^ 64 - second)

/-- `first * second` of `u64`. -/
def multiply (build : Build) (first second : Nat) : Option Nat :=
  if first * second < 2 ^ 64 then some (first * second)
  else
    match build with
    | .debug => none
    | .release => some (first * second % 2 ^ 64)

/-- `value as i64` of a `u64`. -/
def asI64 (value : Nat) : Int :=
  if value < 2 ^ 63 then value else value - 2 ^ 64

theorem subtract_of_le {build : Build} {first second : Nat}
    (order : second ≤ first) :
    subtract build first second = some (first - second) := by
  simp only [subtract, if_pos order]

theorem multiply_of_lt {build : Build} {first second : Nat}
    (fits : first * second < 2 ^ 64) :
    multiply build first second = some (first * second) := by
  simp only [multiply, if_pos fits]

theorem asI64_iff {value : Nat} : asI64 value = value ↔ value < 2 ^ 63 := by
  rw [asI64]
  split
  · next small => exact iff_of_true rfl small
  · next large =>
      constructor
      · intro same
        omega
      · intro small
        exact absurd small large

/-! ## The flow -/

/-- The settings of the sweeper; each number is a `u64`. -/
structure BoardConfig where
  sweeperIntervalSeconds : Nat
  heartbeatStaleSeconds : Nat
  taskTimeoutSeconds : Nat
  archiveRetentionDays : Option Nat
  deriving DecidableEq, Repr

structure LastRuns where
  heartbeat : Nat
  staleTask : Nat
  archive : Nat
  deriving DecidableEq, Repr

inductive Scan where
  | staleHeartbeats (threshold : Nat)
  | staleTasks (threshold : Nat)
  | completedBoards (threshold : Nat)
  deriving DecidableEq, Repr

def Scan.threshold : Scan → Nat
  | .staleHeartbeats threshold => threshold
  | .staleTasks threshold => threshold
  | .completedBoards threshold => threshold

/-- What the flow leaves: after a panic, what was done before it. -/
structure Sweep where
  lasts : LastRuns
  scans : List Scan
  panicked : Bool
  deriving DecidableEq, Repr

/-- The next scan, unless its time cannot be told. -/
def Sweep.stage (sweep : Sweep) (due : Option Bool)
    (mark : LastRuns → LastRuns) (scan : Scan) : Sweep :=
  if sweep.panicked then sweep
  else
    match due with
    | none => { sweep with panicked := true }
    | some false => sweep
    | some true =>
        { sweep with
          lasts := mark sweep.lasts
          scans := sweep.scans ++ [scan] }

/-- `now - last >= interval`. -/
def isDue (build : Build) (now last interval : Nat) : Option Bool :=
  (subtract build now last).map fun elapsed => decide (interval ≤ elapsed)

def retentionSeconds (build : Build) (config : BoardConfig) :
    Option (Option Nat) :=
  match config.archiveRetentionDays with
  | none => some none
  | some days => (multiply build (max days 1) 86400).map some

/-- `board_sweeper_flow`. -/
def boardSweeperFlow (build : Build) (config : BoardConfig) (now : Nat)
    (lasts : LastRuns) : Sweep :=
  let sweep : Sweep := ⟨lasts, [], false⟩
  let sweep := sweep.stage
    (isDue build now lasts.heartbeat config.sweeperIntervalSeconds)
    (fun lasts => { lasts with heartbeat := now })
    (.staleHeartbeats config.heartbeatStaleSeconds)
  let sweep := sweep.stage
    (isDue build now lasts.staleTask (config.taskTimeoutSeconds / 2))
    (fun lasts => { lasts with staleTask := now })
    (.staleTasks config.taskTimeoutSeconds)
  let seconds := retentionSeconds build config
  sweep.stage
    (seconds.bind fun seconds =>
      isDue build now lasts.archive (seconds.getD 86400))
    (fun lasts => { lasts with archive := now })
    (.completedBoards ((seconds.getD none).getD config.taskTimeoutSeconds))

/-- The scan is due in exact arithmetic. -/
def exactlyDue (now last interval : Nat) : Bool :=
  decide ((interval : Int) ≤ (now : Int) - (last : Int))

def exactFlow (config : BoardConfig) (now : Nat) (lasts : LastRuns) : Sweep :=
  let sweep : Sweep := ⟨lasts, [], false⟩
  let sweep := sweep.stage
    (some (exactlyDue now lasts.heartbeat config.sweeperIntervalSeconds))
    (fun lasts => { lasts with heartbeat := now })
    (.staleHeartbeats config.heartbeatStaleSeconds)
  let sweep := sweep.stage
    (some (exactlyDue now lasts.staleTask (config.taskTimeoutSeconds / 2)))
    (fun lasts => { lasts with staleTask := now })
    (.staleTasks config.taskTimeoutSeconds)
  let seconds := config.archiveRetentionDays.map fun days => max days 1 * 86400
  sweep.stage (some (exactlyDue now lasts.archive (seconds.getD 86400)))
    (fun lasts => { lasts with archive := now })
    (.completedBoards (seconds.getD config.taskTimeoutSeconds))

/-- The clock has not gone back behind a last run, and the days fit. -/
structure FlowFits (config : BoardConfig) (now : Nat) (lasts : LastRuns) :
    Prop where
  heartbeat : lasts.heartbeat ≤ now
  staleTask : lasts.staleTask ≤ now
  archive : lasts.archive ≤ now
  days : ∀ days ∈ config.archiveRetentionDays, max days 1 * 86400 < 2 ^ 64

theorem isDue_of_le {build : Build} {now last interval : Nat}
    (order : last ≤ now) :
    isDue build now last interval = some (exactlyDue now last interval) := by
  rw [isDue, subtract_of_le order, Option.map_some, exactlyDue]
  congr 1
  rw [decide_eq_decide]
  omega

theorem retentionSeconds_of_fits {build : Build} {config : BoardConfig}
    (fits : ∀ days ∈ config.archiveRetentionDays,
      max days 1 * 86400 < 2 ^ 64) :
    retentionSeconds build config = some
      (config.archiveRetentionDays.map fun days => max days 1 * 86400) := by
  rw [retentionSeconds]
  cases configured : config.archiveRetentionDays with
  | none => rfl
  | some days =>
      have small := fits days configured
      dsimp only
      rw [multiply_of_lt small]
      rfl

theorem FlowFits.exact {config : BoardConfig} {now : Nat} {lasts : LastRuns}
    (fits : FlowFits config now lasts) (build : Build) :
    boardSweeperFlow build config now lasts = exactFlow config now lasts := by
  rw [boardSweeperFlow, exactFlow, isDue_of_le fits.heartbeat,
    isDue_of_le fits.staleTask, retentionSeconds_of_fits fits.days,
    Option.bind_some, isDue_of_le fits.archive, Option.getD_some]

/-! ## Flows and scans -/

/-- A second in nanoseconds, the unit of the clock. -/
def nanoseconds : Int := 1000000000

/-- `num_seconds` of a duration. -/
def numSeconds (duration : Int) : Int :=
  duration.tdiv nanoseconds

/-- The reading of the clock that the flow compares: 0 before the epoch. -/
def readingSeconds (reading : Int) : Nat :=
  (reading / nanoseconds).toNat

/-- The statics, the scans that are spawned and not yet run, and the boards. -/
structure State where
  lasts : LastRuns
  spawned : List Scan
  gateway : Gateway

/-- Times are real times; what a flow or a scan reads is the clock then. -/
inductive Tick where
  | flow (time : Int)
  | scan (position : Nat) (boards : List String) (time : Int)
  | elsewhere (gateway : Gateway)

section System

variable (build : Build) (config : BoardConfig) (settings : Settings)
  (parseRfc3339 : String → Option Int) (clock : Int → Int)

def scanSettings (reading : Int) (threshold : Nat) : Settings :=
  { settings with
    elapsed := fun _ time =>
      (parseRfc3339 time).map fun moment => numSeconds (reading - moment)
    heartbeatStale := asI64 threshold
    archiveAfter := asI64 threshold }

/-- A spawned scan over the boards that it lists; the one for stale reviews
only warns. -/
def runScan (reading : Int) (boards : List String) (gateway : Gateway)
    (scan : Scan) : Gateway :=
  match scan with
  | .staleHeartbeats threshold =>
      ((Sweeper.scanStaleHeartbeats
        (scanSettings settings parseRfc3339 reading threshold) boards
        gateway.tick).run gateway).2
  | .staleTasks _ => gateway
  | .completedBoards threshold =>
      ((Sweeper.scanCompletedBoards
        (scanSettings settings parseRfc3339 reading threshold) boards
        gateway.tick).run gateway).2

def advanceSweeper (tick : Tick) (state : State) : State :=
  match tick with
  | .flow time =>
      let sweep := boardSweeperFlow build config
        (readingSeconds (clock time)) state.lasts
      { state with
        lasts := sweep.lasts
        spawned := state.spawned ++ sweep.scans }
  | .scan position boards time =>
      match state.spawned[position]? with
      | none => state
      | some scan =>
          { state with
            spawned := state.spawned.eraseIdx position
            gateway := runScan settings parseRfc3339 (clock time) boards
              state.gateway scan }
  | .elsewhere gateway => { state with gateway }

def SweeperStep (state : State) (tick : Tick) (next : State) : Prop :=
  advanceSweeper build config settings parseRfc3339 clock tick state = next

/-- A running task is blocked though its last heartbeat is within the
threshold. -/
def WronglyBlocked (time : Int) (threshold : Nat) (before after : BoardDb) :
    Prop :=
  ∃ row ∈ before.tasks, ∃ later ∈ after.tasks, later.id = row.id ∧
    row.status = .running ∧ later.status = .blocked ∧
    ∃ beat ≤ time, parseRfc3339 row.updatedAt = some (clock beat) ∧
      time - beat ≤ threshold * nanoseconds

/-- The flow computes what exact arithmetic does, a scan compares with its
threshold, and no scan blocks a task within it. -/
def SafeTick (state : State) (tick : Tick) (next : State) : Prop :=
  match tick with
  | .flow time =>
      boardSweeperFlow build config (readingSeconds (clock time))
          state.lasts =
        exactFlow config (readingSeconds (clock time)) state.lasts
  | .scan position _ time =>
      ∀ scan ∈ state.spawned[position]?,
        asI64 scan.threshold = scan.threshold ∧
        ∀ boardId, ¬ WronglyBlocked parseRfc3339 clock time scan.threshold
          (state.gateway.files boardId) (next.gateway.files boardId)
  | .elsewhere _ => True

/-- Of no heartbeat of a running task has the clock shown more time since than
has passed. -/
def ClockSteady (time : Int) (gateway : Gateway) : Prop :=
  ∀ boardId, ∀ row ∈ (gateway.files boardId).tasks, row.status = .running →
    ∀ beat ≤ time, parseRfc3339 row.updatedAt = some (clock beat) →
      clock time - clock beat ≤ time - beat

def MeetsClock (state : State) (tick : Tick) : Prop :=
  match tick with
  | .flow time => FlowFits config (readingSeconds (clock time)) state.lasts
  | .scan position _ time =>
      ∀ scan ∈ state.spawned[position]?,
        scan.threshold < 2 ^ 63 ∧
          ClockSteady parseRfc3339 clock time state.gateway
  | .elsewhere _ => True

end System

/-! ## What a scan blocks -/

section Scans

variable {settings : Settings} {parseRfc3339 : String → Option Int}
  {clock : Int → Int}

/-- Every row stays, or is a stale running task that is blocked. -/
def SweptBy (stale : String → Bool) (before after : BoardDb) : Prop :=
  ∃ change, BoardDb.TasksMapped change before after ∧
    ∀ row ∈ before.tasks, change row = row ∨
      (row.status = .running ∧ stale row.updatedAt = true) ∧
        change row = { row with status := .blocked }

variable {stale : String → Bool}

theorem SweptBy.refl (db : BoardDb) : SweptBy stale db db :=
  ⟨id, ⟨rfl, rfl, rfl, rfl, (List.map_id _).symm⟩, fun _ _ => .inl rfl⟩

theorem SweptBy.trans {first second third : BoardDb}
    (earlier : SweptBy stale first second)
    (later : SweptBy stale second third) : SweptBy stale first third := by
  obtain ⟨change, mapped, each⟩ := earlier
  obtain ⟨next, mappedNext, eachNext⟩ := later
  refine ⟨fun row => next (change row), mapped.trans mappedNext, ?_⟩
  intro row there
  have after := eachNext _ (mapped.mem.mpr ⟨row, there, rfl⟩)
  cases each row there with
  | inl same =>
      rw [same] at after
      simp only [same]
      exact after
  | inr blocked =>
      obtain ⟨running, blocks⟩ := blocked
      rw [blocks] at after
      simp only [blocks]
      cases after with
      | inl same => exact .inr ⟨running, same⟩
      | inr impossible => cases impossible.1.1

theorem scanStaleHeartbeats_sweeps {boards : List String} {tick : Nat}
    {before gateway : Gateway}
    (start : ∀ boardId, SweptBy
      (Sweeper.isStale settings tick settings.heartbeatStale)
      (before.files boardId) (gateway.files boardId)) :
    (Sweeper.scanStaleHeartbeats settings boards tick).Ends
      (fun _ next => ∀ boardId, SweptBy
        (Sweeper.isStale settings tick settings.heartbeatStale)
        (before.files boardId) (next.files boardId))
      (fun _ next => ∀ boardId, SweptBy
        (Sweeper.isStale settings tick settings.heartbeatStale)
        (before.files boardId) (next.files boardId)) gateway := by
  induction boards generalizing gateway with
  | nil => exact start
  | cons boardId rest induction =>
      rw [Sweeper.scanStaleHeartbeats, Action.ends_bind, ends_onBoard]
      apply blockStale_rows.mono
      · intro _ world swept
        apply induction
        intro other
        by_cases same : other = boardId
        · subst same
          rw [Gateway.withBoard_own]
          exact (start other).trans swept
        · rw [Gateway.withBoard_other gateway world same]
          exact start other
      · exact fun _ _ impossible => impossible.elim

theorem numSeconds_lt {duration : Int} {threshold : Nat}
    (late : (threshold : Int) < numSeconds duration) :
    threshold * nanoseconds < duration := by
  rw [numSeconds] at late
  by_cases forward : 0 ≤ duration
  · rw [Int.tdiv_eq_ediv_of_nonneg forward] at late
    simp only [nanoseconds] at late ⊢
    omega
  · have back : 0 ≤ (-duration).tdiv nanoseconds :=
      Int.tdiv_nonneg (by omega) (by decide)
    rw [Int.neg_tdiv] at back
    omega

theorem sweep_not_wrong {before after : BoardDb} {time : Int}
    {threshold tick : Nat} (small : threshold < 2 ^ 63)
    (steady : ∀ row ∈ before.tasks, row.status = .running →
      ∀ beat ≤ time, parseRfc3339 row.updatedAt = some (clock beat) →
        clock time - clock beat ≤ time - beat)
    (swept : SweptBy
      (Sweeper.isStale (scanSettings settings parseRfc3339 (clock time)
        threshold) tick (asI64 threshold)) before after) :
    ¬ WronglyBlocked parseRfc3339 clock time threshold before after := by
  rintro ⟨row, there, later, listed, sameId, running, blocked, beat, past,
    reads, within⟩
  obtain ⟨change, mapped, each⟩ := swept
  obtain ⟨origin, known, changed⟩ := mapped.mem.mp listed
  have kept : later.id = origin.id := by
    cases each origin known with
    | inl same => rw [← changed, same]
    | inr blocks => rw [← changed, blocks.2]
  have same : origin = row := Tasks.eq_of_id known there (kept.symm.trans sameId)
  subst same
  cases each origin there with
  | inl same =>
      rw [← changed, same, running] at blocked
      cases blocked
  | inr blocks =>
      have stale := blocks.1.2
      simp only [Sweeper.isStale, scanSettings, reads, Option.map_some,
        Option.any_some, asI64_iff.mpr small, Bool.and_eq_true,
        decide_eq_true_eq] at stale
      have late := numSeconds_lt stale.1
      have gained := steady origin there running beat past reads
      omega

end Scans

/-! ## Runs -/

section Runs

variable {build : Build} {config : BoardConfig} {settings : Settings}
  {parseRfc3339 : String → Option Int} {clock : Int → Int}

theorem not_wrong_of_tasks {before after : BoardDb} {time : Int}
    {threshold : Nat} (same : after.tasks = before.tasks) :
    ¬ WronglyBlocked parseRfc3339 clock time threshold before after := by
  rintro ⟨row, there, later, listed, sameId, running, blocked, -⟩
  rw [same] at listed
  have alike : later = row := Tasks.eq_of_id listed there sameId
  rw [alike, running] at blocked
  cases blocked

theorem scan_not_wrong {state : State} {boards : List String} {time : Int}
    {scan : Scan} (small : scan.threshold < 2 ^ 63)
    (steady : ClockSteady parseRfc3339 clock time state.gateway)
    (boardId : String) :
    ¬ WronglyBlocked parseRfc3339 clock time scan.threshold
      (state.gateway.files boardId)
      ((runScan settings parseRfc3339 (clock time) boards state.gateway
        scan).files boardId) := by
  cases scan with
  | staleHeartbeats threshold =>
      apply sweep_not_wrong small (steady boardId)
      exact Action.Ends.after (scanStaleHeartbeats_sweeps
        fun other => SweptBy.refl _) boardId
  | staleTasks threshold => exact not_wrong_of_tasks rfl
  | completedBoards threshold =>
      apply not_wrong_of_tasks
      have touches : Touches
          (scanSettings settings parseRfc3339 (clock time) threshold)
          (.scanCompleted boards) state.gateway
          (Sweeper.scanCompletedBoards
            (scanSettings settings parseRfc3339 (clock time) threshold)
            boards state.gateway.tick) state.gateway :=
        scanCompletedBoards_touches fun other => Archived.refl _
      have touched := touches.after boardId
      rw [runScan]
      generalize (state.gateway.files boardId) = before at touched ⊢
      cases touched with
      | idle => rfl
      | archived archived => exact archived.tasks

theorem MeetsClock.safe {state next : State} {tick : Tick}
    (meets : MeetsClock config parseRfc3339 clock state tick)
    (step : SweeperStep build config settings parseRfc3339 clock state tick
      next) :
    SafeTick build config parseRfc3339 clock state tick next := by
  cases tick with
  | flow time => exact FlowFits.exact meets build
  | elsewhere gateway => trivial
  | scan position boards time =>
      intro scan found
      obtain ⟨small, steady⟩ := meets scan found
      refine ⟨asI64_iff.mpr small, ?_⟩
      rw [SweeperStep, advanceSweeper, Option.mem_def.mp found] at step
      rw [← step]
      exact scan_not_wrong small steady

/-- In a run whose steps meet the condition every step is safe. -/
theorem sweeper_run_safe {first last : State} {ticks : List Tick}
    (run : Run (Guarded (MeetsClock config parseRfc3339 clock)
      (SweeperStep build config settings parseRfc3339 clock)) first ticks
      last) :
    Run (fun state tick next =>
      SweeperStep build config settings parseRfc3339 clock state tick next ∧
        SafeTick build config parseRfc3339 clock state tick next) first ticks
      last :=
  run.mono fun _ _ _ step => ⟨step.2, step.1.safe step.2⟩

end Runs

/-! ## Two flows -/

/-- Scans each minute, and no retention. -/
def minutely : BoardConfig where
  sweeperIntervalSeconds := 60
  heartbeatStaleSeconds := 900
  taskTimeoutSeconds := 259200
  archiveRetentionDays := none

/-- Before the first flow. -/
def started : State where
  lasts := ⟨0, 0, 0⟩
  spawned := []
  gateway := Gateway.start (World.start Database.empty)

/-- Every heartbeat was at 199990 seconds. -/
def lastBeat : String → Option Int := fun _ => some 199990000000000

def afterTicks (build : Build) (ticks : List Tick) : State :=
  ticks.foldl (fun state tick => advanceSweeper build minutely
    (Trial.configured []) lastBeat id tick state) started

open Trial in
/-- A board whose one task runs. -/
def busyBoards : Gateway :=
  let members := listed "members" team
  let tasks := listed "tasks" [[("title", "t"), ("assignee", "work@x.org")]]
  reached [members, tasks]
    [creation members, toBoard "orch@x.org" "[A2A] create" tasks,
      toBoard "work@x.org" "[A2A] heartbeat T1" noDocument]

/-- The scan that the first flow spawns runs before the second. -/
def forward : List Tick :=
  [.elsewhere busyBoards, .flow 200000000000000,
    .scan 0 [Trial.demoBoard] 200050000000000, .flow 200100000000000]

/-- No flow and no scan goes wrong, and the task, whose heartbeat was a minute
before the scan, still runs. -/
theorem sweeper_run_safe_forward :
    Run (fun state tick next =>
      SweeperStep .debug minutely (Trial.configured []) lastBeat id state tick
          next ∧
        SafeTick .debug minutely lastBeat id state tick next)
      started forward (afterTicks .debug forward) ∧
    ((afterTicks .debug forward).gateway.files Trial.demoBoard).tasks.rows.map
        (·.status) = [.running] := by
  have spawned : (afterTicks .debug (forward.take 2)).spawned[0]? =
      some (.staleHeartbeats 900) := by
    decide
  refine ⟨sweeper_run_safe (.cons ⟨trivial, rfl⟩
    (.cons ⟨⟨by decide, by decide, by decide, by decide⟩, rfl⟩
      (.cons ⟨?_, rfl⟩
        (.cons ⟨⟨by decide, by decide, by decide, by decide⟩, rfl⟩ (.nil _))))),
    by decide +kernel⟩
  intro scan found
  cases Option.some.inj (spawned.symm.trans found)
  exact ⟨by decide, fun _ _ _ _ _ _ _ => le_refl _⟩

/-- A clock that is set back by one second makes a debug build panic. -/
theorem sweeper_underflows :
    ¬ ∀ (build : Build) (config : BoardConfig) (settings : Settings)
        (parseRfc3339 : String → Option Int) (clock : Int → Int)
        (first last : State) (ticks : List Tick),
        Run (SweeperStep build config settings parseRfc3339 clock) first ticks
          last →
        Run (fun state tick next =>
          SweeperStep build config settings parseRfc3339 clock state tick
              next ∧
            SafeTick build config parseRfc3339 clock state tick next) first
          ticks last := by
  intro safe
  have run : Run (SweeperStep .debug minutely (Trial.configured [])
      lastBeat id) started
      [.flow 200000000000000, .flow 199999000000000]
      (afterTicks .debug [.flow 200000000000000, .flow 199999000000000]) :=
    .cons rfl (.cons rfl (.nil _))
  cases safe _ _ _ _ _ _ _ _ run with
  | cons one rest =>
      cases rest with
      | cons two rest =>
          have exact := two.2
          rw [SafeTick, ← one.1] at exact
          revert exact
          decide

end SweeperClock

end AimailGateway.Board
