import AimailGateway.Library.Execution
import AimailGateway.Notifier.Registry
import AimailGateway.Storage.Records
import Mathlib.Data.List.Nodup
import Mathlib.Data.List.Sort

/-! # The event stream of pending deliveries

One stream beside the table of pending deliveries. The connect query, the first
frame, each wait, each snapshot and each query with the frame it sends are
steps of their own; rows are inserted, acknowledged or cleaned up between any
two of them.
-/

namespace AimailGateway.Stream

open Library Notifier

structure PendingDeliveryRecord where
  id : Nat
  systemId : String
  domainAddr : String
  email : String
  headers : String
  payload : String
  status : String
  createdAt : Timestamp
  deriving DecidableEq, Repr

/-! ## The table -/

/-- The columns an insert gives; the others have defaults. -/
structure Delivery where
  systemId : String
  domainAddr : String
  email : String
  headers : String
  payload : String
  deriving DecidableEq, Repr

/-- The rows, and the last id that `AUTOINCREMENT` gave. -/
structure Pending where
  rows : List PendingDeliveryRecord
  lastId : Nat
  deriving DecidableEq, Repr

def Pending.insert (pending : Pending) (delivery : Delivery)
    (time : Timestamp) : Pending where
  rows := pending.rows ++ [{
    id := pending.lastId + 1
    systemId := delivery.systemId
    domainAddr := delivery.domainAddr
    email := delivery.email
    headers := delivery.headers
    payload := delivery.payload
    status := "pending"
    createdAt := time }]
  lastId := pending.lastId + 1

/-- Acknowledged or cleaned up. -/
def Pending.delete (pending : Pending) (ids : List Nat) : Pending :=
  { pending with rows := pending.rows.filter fun row => !ids.contains row.id }

/-- The order of `idx_pending_system`; rows of one time follow by id. -/
def byCreation (first second : PendingDeliveryRecord) : Bool :=
  decide (first.createdAt < second.createdAt) ||
    (first.createdAt == second.createdAt && decide (first.id ≤ second.id))

def byId (first second : PendingDeliveryRecord) : Bool :=
  decide (first.id ≤ second.id)

/-- `ORDER BY`. -/
def orderBy (order : α → α → Bool) (rows : List α) : List α :=
  rows.insertionSort fun first second => order first second = true

def inScope (key : NotifyKey) (row : PendingDeliveryRecord) : Bool :=
  match key with
  | .system systemId => row.systemId == systemId
  | .email systemId email =>
      row.systemId == systemId && row.email == email && row.status == "pending"

def listPendingDeliveries (pending : Pending) (systemId : String)
    (limit : Nat) : List PendingDeliveryRecord :=
  (orderBy byCreation (pending.rows.filter (inScope (.system systemId)))).take
    limit

def listPendingByEmail (pending : Pending) (systemId email : String)
    (limit : Nat) : List PendingDeliveryRecord :=
  (orderBy byId (pending.rows.filter (inScope (.email systemId email)))).take
    (min (max limit 1) 200)

def defaultLimit : Nat := 20

/-- The stream sets no filter of its own. -/
def pendingRecordsFor (pending : Pending) (key : NotifyKey) :
    List PendingDeliveryRecord :=
  match key with
  | .system systemId => listPendingDeliveries pending systemId defaultLimit
  | .email systemId email =>
      listPendingByEmail pending systemId email defaultLimit

/-! ## The stream -/

inductive Stage where
  | connecting
  /-- Connected, with the records of the connect query still to be sent. -/
  | pendingFirst (records : List PendingDeliveryRecord)
  | waiting
  | woken (outcome : WaitOutcome)
  | querying (outcome : WaitOutcome)
  | closed
  deriving DecidableEq, Repr

/-- A stream with the table; `emitted` is what its frames have carried, the
generation is the one of its key. -/
structure State where
  key : NotifyKey
  pending : Pending
  generation : Nat
  since : Nat
  watermark : Nat
  stage : Stage
  emitted : List PendingDeliveryRecord
  deriving DecidableEq, Repr

def State.start (key : NotifyKey) : State where
  key := key
  pending := ⟨[], 0⟩
  generation := 0
  since := 0
  watermark := 0
  stage := .connecting
  emitted := []

def maxId (records : List PendingDeliveryRecord) : Nat :=
  records.foldr (fun record most => max record.id most) 0

/-- A `mail` frame. -/
def State.send (state : State) (records : List PendingDeliveryRecord) : State :=
  { state with
    watermark := maxId records
    emitted := state.emitted ++ records }

def State.fresh (state : State) (records : List PendingDeliveryRecord) :
    List PendingDeliveryRecord :=
  records.filter fun record => decide (record.id > state.watermark)

/-- The loop body after a query: a frame with what is new, or none (a `ping`
after a timeout). -/
def State.sendFresh (state : State) (records : List PendingDeliveryRecord) :
    State :=
  match state.fresh records with
  | [] => state
  | record :: rest => state.send (record :: rest)

inductive Event where
  | inserted (delivery : Delivery) (time : Timestamp)
  | deleted (ids : List Nat)
  | notified
  | connected (failed : Bool)
  | firstSent
  | waited (outcome : WaitOutcome)
  | snapshotted
  | queried (failed : Bool)
  /-- The maximal life is over, or the client went away. -/
  | rotated
  deriving DecidableEq, Repr

def step (state : State) : Event → Option State
  | .inserted delivery time =>
      some { state with pending := state.pending.insert delivery time }
  | .deleted ids => some { state with pending := state.pending.delete ids }
  | .notified => some { state with generation := state.generation + 1 }
  | .connected failed =>
      if state.stage = .connecting then
        if failed then some { state with stage := .closed }
        else some { state with
          stage := .pendingFirst (pendingRecordsFor state.pending state.key)
          since := state.generation }
      else none
  | .firstSent =>
      match state.stage with
      | .pendingFirst [] => some { state with stage := .waiting }
      | .pendingFirst (record :: rest) =>
          some { state.send (record :: rest) with stage := .waiting }
      | _ => none
  | .waited outcome =>
      if state.stage = .waiting ∧
          (outcome = .woke → state.generation > state.since) then
        some { state with stage := .woken outcome }
      else none
  | .snapshotted =>
      match state.stage with
      | .woken outcome =>
          some { state with since := state.generation, stage := .querying outcome }
      | _ => none
  | .queried failed =>
      match state.stage with
      | .querying _ =>
          if failed then some { state with stage := .waiting }
          else some { state.sendFresh (pendingRecordsFor state.pending state.key)
            with stage := .waiting }
      | _ => none
  | .rotated => some { state with stage := .closed }

def Step (state : State) (event : Event) (next : State) : Prop :=
  step state event = some next

/-! ## What the stream must not do -/

/-- No row is sent twice, none in scope is passed over, and the next query
sends every row it returns that was not sent before. -/
structure SkipsNothing (state : State) : Prop where
  once : (state.emitted.map (·.id)).Nodup
  covered : ∀ row ∈ state.pending.rows, inScope state.key row = true →
    row.id ≤ state.watermark → row ∈ state.emitted
  shown : ∀ row ∈ pendingRecordsFor state.pending state.key,
    row ∉ state.emitted → row ∈
      (state.sendFresh (pendingRecordsFor state.pending state.key)).emitted

/-- The condition on the queries: with a system key the rows fit into one
query, or were created in the order of their ids. -/
def CreatedInOrder (state : State) : Event → Prop
  | .connected _ | .queried _ => ∀ systemId, state.key = .system systemId →
      (state.pending.rows.countP (inScope state.key) ≤ defaultLimit ∨
        ∀ first ∈ state.pending.rows, ∀ second ∈ state.pending.rows,
          inScope state.key first = true → inScope state.key second = true →
            first.id < second.id → first.createdAt ≤ second.createdAt)
  | _ => True

/-! ## Ordered queries -/

theorem orderBy_pairwise {order : α → α → Bool}
    (transitive : ∀ a b c, order a b = true → order b c = true →
      order a c = true)
    (total : ∀ a b, (order a b || order b a) = true) (rows : List α) :
    (orderBy order rows).Pairwise fun a b => order a b = true := by
  have orders : Std.Total fun a b => order a b = true :=
    ⟨fun a b => Bool.or_eq_true_iff.mp (total a b)⟩
  have follows : IsTrans α fun a b => order a b = true := ⟨transitive⟩
  exact List.pairwise_insertionSort _ rows

@[simp] theorem mem_orderBy {order : α → α → Bool} {rows : List α} {row : α} :
    row ∈ orderBy order rows ↔ row ∈ rows :=
  List.mem_insertionSort _

theorem orderBy_perm (order : α → α → Bool) (rows : List α) :
    (orderBy order rows).Perm rows :=
  List.perm_insertionSort _ rows

theorem mem_take_of_before {order : α → α → Bool} {rows : List α} {limit : Nat}
    {first second : α}
    (transitive : ∀ a b c, order a b = true → order b c = true →
      order a c = true)
    (total : ∀ a b, (order a b || order b a) = true)
    (returned : second ∈ (orderBy order rows).take limit)
    (member : first ∈ rows) (before : order second first = false) :
    first ∈ (orderBy order rows).take limit := by
  have sorted := orderBy_pairwise transitive total rows
  rw [← List.take_append_drop limit (orderBy order rows),
    List.pairwise_append] at sorted
  have there : first ∈ orderBy order rows := mem_orderBy.mpr member
  rw [← List.take_append_drop limit (orderBy order rows),
    List.mem_append] at there
  rcases there with taken | dropped
  · exact taken
  · have after := sorted.2.2 second returned first dropped
    rw [before] at after
    cases after

theorem byId_trans (a b c : PendingDeliveryRecord) (left : byId a b = true)
    (right : byId b c = true) : byId a c = true := by
  simp only [byId, decide_eq_true_eq] at *
  exact Nat.le_trans left right

theorem byId_total (a b : PendingDeliveryRecord) :
    (byId a b || byId b a) = true := by
  simp only [byId, Bool.or_eq_true, decide_eq_true_eq]
  exact Nat.le_total a.id b.id

theorem byCreation_iff {a b : PendingDeliveryRecord} :
    byCreation a b = true ↔ a.createdAt < b.createdAt ∨
      (a.createdAt = b.createdAt ∧ a.id ≤ b.id) := by
  simp [byCreation]

theorem byCreation_trans (a b c : PendingDeliveryRecord)
    (left : byCreation a b = true) (right : byCreation b c = true) :
    byCreation a c = true := by
  rw [byCreation_iff] at *
  rcases left with before | ⟨same, less⟩
  · rcases right with later | ⟨equal, _⟩
    · exact .inl (Nat.lt_trans before later)
    · exact .inl (equal ▸ before)
  · rcases right with later | ⟨equal, more⟩
    · exact .inl (same ▸ later)
    · exact .inr ⟨same.trans equal, Nat.le_trans less more⟩

theorem byCreation_total (a b : PendingDeliveryRecord) :
    (byCreation a b || byCreation b a) = true := by
  rw [Bool.or_eq_true, byCreation_iff, byCreation_iff]
  rcases Nat.lt_trichotomy a.createdAt b.createdAt with less | same | more
  · exact .inl (.inl less)
  · exact (Nat.le_total a.id b.id).imp (fun below => .inr ⟨same, below⟩)
      fun below => .inr ⟨same.symm, below⟩
  · exact .inr (.inl more)

theorem le_maxId {records : List PendingDeliveryRecord}
    {record : PendingDeliveryRecord} (member : record ∈ records) :
    record.id ≤ maxId records := by
  induction records with
  | nil => cases member
  | cons head tail induction =>
      rw [maxId, List.foldr_cons, ← maxId]
      rcases List.mem_cons.mp member with rfl | later
      · exact Nat.le_max_left _ _
      · exact Nat.le_trans (induction later) (Nat.le_max_right _ _)

theorem exists_of_le_maxId {records : List PendingDeliveryRecord} {id : Nat}
    (positive : 0 < id) (below : id ≤ maxId records) :
    ∃ record ∈ records, id ≤ record.id := by
  induction records with
  | nil =>
      have none : id ≤ 0 := below
      omega
  | cons head tail induction =>
      rw [maxId, List.foldr_cons, ← maxId] at below
      by_cases here : id ≤ head.id
      · exact ⟨head, List.mem_cons_self, here⟩
      · have later : id ≤ maxId tail := by omega
        rcases induction later with ⟨record, member, reaches⟩
        exact ⟨record, List.mem_cons_of_mem _ member, reaches⟩

theorem maxId_le {records : List PendingDeliveryRecord} {bound : Nat}
    (bounded : ∀ record ∈ records, record.id ≤ bound) :
    maxId records ≤ bound := by
  by_contra beyond
  rcases exists_of_le_maxId (by omega) (Nat.le_refl (maxId records)) with
    ⟨record, member, reaches⟩
  have := bounded record member
  omega

/-! ## The invariant -/

/-- Ids are distinct, positive and given before. -/
structure Numbered (pending : Pending) : Prop where
  given : ∀ row ∈ pending.rows, 0 < row.id ∧ row.id ≤ pending.lastId
  distinct : (pending.rows.map (·.id)).Nodup

/-- The answer of a query has every row in scope up to its last id. -/
structure Complete (key : NotifyKey) (pending : Pending)
    (records : List PendingDeliveryRecord) : Prop where
  distinct : (records.map (·.id)).Nodup
  given : ∀ record ∈ records, 0 < record.id ∧ record.id ≤ pending.lastId
  complete : ∀ row ∈ pending.rows, inScope key row = true →
    row.id ≤ maxId records → row ∈ records

/-- What every reachable state keeps. -/
structure StreamInvariant (state : State) : Prop where
  numbered : Numbered state.pending
  once : (state.emitted.map (·.id)).Nodup
  sent : ∀ row ∈ state.emitted, row.id ≤ state.watermark
  bounded : state.watermark ≤ state.pending.lastId
  covered : ∀ row ∈ state.pending.rows, inScope state.key row = true →
    row.id ≤ state.watermark → row ∈ state.emitted
  unsent : state.stage = .connecting ∨
    (∃ records, state.stage = .pendingFirst records) →
      state.emitted = [] ∧ state.watermark = 0
  first : ∀ records, state.stage = .pendingFirst records →
    Complete state.key state.pending records

section Invariant

variable {pending : Pending} {state : State} {key : NotifyKey}
  {records : List PendingDeliveryRecord}

theorem Numbered.eq_of_id (numbered : Numbered pending)
    {first second : PendingDeliveryRecord} (one : first ∈ pending.rows)
    (two : second ∈ pending.rows) (same : first.id = second.id) :
    first = second :=
  List.inj_on_of_nodup_map numbered.distinct one two same

theorem Numbered.insert (numbered : Numbered pending) (delivery : Delivery)
    (time : Timestamp) : Numbered (pending.insert delivery time) where
  given := by
    intro row member
    rcases List.mem_append.mp member with old | new
    · have bounds := numbered.given row old
      exact ⟨bounds.1, Nat.le_succ_of_le bounds.2⟩
    · rw [List.mem_singleton.mp new]
      exact ⟨Nat.succ_pos _, Nat.le_refl _⟩
  distinct := by
    rw [Pending.insert, List.map_append, List.nodup_append]
    refine ⟨numbered.distinct, List.nodup_singleton _, ?_⟩
    intro id member other new
    rcases List.mem_map.mp member with ⟨row, there, rfl⟩
    rw [List.map_singleton, List.mem_singleton] at new
    have bounds := (numbered.given row there).2
    rw [new]
    show row.id ≠ pending.lastId + 1
    omega

theorem Numbered.delete (numbered : Numbered pending) (ids : List Nat) :
    Numbered (pending.delete ids) where
  given := fun row member => numbered.given row (List.mem_filter.mp member).1
  distinct := numbered.distinct.sublist (List.filter_sublist.map _)

theorem Complete.of_sublist (numbered : Numbered pending)
    (perm : ∃ rows, rows.Perm (pending.rows.filter (inScope key)) ∧
      records.Sublist rows)
    (closed : ∀ first ∈ pending.rows, inScope key first = true →
      ∀ second ∈ records, first.id < second.id → first ∈ records) :
    Complete key pending records := by
  rcases perm with ⟨rows, perm, sublist⟩
  have member : ∀ record ∈ records, record ∈ pending.rows := by
    intro record there
    exact (List.mem_filter.mp (perm.subset (sublist.subset there))).1
  refine ⟨?_, fun record there => numbered.given record (member record there), ?_⟩
  · refine List.Nodup.sublist (sublist.map _) ?_
    rw [(perm.map _).nodup_iff]
    exact numbered.distinct.sublist (List.filter_sublist.map _)
  · intro row there scope below
    rcases exists_of_le_maxId (numbered.given row there).1 below with
      ⟨record, returned, reaches⟩
    rcases Nat.lt_or_eq_of_le reaches with less | same
    · exact closed row there scope record returned less
    · rwa [numbered.eq_of_id there (member record returned) same]

theorem pendingRecordsFor_complete (numbered : Numbered state.pending)
    (inOrder : CreatedInOrder state (.queried false)) :
    Complete state.key state.pending
      (pendingRecordsFor state.pending state.key) := by
  unfold pendingRecordsFor
  cases named : state.key with
  | email systemId email =>
      refine .of_sublist numbered
        ⟨_, orderBy_perm byId _, List.take_sublist _ _⟩ ?_
      intro first there scope second returned less
      refine mem_take_of_before byId_trans byId_total returned
        (List.mem_filter.mpr ⟨there, scope⟩) ?_
      simpa [byId] using less
  | system systemId =>
      refine .of_sublist numbered
        ⟨_, orderBy_perm byCreation _, List.take_sublist _ _⟩ ?_
      intro first there scope second returned less
      have chosen := List.mem_filter.mpr ⟨there, scope⟩
      rcases inOrder systemId named with fits | ordered
      · have whole : (orderBy byCreation (state.pending.rows.filter
            (inScope (.system systemId)))).length ≤ defaultLimit := by
          rwa [(orderBy_perm byCreation _).length_eq,
            ← List.countP_eq_length_filter, ← named]
        show first ∈ (orderBy byCreation (state.pending.rows.filter
          (inScope (.system systemId)))).take defaultLimit
        rw [List.take_of_length_le whole]
        exact mem_orderBy.mpr chosen
      · have other := List.mem_filter.mp
          (mem_orderBy.mp (List.mem_of_mem_take returned))
        rw [named] at ordered
        have earlier := ordered first there second other.1 scope other.2 less
        refine mem_take_of_before byCreation_trans byCreation_total returned
          chosen ?_
        rw [Bool.eq_false_iff, Ne, byCreation_iff]
        rintro (later | ⟨_, below⟩)
        · exact absurd earlier (Nat.not_le.mpr later)
        · exact absurd less (Nat.not_lt.mpr below)

/-! ### Steps -/

theorem StreamInvariant.inserted (invariant : StreamInvariant state)
    (delivery : Delivery) (time : Timestamp) :
    StreamInvariant
      { state with pending := state.pending.insert delivery time } where
  numbered := invariant.numbered.insert delivery time
  once := invariant.once
  sent := invariant.sent
  bounded := Nat.le_succ_of_le invariant.bounded
  covered := by
    intro row member scope below
    rcases List.mem_append.mp member with old | new
    · exact invariant.covered row old scope below
    · rw [List.mem_singleton.mp new] at below
      have bounded := invariant.bounded
      have beyond : state.pending.lastId + 1 ≤ state.watermark := below
      omega
  unsent := invariant.unsent
  first := by
    intro records stage
    have complete := invariant.first records stage
    refine ⟨complete.distinct, ?_, ?_⟩
    · intro record member
      have bounds := complete.given record member
      exact ⟨bounds.1, Nat.le_succ_of_le bounds.2⟩
    · intro row member scope below
      rcases List.mem_append.mp member with old | new
      · exact complete.complete row old scope below
      · rw [List.mem_singleton.mp new] at below
        have bounded := maxId_le fun record there =>
          (complete.given record there).2
        have beyond : state.pending.lastId + 1 ≤ maxId records := below
        omega

theorem StreamInvariant.deleted (invariant : StreamInvariant state)
    (ids : List Nat) :
    StreamInvariant { state with pending := state.pending.delete ids } where
  numbered := invariant.numbered.delete ids
  once := invariant.once
  sent := invariant.sent
  bounded := invariant.bounded
  covered := fun row member => invariant.covered row (List.mem_filter.mp member).1
  unsent := invariant.unsent
  first := by
    intro records stage
    have complete := invariant.first records stage
    exact ⟨complete.distinct, complete.given, fun row member =>
      complete.complete row (List.mem_filter.mp member).1⟩

theorem StreamInvariant.send (invariant : StreamInvariant state)
    (distinct : (records.map (·.id)).Nodup)
    (beyond : ∀ record ∈ records, state.watermark < record.id ∧
      record.id ≤ state.pending.lastId)
    (filled : ∀ row ∈ state.pending.rows, inScope state.key row = true →
      row.id ≤ maxId records → row.id ≤ state.watermark ∨ row ∈ records)
    (some : records ≠ []) :
    StreamInvariant { state.send records with stage := .waiting } where
  numbered := invariant.numbered
  once := by
    rw [State.send, List.map_append, List.nodup_append]
    refine ⟨invariant.once, distinct, ?_⟩
    intro id member other new
    rcases List.mem_map.mp member with ⟨row, there, rfl⟩
    rcases List.mem_map.mp new with ⟨record, fresh, rfl⟩
    have old := invariant.sent row there
    have later := (beyond record fresh).1
    omega
  sent := by
    intro row member
    rcases List.mem_append.mp member with old | new
    · rcases List.exists_mem_of_ne_nil records some with ⟨record, fresh⟩
      have raised : state.watermark ≤ maxId records :=
        Nat.le_trans (Nat.le_of_lt (beyond record fresh).1) (le_maxId fresh)
      exact Nat.le_trans (invariant.sent row old) raised
    · exact le_maxId new
  bounded := maxId_le fun record member => (beyond record member).2
  covered := by
    intro row member scope below
    rcases filled row member scope below with old | new
    · exact List.mem_append_left _ (invariant.covered row member scope old)
    · exact List.mem_append_right _ new
  unsent := by
    rintro (stage | ⟨records, stage⟩)
    · cases stage
    · cases stage
  first := by
    intro records stage
    cases stage

theorem StreamInvariant.moveStage {stage : Stage} {since : Nat}
    (invariant : StreamInvariant state)
    (unsent : stage = .connecting ∨ (∃ records, stage = .pendingFirst records) →
      state.emitted = [] ∧ state.watermark = 0)
    (first : ∀ records, stage = .pendingFirst records →
      Complete state.key state.pending records) :
    StreamInvariant { state with since := since, stage := stage } :=
  ⟨invariant.numbered, invariant.once, invariant.sent, invariant.bounded,
    invariant.covered, unsent, first⟩

theorem StreamInvariant.sendFresh (invariant : StreamInvariant state)
    (complete : Complete state.key state.pending records) :
    StreamInvariant { state.sendFresh records with stage := .waiting } := by
  unfold State.sendFresh
  split
  · refine invariant.moveStage ?_ nofun
    rintro (stage | ⟨records, stage⟩)
    · cases stage
    · cases stage
  · next record rest fresh =>
      have chosen : ∀ row, row ∈ record :: rest ↔
          row ∈ records ∧ row.id > state.watermark := by
        intro row
        rw [← fresh, State.fresh, List.mem_filter, decide_eq_true_eq]
      have fewer : (record :: rest).Sublist records := by
        rw [← fresh]
        exact List.filter_sublist
      refine invariant.send (complete.distinct.sublist (fewer.map _)) ?_ ?_
        (List.cons_ne_nil _ _)
      · intro row member
        have both := (chosen row).mp member
        exact ⟨both.2, (complete.given row both.1).2⟩
      · intro row member scope below
        by_cases old : row.id ≤ state.watermark
        · exact .inl old
        · have raised : maxId (record :: rest) ≤ maxId records :=
            maxId_le fun other there => le_maxId (fewer.subset there)
          have returned := complete.complete row member scope
            (Nat.le_trans below raised)
          exact .inr ((chosen row).mpr ⟨returned, by omega⟩)

theorem StreamInvariant.step {next : State} {event : Event}
    (invariant : StreamInvariant state) (inOrder : CreatedInOrder state event)
    (moved : Step state event next) : StreamInvariant next := by
  have waiting : ∀ stage, stage ≠ .connecting →
      (∀ records, stage ≠ .pendingFirst records) → ∀ since,
        StreamInvariant { state with since := since, stage := stage } := by
    intro stage unconnected sent since
    refine invariant.moveStage ?_ fun records equal => absurd equal (sent records)
    rintro (equal | ⟨records, equal⟩)
    · exact absurd equal unconnected
    · exact absurd equal (sent records)
  cases event with
  | inserted delivery time =>
      cases moved
      exact invariant.inserted delivery time
  | deleted ids =>
      cases moved
      exact invariant.deleted ids
  | notified =>
      cases moved
      exact ⟨invariant.numbered, invariant.once, invariant.sent,
        invariant.bounded, invariant.covered, invariant.unsent, invariant.first⟩
  | connected failed =>
      simp only [Step, Stream.step] at moved
      split at moved
      · next connecting =>
          split at moved
          · cases moved
            exact waiting .closed nofun nofun _
          · cases moved
            refine invariant.moveStage
              (fun _ => invariant.unsent (.inl connecting)) ?_
            intro records stage
            cases stage
            exact pendingRecordsFor_complete invariant.numbered inOrder
      · cases moved
  | firstSent =>
      simp only [Step, Stream.step] at moved
      split at moved
      · cases moved
        exact waiting .waiting nofun nofun _
      · next record rest stage =>
          cases moved
          have none := invariant.unsent (.inr ⟨_, stage⟩)
          have complete := invariant.first _ stage
          refine invariant.send complete.distinct ?_ ?_ (List.cons_ne_nil _ _)
          · intro row member
            rw [none.2]
            exact complete.given row member
          · intro row member scope below
            exact .inr (complete.complete row member scope below)
      · cases moved
  | waited outcome =>
      simp only [Step, Stream.step] at moved
      split at moved
      · cases moved
        exact waiting (.woken outcome) nofun nofun _
      · cases moved
  | snapshotted =>
      simp only [Step, Stream.step] at moved
      split at moved
      · cases moved
        exact waiting (.querying _) nofun nofun _
      · cases moved
  | queried failed =>
      simp only [Step, Stream.step] at moved
      split at moved
      · split at moved
        · cases moved
          exact waiting .waiting nofun nofun _
        · cases moved
          exact invariant.sendFresh
            (pendingRecordsFor_complete invariant.numbered inOrder)
      · cases moved
  | rotated =>
      cases moved
      exact waiting .closed nofun nofun _

theorem StreamInvariant.start (key : NotifyKey) :
    StreamInvariant (State.start key) where
  numbered := ⟨nofun, List.nodup_nil⟩
  once := List.nodup_nil
  sent := nofun
  bounded := Nat.le_refl 0
  covered := nofun
  unsent := fun _ => ⟨rfl, rfl⟩
  first := nofun

theorem mem_sendFresh {row : PendingDeliveryRecord} (returned : row ∈ records)
    (beyond : state.watermark < row.id) :
    row ∈ (state.sendFresh records).emitted := by
  have fresh : row ∈ state.fresh records :=
    List.mem_filter.mpr ⟨returned, decide_eq_true beyond⟩
  unfold State.sendFresh
  split
  · next none =>
      rw [none] at fresh
      cases fresh
  · next some =>
      rw [some] at fresh
      exact List.mem_append_right _ fresh

theorem mem_of_pendingRecordsFor {row : PendingDeliveryRecord}
    (returned : row ∈ pendingRecordsFor pending key) :
    row ∈ pending.rows ∧ inScope key row = true := by
  unfold pendingRecordsFor at returned
  cases key with
  | system systemId =>
      exact List.mem_filter.mp
        (mem_orderBy.mp (List.mem_of_mem_take returned))
  | email systemId email =>
      exact List.mem_filter.mp
        (mem_orderBy.mp (List.mem_of_mem_take returned))

theorem StreamInvariant.skipsNothing (invariant : StreamInvariant state) :
    SkipsNothing state where
  once := invariant.once
  covered := invariant.covered
  shown := by
    intro row returned unsent
    have both := mem_of_pendingRecordsFor returned
    refine mem_sendFresh returned ?_
    by_contra below
    exact unsent (invariant.covered row both.1 both.2 (Nat.not_lt.mp below))

end Invariant

/-- When every query of a system key meets few rows or rows in the order of
their creation, the stream skips nothing; with the key of an agent it never
does. -/
theorem stream_skipsNothing {key : NotifyKey} {events : List Event}
    {last : State}
    (run : Run (Guarded CreatedInOrder Step) (State.start key) events last) :
    SkipsNothing last := by
  have preserved : ∀ state event next, StreamInvariant state →
      Guarded CreatedInOrder Step state event next → StreamInvariant next := by
    intro state event next invariant moved
    exact invariant.step moved.1 moved.2
  exact (run.invariant preserved (.start key)).skipsNothing

theorem createdInOrder_of_few {state : State}
    (fits : state.pending.rows.length ≤ defaultLimit) (event : Event) :
    CreatedInOrder state event := by
  have few : state.pending.rows.countP (inScope state.key) ≤ defaultLimit :=
    Nat.le_trans List.countP_le_length fits
  cases event with
  | connected failed => exact fun _ _ => .inl few
  | queried failed => exact fun _ _ => .inl few
  | _ => trivial

def sampleDelivery : Delivery :=
  ⟨"a", "bob@x.org", "bob@x.org", "", ""⟩

/-- One row, and so many more than a query returns after the clock stepped
back. -/
def clockStepsBack : List Event :=
  .inserted sampleDelivery 9 ::
    List.replicate 20 (.inserted sampleDelivery 0)

def streamBegins : List Event := [.connected false, .firstSent]

/-- A row in scope that the watermark has passed and no frame has carried. -/
def State.skipped (state : State) : List PendingDeliveryRecord :=
  state.pending.rows.filter fun row => inScope state.key row &&
    decide (row.id ≤ state.watermark) && !state.emitted.contains row

/-- After the clock stepped back the stream of a system key passes over the
row that was inserted before. -/
theorem clockStepsBack_skips :
    ¬∀ key events last, Run Step (State.start key) events last →
      SkipsNothing last := by
  intro all
  have ends : ((clockStepsBack ++ streamBegins).foldlM step
      (State.start (.system "a"))).map (fun last => last.skipped.length) =
        some 1 := by
    decide +kernel
  rcases Option.map_eq_some_iff.mp ends with ⟨last, ran, one⟩
  have skips := all _ _ last (Run.of_foldlM (fun _ _ _ moved => moved) ran)
  rcases List.length_eq_one_iff.mp one with ⟨row, only⟩
  have member : row ∈ last.skipped := by
    rw [only]
    exact List.mem_singleton_self row
  rw [State.skipped, List.mem_filter, Bool.and_eq_true, Bool.and_eq_true,
    decide_eq_true_eq, Bool.not_eq_true'] at member
  have sent := skips.covered row member.1 member.2.1.1 member.2.1.2
  rw [List.contains_iff_mem.mpr sent] at member
  cases member.2.2

/-- A stream that meets a storage error, a wake-up and a timeout. -/
def quietStream : List Event :=
  [.inserted sampleDelivery 1, .connected false, .firstSent,
    .inserted sampleDelivery 1, .notified, .waited .woke, .snapshotted,
    .queried true, .deleted [1], .waited .timeout, .snapshotted, .queried false]

theorem quietStream_skipsNothing :
    ∃ last, Run (Guarded CreatedInOrder Step) (State.start (.system "a"))
      quietStream last ∧ last.emitted.map (·.id) = [1, 2] ∧
        SkipsNothing last := by
  have ends : (quietStream.foldlM (fun state event =>
      if state.pending.rows.length ≤ defaultLimit then step state event else none)
        (State.start (.system "a"))).map (fun last => last.emitted.map (·.id)) =
          some [1, 2] := by
    decide +kernel
  rcases Option.map_eq_some_iff.mp ends with ⟨last, ran, sent⟩
  have few : ∀ state event next,
      (if state.pending.rows.length ≤ defaultLimit then step state event
        else none) = some next → Guarded CreatedInOrder Step state event next := by
    intro state event next moved
    split at moved
    · next fits => exact ⟨createdInOrder_of_few fits event, moved⟩
    · cases moved
  have run := Run.of_foldlM few ran
  exact ⟨last, run, sent, stream_skipsNothing run⟩

end AimailGateway.Stream
