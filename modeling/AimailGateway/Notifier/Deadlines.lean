import AimailGateway.Notifier.Waiters

/-! # No interleaving loses a row

A waiter that times out has missed nothing, as long as the counter of its key
has not gone once around.
-/

namespace AimailGateway.Notifier

open Library PendingNotifier

variable {lowercase : String → String} {keyOf : Nat → NotifyKey}
variable {state next : System} {event : Event} {past : List Event}
  {row : PendingRow}

theorem deadline_requeries (history : History lowercase keyOf past state)
    {id : Nat} (fits : notifies (keyOf id) past < 2 ^ 64)
    (moved : Step lowercase keyOf state (.deadlineChecked id) next)
    {writer : Nat} (added : .added writer row (keyOf id) ∈ past) :
    .removed row ∈ past ∨ next.waiters id = .requery := by
  cases moved with
  | deadlineChecked _ since slot stage =>
      have sound := history.waiters id
      rw [stage] at sound
      rcases sound with ⟨earlier, later, snapshot, removed⟩
      have current := history.held_generation stage
      have counted : notifies (keyOf id) past =
          notifies (keyOf id) earlier + notifies (keyOf id) later := by
        rw [snapshot.split, notifies_append, notifies_snapshotted]
      by_cases grown : state.notifier.gens slot > since
      · right
        simp only [System.setWaiter, Function.update_self, afterDeadline,
          if_pos grown]
      · left
        have since := snapshot.since
        rw [Nat.mod_eq_of_lt fits] at current
        rw [Nat.mod_eq_of_lt (by omega)] at since
        have none : notifies (keyOf id) later = 0 := by omega
        rw [snapshot.split, List.mem_append] at added
        rcases added with before | after
        · exact removed writer row before
        · rcases List.mem_cons.mp after with same | after
          · cases same
          · exact absurd after (notifies_zero none writer row)

/-- A waiter that is past its wait. -/
def Waiter.Settled : Waiter → Prop
  | .requery | .ended _ _ => True
  | _ => False

theorem settled_stays {id : Nat} (settled : (state.waiters id).Settled)
    (moved : Step lowercase keyOf state event next)
    (other : event ≠ .requeried id) :
    next.waiters id = state.waiters id := by
  have unmoved {own : Nat} {stage later : Waiter}
      (current : state.waiters own = stage) (waits : ¬ stage.Settled) :
      Function.update state.waiters own later id = state.waiters id := by
    apply Function.update_of_ne
    intro same
    subst same
    exact waits (current ▸ settled)
  cases moved with
  | signalled own row key rest slot stage =>
      change (state.waiters id).signal slot = state.waiters id
      cases current : state.waiters id with
      | armed since own signalled =>
          rw [current] at settled
          exact settled.elim
      | _ => rfl
  | looked own purpose lookup stage => exact unmoved stage fun settled => settled
  | snapshotted own slot stage => exact unmoved stage fun settled => settled
  | queried own since stage => exact unmoved stage fun settled => settled
  | checked own since slot stage => exact unmoved stage fun settled => settled
  | woken own since slot stage => exact unmoved stage fun settled => settled
  | wokenSpuriously own since slot signalled stage => exact unmoved stage fun settled => settled
  | expired own since slot signalled stage => exact unmoved stage fun settled => settled
  | deadlineChecked own since slot stage => exact unmoved stage fun settled => settled
  | requeried own stage =>
      apply Function.update_of_ne
      rintro rfl
      exact other rfl
  | _ => rfl

/-- After the deadline check: the second query is still to come and will find
the row, or it has come and found it, unless the row left the store first. -/
def WillSee (since : List Event) (id : Nat) (row : PendingRow)
    (state : System) : Prop :=
  (state.waiters id = .requery ∧ Kept since state.store row) ∨
    ∃ answer upto rest, state.waiters id = .ended (some .woke) answer ∧
      since = upto ++ .requeried id :: rest ∧
      (row ∈ answer ∨ .removed row ∈ upto)

theorem WillSee.step {since : List Event} {id : Nat}
    (own : keyOf id ∈ keys lowercase row) (sees : WillSee since id row state)
    (moved : Step lowercase keyOf state event next) :
    WillSee (since ++ [event]) id row next := by
  rcases sees with ⟨requery, kept⟩ | ⟨answer, upto, rest, ended, split, seen⟩
  · by_cases second : event = .requeried id
    · subst second
      right
      cases moved with
      | requeried _ stage =>
          refine ⟨_, since, [], Function.update_self _ _ _, rfl, ?_⟩
          rcases kept with stored | removed
          · exact .inl (mem_query.mpr ⟨stored, own⟩)
          · exact .inr removed
    · left
      refine ⟨?_, kept.step moved⟩
      rw [settled_stays (by rw [requery]; trivial) moved second, requery]
  · right
    have other : event ≠ .requeried id := by
      rintro rfl
      cases moved with
      | requeried _ stage =>
          rw [ended] at stage
          cases stage
    refine ⟨answer, upto, rest ++ [event], ?_, ?_, seen⟩
    · rw [settled_stays (by rw [ended]; trivial) moved other, ended]
    · rw [split, List.append_assoc, List.cons_append]

theorem deadline_sees {before after : List Event} {last : System} {id : Nat}
    (run : Run (Step lowercase keyOf) .start
      (before ++ .deadlineChecked id :: after) last)
    (fits : notifies (keyOf id) before < 2 ^ 64) {writer : Nat}
    (added : .added writer row (keyOf id) ∈ before)
    (pending : .removed row ∉ before) : WillSee after id row last := by
  rcases run.split with ⟨state, earlier, rest⟩
  have history := run_history earlier
  have known := history.rows writer row (keyOf id) added
  have stored : row ∈ state.store := known.2.resolve_right pending
  cases rest with
  | @cons _ next _ _ _ moved rest =>
      have kept : Kept [] state.store row := .inl stored
      have still : row ∈ next.store := by
        rcases kept.step moved with still | removed
        · exact still
        · rw [List.nil_append, List.mem_singleton] at removed
          cases removed
      have requery :=
        (deadline_requeries history fits moved added).resolve_left pending
      exact rest.accumulates (fun later state => WillSee later id row state)
        (fun _ _ _ _ sees moved => sees.step known.1 moved)
        (.inl ⟨requery, .inl still⟩)

theorem signalled_other (consistent : Consistent keyOf state) {writer id : Nat}
    {key : NotifyKey} (different : key ≠ keyOf id)
    (moved : Step lowercase keyOf state (.signalled writer key) next) :
    next.waiters id = state.waiters id := by
  cases moved with
  | signalled _ row _ rest slot stage =>
      change (state.waiters id).signal slot = state.waiters id
      have held := consistent.writers writer
      rw [stage] at held
      cases current : state.waiters id with
      | armed since own signalled =>
          have fits := consistent.waiters id
          rw [current] at fits
          have apart : (own == slot) = false := by
            rw [beq_eq_false_iff_ne]
            intro same
            subst same
            exact different (consistent.formed.distinct _ _ _ held fits)
          simp only [Waiter.signal, apart, Bool.or_false]
      | _ => rfl

section Runs

/-- The deliveries to one address, told apart by their ids. -/
def rowAt (id : Nat) : PendingRow :=
  ⟨id, "s", "x.test", "a@x.test", "\x7b\x7d", "\x7b\x7d", "pending", 0⟩

def systemS : NotifyKey := .system "s"

def emailA : NotifyKey := .email "s" "a@x.test"

/-- Waiter 0 waits for the system, waiter 1 for the address. -/
def sampleKeys (id : Nat) : NotifyKey := if id = 0 then systemS else emailA

/-- Waiter 0 up to its select. -/
def arming : List Event :=
  [.looked 0, .looked 0, .snapshotted 0, .queried 0, .looked 0, .checked 0]

/-- One delivery by writer 0, both of whose slots exist. -/
def delivery (row : PendingRow) : List Event :=
  [.committed 0 row, .found 0, .added 0 row systemS, .signalled 0 systemS,
    .found 0, .added 0 row emailA, .signalled 0 emailA]

/-- A delivery that is acknowledged, and a second one to the same address whose
writer is interrupted between its counter and its signal. -/
def acknowledgedAndNext : List Event :=
  delivery (rowAt 1) ++ [.removed (rowAt 1), .committed 0 (rowAt 2), .found 0,
    .added 0 (rowAt 2) systemS]

/-- Waiter 1 creates the second slot before waiter 0 arms. -/
def preparing : List Event := [.looked 1, .looked 1] ++ arming

/-- Waiter 0 is armed, the slots of both keys exist, and as many ids were
given. -/
structure Armed (writer : Writer) (gen count : Nat) (state : System) : Prop where
  writer : state.writers 0 = writer
  waiter : ∃ signalled, state.waiters 0 = .armed 0 0 signalled
  system : state.notifier.map systemS = some 0
  email : state.notifier.map emailA = some 1
  gen : state.notifier.gens 0 = gen
  lastId : state.lastId = count

variable {rest : List NotifyKey} {gen count : Nat}

theorem committed_armed (armed : Armed .idle gen count state) :
    ∃ last, Step id sampleKeys state (.committed 0 (rowAt (count + 1))) last ∧
      Armed (.notifying (rowAt (count + 1)) systemS [emailA] .reading) gen
        (count + 1) last :=
  ⟨_, .committed state 0 _ armed.writer (congrArg (· + 1) armed.lastId.symm),
    rfl, armed.waiter, armed.system, armed.email, armed.gen, rfl⟩

theorem found_armed {slot : Nat} {key : NotifyKey}
    (armed : Armed (.notifying row key rest .reading) gen count state)
    (held : state.notifier.map key = some slot) :
    ∃ last, Step id sampleKeys state (.found 0) last ∧
      Armed (.notifying row key rest (.held slot)) gen count last := by
  have found : state.notifier.slotStep key .reading =
      (state.notifier, .held slot) := by
    simp only [slotStep, held]
  have moved : Step id sampleKeys state (.found 0) _ :=
    .found state 0 row key rest .reading armed.writer
  rw [found] at moved
  exact ⟨_, moved, rfl, armed.waiter, armed.system,
    armed.email, armed.gen, armed.lastId⟩

theorem added_armed {slot : Nat} {key : NotifyKey}
    (armed : Armed (.notifying row key rest (.held slot)) gen count state) :
    ∃ last, Step id sampleKeys state (.added 0 row key) last ∧
      Armed (.signalling row key rest slot)
        (if slot = 0 then (gen + 1) % 2 ^ 64 else gen) count last := by
  refine ⟨_, .added state 0 row key rest slot armed.writer,
    rfl, armed.waiter, armed.system, armed.email, ?_, armed.lastId⟩
  by_cases zero : slot = 0
  · subst zero
    simp only [fetchAdd, Function.update_self, armed.gen, if_true]
  · rw [if_neg zero]
    exact (Function.update_of_ne (Ne.symm zero) _ _).trans armed.gen

theorem signalled_armed {slot : Nat} {key : NotifyKey}
    (armed : Armed (.signalling row key rest slot) gen count state) :
    ∃ last, Step id sampleKeys state (.signalled 0 key) last ∧
      Armed (Writer.next row rest) gen count last := by
  rcases armed.waiter with ⟨signalled, waiter⟩
  exact ⟨_, .signalled state 0 row key rest slot armed.writer,
    rfl, ⟨_, congrArg (Waiter.signal slot) waiter⟩,
    armed.system, armed.email, armed.gen, armed.lastId⟩

theorem delivery_armed (armed : Armed .idle gen count state) :
    ∃ last, Run (Step id sampleKeys) state (delivery (rowAt (count + 1))) last ∧
      Armed .idle ((gen + 1) % 2 ^ 64) (count + 1) last := by
  rcases committed_armed armed with ⟨first, committed, armed⟩
  rcases found_armed armed armed.system with ⟨second, found, armed⟩
  rcases added_armed armed with ⟨third, added, armed⟩
  rcases signalled_armed armed with ⟨fourth, signalled, armed⟩
  rcases found_armed armed armed.email with ⟨fifth, foundNext, armed⟩
  rcases added_armed armed with ⟨sixth, addedNext, armed⟩
  rcases signalled_armed armed with ⟨last, signalledNext, armed⟩
  exact ⟨last, .cons committed <| .cons found <| .cons added <|
    .cons signalled <| .cons foundNext <| .cons addedNext <|
    .cons signalledNext <| .nil last, armed⟩

/-- Any number of deliveries, while the waiter does not move. -/
def deliveries : Nat → List Event
  | 0 => []
  | count + 1 => deliveries count ++ delivery (rowAt (count + 1))

theorem deliveries_armed (armed : Armed .idle 0 0 state) (count : Nat) :
    ∃ last, Run (Step id sampleKeys) state (deliveries count) last ∧
      Armed .idle (count % 2 ^ 64) count last := by
  induction count with
  | zero => exact ⟨state, .nil state, armed⟩
  | succ count induction =>
      rcases induction with ⟨middle, run, armed⟩
      rcases delivery_armed armed with ⟨last, more, armed⟩
      refine ⟨last, run.append more, ?_⟩
      rwa [Nat.mod_add_mod] at armed

theorem removed_not_mem_deliveries (row : PendingRow) (count : Nat) :
    .removed row ∉ deliveries count := by
  induction count with
  | zero => exact List.not_mem_nil
  | succ count induction =>
      rw [deliveries, List.mem_append]
      rintro (earlier | now)
      · exact induction earlier
      · simp [delivery] at now

theorem expiring_armed {writer : Writer} (armed : Armed writer 0 count state) :
    ∃ last, Run (Step id sampleKeys) state
      ([.expired 0, .looked 0] ++ [.deadlineChecked 0]) last ∧
      last.waiters 0 = .ended (some .timeout) [] := by
  rcases armed.waiter with ⟨signalled, waiter⟩
  have found : state.notifier.slotStep systemS .reading =
      (state.notifier, .held 0) := by
    simp only [slotStep, armed.system]
  have expires : Step id sampleKeys state (.expired 0) _ :=
    .expired state 0 0 0 signalled waiter
  have looks : Step id sampleKeys
      (state.setWaiter 0 (.slot (.deadline 0) .reading)) (.looked 0) _ :=
    .looked _ 0 (.deadline 0) .reading rfl
  have unfound : (state.setWaiter 0
      (.slot (.deadline 0) .reading)).notifier.slotStep (sampleKeys 0)
        .reading = (state.notifier, .held 0) := found
  rw [unfound] at looks
  have ends : afterDeadline 0 (state.notifier.gens 0) =
      .ended (some .timeout) [] := by
    rw [armed.gen]
    rfl
  exact ⟨_, .cons expires <| .cons looks <|
    .cons (.deadlineChecked _ 0 0 0 rfl) <| .nil _, ends⟩

end Runs

end AimailGateway.Notifier
