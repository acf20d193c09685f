import AimailGateway.Notifier.Protocol
import Mathlib.Data.List.Count

/-! # What the stages of the parties say about the past

The generation a waiter compares against was taken before its first query, and
every notification since then has moved the counter of its key.
-/

namespace AimailGateway.Notifier

open Library PendingNotifier

variable {lowercase : String → String} {keyOf : Nat → NotifyKey}
variable {state next : System} {event : Event} {past : List Event}
  {key : NotifyKey} {notifier : PendingNotifier} {id since : Nat}

/-! ## Parties and the registry -/

/-- The slot that a writer has in hand is the one of its key. -/
def Writer.Fits (notifier : PendingNotifier) : Writer → Prop
  | .idle => True
  | .notifying _ key _ lookup => notifier.Holds key lookup
  | .signalling _ key _ own => notifier.map key = some own

def Waiter.Fits (notifier : PendingNotifier) (key : NotifyKey) : Waiter → Prop
  | .slot _ lookup => notifier.Holds key lookup
  | .armed _ own _ => notifier.map key = some own
  | _ => True

variable {writer : Writer}
  {earlier later : PendingNotifier}

theorem Writer.Fits.extends
    (fits : writer.Fits earlier) (extended : earlier.Extends later) :
    writer.Fits later := by
  cases writer with
  | idle => trivial
  | notifying row key rest lookup => exact Holds.extends fits extended
  | signalling row key rest slot => exact extended _ _ fits

variable {waiter : Waiter}
  {events : List Event} {row : PendingRow}

theorem Waiter.Fits.extends (fits : waiter.Fits earlier key)
    (extended : earlier.Extends later) : waiter.Fits later key := by
  cases waiter with
  | slot purpose lookup => exact Holds.extends fits extended
  | armed since slot signalled => exact extended _ _ fits
  | query since => trivial
  | requery => trivial
  | ended outcome answer => trivial

theorem Writer.next_fits (notifier : PendingNotifier) (row : PendingRow)
    (rest : List NotifyKey) : (Writer.next row rest).Fits notifier := by
  cases rest with
  | nil => trivial
  | cons key rest => trivial

theorem Waiter.signal_fits (fits : waiter.Fits notifier key) (slot : Nat) :
    (waiter.signal slot).Fits notifier key := by
  cases waiter with
  | slot purpose lookup => exact fits
  | armed since own signalled => exact fits
  | query since => trivial
  | requery => trivial
  | ended outcome answer => trivial

theorem afterQuery_fits (notifier : PendingNotifier) (key : NotifyKey)
    (since : Nat) (answer : List PendingRow) :
    (afterQuery since answer).Fits notifier key := by
  cases answer with
  | nil => trivial
  | cons row rows => trivial

theorem afterCheck_fits
    {slot : Nat} (found : notifier.map key = some slot) (since gen : Nat) :
    (afterCheck since slot gen).Fits notifier key := by
  unfold afterCheck
  split
  · trivial
  · exact found

theorem afterDeadline_fits (notifier : PendingNotifier) (key : NotifyKey)
    (since gen : Nat) : (afterDeadline since gen).Fits notifier key := by
  unfold afterDeadline
  split
  · trivial
  · trivial

/-- The registry is well formed and every party fits it. -/
structure Consistent (keyOf : Nat → NotifyKey) (state : System) : Prop where
  formed : state.notifier.WellFormed
  writers : ∀ id, (state.writers id).Fits state.notifier
  waiters : ∀ id, (state.waiters id).Fits state.notifier (keyOf id)

theorem start_consistent : Consistent keyOf .start where
  formed := new_wellFormed
  writers _ := trivial
  waiters _ := trivial

theorem Consistent.moveWriter (consistent : Consistent keyOf state) (id : Nat)
    (store : List PendingRow) (lastId : Nat) (formed : notifier.WellFormed)
    (extended : state.notifier.Extends notifier) (fits : writer.Fits notifier) :
    Consistent keyOf
      { state.setWriter id writer with notifier, store, lastId } where
  formed := formed
  writers := (Function.forall_update_iff state.writers
      fun _ writer => writer.Fits notifier).mpr
    ⟨fits, fun other _ => (consistent.writers other).extends extended⟩
  waiters other := (consistent.waiters other).extends extended

theorem Consistent.moveWaiter (consistent : Consistent keyOf state) (id : Nat)
    (formed : notifier.WellFormed) (extended : state.notifier.Extends notifier)
    (fits : waiter.Fits notifier (keyOf id)) :
    Consistent keyOf
      { state.setWaiter id waiter with notifier := notifier } where
  formed := formed
  writers other := (consistent.writers other).extends extended
  waiters := (Function.forall_update_iff state.waiters
      fun other waiter => waiter.Fits notifier (keyOf other)).mpr
    ⟨fits, fun other _ => (consistent.waiters other).extends extended⟩

theorem step_consistent (consistent : Consistent keyOf state)
    (moved : Step lowercase keyOf state event next) :
    Consistent keyOf next := by
  have formed := consistent.formed
  have same := Extends.refl state.notifier
  cases moved with
  | committed id row stage fresh =>
      exact consistent.moveWriter id _ _ formed same (Writer.next_fits _ _ _)
  | found id row key rest lookup stage =>
      have holds : state.notifier.Holds key lookup := by
        have fits := consistent.writers id
        rwa [stage] at fits
      exact consistent.moveWriter id _ _ (slotStep_wellFormed formed _ _)
        (slotStep_extends _ _ _) (slotStep_holds holds)
  | added id row key rest slot stage =>
      have fits := consistent.writers id
      rw [stage] at fits
      exact consistent.moveWriter id _ _ (fetchAdd_wellFormed formed slot)
        (fetchAdd_extends _ _) fits
  | signalled id row key rest slot stage =>
      have writers := consistent.moveWriter id state.store state.lastId formed
        same (Writer.next_fits _ row rest)
      exact ⟨formed, writers.writers,
        fun other => Waiter.signal_fits (consistent.waiters other) slot⟩
  | removed row => exact ⟨formed, consistent.writers, consistent.waiters⟩
  | looked id purpose lookup stage =>
      have holds : state.notifier.Holds (keyOf id) lookup := by
        have fits := consistent.waiters id
        rwa [stage] at fits
      exact consistent.moveWaiter id (slotStep_wellFormed formed _ _)
        (slotStep_extends _ _ _) (slotStep_holds holds)
  | snapshotted id slot stage =>
      exact consistent.moveWaiter id formed same trivial
  | queried id since stage =>
      exact consistent.moveWaiter id formed same (afterQuery_fits _ _ _ _)
  | checked id since slot stage =>
      have fits := consistent.waiters id
      rw [stage] at fits
      exact consistent.moveWaiter id formed same (afterCheck_fits fits _ _)
  | woken id since slot stage =>
      exact consistent.moveWaiter id formed same trivial
  | wokenSpuriously id since slot signalled stage =>
      exact consistent.moveWaiter id formed same trivial
  | expired id since slot signalled stage =>
      exact consistent.moveWaiter id formed same trivial
  | deadlineChecked id since slot stage =>
      exact consistent.moveWaiter id formed same (afterDeadline_fits _ _ _ _)
  | requeried id stage =>
      exact consistent.moveWaiter id formed same trivial

/-! ## What has happened so far -/

/-- Whether an event is a notification of the key. -/
def adds (key : NotifyKey) : Event → Bool
  | .added _ _ other => decide (other = key)
  | _ => false

/-- The notifications of a key. -/
def notifies (key : NotifyKey) (events : List Event) : Nat :=
  events.countP (adds key)

theorem notifies_append (key : NotifyKey) (earlier later : List Event) :
    notifies key (earlier ++ later) =
      notifies key earlier + notifies key later :=
  List.countP_append

theorem notifies_snapshotted (key : NotifyKey) (id : Nat)
    (events : List Event) :
    notifies key (.snapshotted id :: events) = notifies key events :=
  List.countP_cons_of_neg (by simp [adds])

theorem notifies_zero
    (none : notifies key events = 0) (writer : Nat) (row : PendingRow) :
    .added writer row key ∉ events := by
  intro member
  have still := List.countP_eq_zero.mp none _ member
  simp [adds] at still

theorem exists_added (some : notifies key events ≠ 0) :
    ∃ writer row, .added writer row key ∈ events := by
  have positive : 0 < events.countP (adds key) := Nat.pos_of_ne_zero some
  rcases List.countP_pos_iff.mp positive with ⟨event, member, counted⟩
  cases event with
  | added writer row other =>
      have same : other = key := of_decide_eq_true counted
      exact ⟨writer, row, same ▸ member⟩
  | _ => cases counted

/-- The row is in the store, unless it was taken out. -/
def Kept (past : List Event) (store : List PendingRow) (row : PendingRow) :
    Prop :=
  row ∈ store ∨ .removed row ∈ past

theorem Kept.step (kept : Kept past state.store row)
    (moved : Step lowercase keyOf state event next) :
    Kept (past ++ [event]) next.store row := by
  rcases kept with stored | removed
  · cases moved with
    | committed id other stage fresh =>
        exact .inl (List.mem_append_left _ stored)
    | removed other =>
        by_cases same : row = other
        · subst same
          exact .inr (List.mem_append_right _ List.mem_cons_self)
        · exact .inl ((List.mem_erase_of_ne same).mpr stored)
    | _ => exact .inl stored
  · exact .inr (List.mem_append_left _ removed)

/-- The row that a writer notifies is committed, and its keys are the row's. -/
def Writer.Sound (lowercase : String → String) (past : List Event)
    (store : List PendingRow) : Writer → Prop
  | .idle => True
  | .notifying row key rest _ | .signalling row key rest _ =>
      Kept past store row ∧ ∀ other ∈ key :: rest, other ∈ keys lowercase row

/-- `since` is the generation of the key at the snapshot of the waiter. -/
structure Snapshot (past : List Event) (id : Nat) (key : NotifyKey)
    (since : Nat) (earlier later : List Event) : Prop where
  split : past = earlier ++ .snapshotted id :: later
  since : since = notifies key earlier % 2 ^ 64

/-- The first query after the snapshot found nothing: whatever had been
notified by then had left the store. -/
def Cleared (past : List Event) (id : Nat) (key : NotifyKey) (since : Nat) :
    Prop :=
  ∃ earlier later, Snapshot past id key since earlier later ∧
    ∀ writer row, .added writer row key ∈ earlier → .removed row ∈ past

/-- The key was notified after the snapshot. -/
def Notified (past : List Event) (id : Nat) (key : NotifyKey) : Prop :=
  ∃ earlier later writer row, past = earlier ++ .snapshotted id :: later ∧
    .added writer row key ∈ later

/-- What the stage of a waiter says about the past. -/
def Waiter.Sound (past : List Event) (id : Nat) (key : NotifyKey) :
    Waiter → Prop
  | .slot .snapshot _ => True
  | .query since =>
      ∃ earlier later, Snapshot past id key since earlier later
  | .slot (.check since) _ | .slot (.deadline since) _ | .armed since _ _ =>
      Cleared past id key since
  | .requery | .ended (some .woke) _ => Notified past id key
  | .ended _ _ => True

theorem Snapshot.extends {earlier later : List Event}
    (snapshot : Snapshot past id key since earlier later) (event : Event) :
    Snapshot (past ++ [event]) id key since earlier (later ++ [event]) where
  split := by rw [snapshot.split, List.append_assoc, List.cons_append]
  since := snapshot.since

theorem Cleared.extends (cleared : Cleared past id key since) (event : Event) :
    Cleared (past ++ [event]) id key since := by
  rcases cleared with ⟨earlier, later, snapshot, removed⟩
  exact ⟨earlier, later ++ [event], snapshot.extends event,
    fun writer row added => List.mem_append_left _ (removed writer row added)⟩

theorem Notified.extends {id : Nat}
    (notified : Notified past id key) (event : Event) :
    Notified (past ++ [event]) id key := by
  rcases notified with ⟨earlier, later, writer, row, split, added⟩
  refine ⟨earlier, later ++ [event], writer, row, ?_,
    List.mem_append_left _ added⟩
  rw [split, List.append_assoc, List.cons_append]

theorem Waiter.Sound.extends {id : Nat}
    (sound : waiter.Sound past id key) (event : Event) :
    waiter.Sound (past ++ [event]) id key := by
  cases waiter with
  | slot purpose lookup =>
      cases purpose with
      | snapshot => trivial
      | check since => exact Cleared.extends sound event
      | deadline since => exact Cleared.extends sound event
  | query since =>
      rcases sound with ⟨earlier, later, snapshot⟩
      exact ⟨earlier, later ++ [event], snapshot.extends event⟩
  | armed since own signalled => exact Cleared.extends sound event
  | requery => exact Notified.extends sound event
  | ended outcome answer =>
      rcases outcome with _ | _ | _
      · trivial
      · exact Notified.extends sound event
      · trivial

theorem Waiter.signal_sound {id : Nat}
    (sound : waiter.Sound past id key) (slot : Nat) :
    (waiter.signal slot).Sound past id key := by
  cases waiter with
  | armed since own signalled => exact sound
  | _ => exact sound

theorem Writer.next_sound {store : List PendingRow}
    {rest : List NotifyKey} (kept : Kept past store row)
    (own : ∀ other ∈ rest, other ∈ keys lowercase row) :
    (Writer.next row rest).Sound lowercase past store := by
  cases rest with
  | nil => trivial
  | cons key rest => exact ⟨kept, own⟩

theorem Writer.Sound.step (sound : writer.Sound lowercase past state.store)
    (moved : Step lowercase keyOf state event next) :
    writer.Sound lowercase (past ++ [event]) next.store := by
  cases writer with
  | idle => trivial
  | notifying row key rest lookup => exact ⟨sound.1.step moved, sound.2⟩
  | signalling row key rest slot => exact ⟨sound.1.step moved, sound.2⟩

/-- The state of the parties, told by the events so far. -/
structure History (lowercase : String → String) (keyOf : Nat → NotifyKey)
    (past : List Event) (state : System) : Prop where
  consistent : Consistent keyOf state
  generation : ∀ key,
    state.notifier.generation key = notifies key past % 2 ^ 64
  rows : ∀ id row key, .added id row key ∈ past →
    key ∈ keys lowercase row ∧ Kept past state.store row
  writers : ∀ id, (state.writers id).Sound lowercase past state.store
  waiters : ∀ id, (state.waiters id).Sound past id (keyOf id)

theorem start_history : History lowercase keyOf [] .start where
  consistent := start_consistent
  generation _ := rfl
  rows _ _ _ member := by cases member
  writers _ := trivial
  waiters _ := trivial

theorem step_generation (consistent : Consistent keyOf state)
    (moved : Step lowercase keyOf state event next) (key : NotifyKey) :
    next.notifier.generation key =
      if adds key event then (state.notifier.generation key + 1) % 2 ^ 64
      else state.notifier.generation key := by
  cases moved with
  | found id row own rest lookup stage =>
      exact slotStep_generation consistent.formed _ _ _
  | added id row own rest slot stage =>
      have held := consistent.writers id
      rw [stage] at held
      by_cases same : own = key
      · subst same
        simp only [adds, decide_true, if_true]
        exact fetchAdd_generation_self held
      · simp only [adds, same, decide_false, Bool.false_eq_true, if_false]
        exact fetchAdd_generation_other consistent.formed held (Ne.symm same)
  | looked id purpose lookup stage =>
      exact slotStep_generation consistent.formed _ _ _
  | _ => rfl

theorem History.step_generation (history : History lowercase keyOf past state)
    (moved : Step lowercase keyOf state event next) (key : NotifyKey) :
    next.notifier.generation key =
      notifies key (past ++ [event]) % 2 ^ 64 := by
  rw [Notifier.step_generation history.consistent moved key, notifies_append,
    history.generation key]
  cases counted : adds key event with
  | false => simp [notifies, counted]
  | true => simp [notifies, counted]

theorem History.step_rows (history : History lowercase keyOf past state)
    (moved : Step lowercase keyOf state event next) (id : Nat)
    (row : PendingRow) (key : NotifyKey)
    (member : .added id row key ∈ past ++ [event]) :
    key ∈ keys lowercase row ∧ Kept (past ++ [event]) next.store row := by
  rcases List.mem_append.mp member with earlier | now
  · have known := history.rows id row key earlier
    exact ⟨known.1, known.2.step moved⟩
  · rw [List.mem_singleton] at now
    subst now
    have step := moved
    cases moved with
    | added _ _ _ rest slot stage =>
        have sound := history.writers id
        rw [stage] at sound
        exact ⟨sound.2 _ List.mem_cons_self, sound.1.step step⟩

theorem History.step_writers (history : History lowercase keyOf past state)
    (moved : Step lowercase keyOf state event next) (id : Nat) :
    (next.writers id).Sound lowercase (past ++ [event]) next.store := by
  have stays := (history.writers id).step moved
  have moves {own : Nat} {writer : Writer}
      (sound : writer.Sound lowercase (past ++ [event]) next.store) :
      (Function.update state.writers own writer id).Sound lowercase
        (past ++ [event]) next.store := by
    by_cases same : id = own
    · rw [same, Function.update_self]
      exact sound
    · rw [Function.update_of_ne same]
      exact stays
  have step := moved
  cases moved with
  | committed own row stage fresh =>
      exact moves (Writer.next_sound
        (.inl (List.mem_append_right _ List.mem_cons_self))
        (fun _ member => member))
  | found own row key rest lookup stage =>
      have sound := (history.writers own).step step
      rw [stage] at sound
      exact moves sound
  | added own row key rest slot stage =>
      have sound := (history.writers own).step step
      rw [stage] at sound
      exact moves sound
  | signalled own row key rest slot stage =>
      have sound := (history.writers own).step step
      rw [stage] at sound
      exact moves (Writer.next_sound sound.1 fun other member =>
        sound.2 other (List.mem_cons_of_mem _ member))
  | _ => exact stays

theorem Cleared.notified (cleared : Cleared past id key since)
    (grown : notifies key past % 2 ^ 64 > since) : Notified past id key := by
  rcases cleared with ⟨earlier, later, snapshot, removed⟩
  have counted : notifies key past =
      notifies key earlier + notifies key later := by
    rw [snapshot.split, notifies_append, notifies_snapshotted]
  have some : notifies key later ≠ 0 := by
    intro none
    rw [counted, none, Nat.add_zero, snapshot.since] at grown
    exact Nat.lt_irrefl _ grown
  rcases exists_added some with ⟨writer, row, added⟩
  exact ⟨earlier, later, writer, row, snapshot.split, added⟩

theorem afterCheck_sound
    (cleared : Cleared past id key since) (slot : Nat) {gen : Nat}
    (current : gen = notifies key past % 2 ^ 64) :
    (afterCheck since slot gen).Sound past id key := by
  unfold afterCheck
  split
  · exact cleared.notified (current ▸ ‹_›)
  · exact cleared

theorem afterDeadline_sound (cleared : Cleared past id key since) {gen : Nat}
    (current : gen = notifies key past % 2 ^ 64) :
    (afterDeadline since gen).Sound past id key := by
  unfold afterDeadline
  split
  · exact cleared.notified (current ▸ ‹_›)
  · trivial

theorem mem_query {store : List PendingRow} :
    row ∈ query lowercase key store ↔
      row ∈ store ∧ key ∈ keys lowercase row := by
  rw [query, List.mem_filter, decide_eq_true_iff]

theorem History.afterQuery_sound (history : History lowercase keyOf past state)
    {earlier later : List Event}
    (snapshot : Snapshot past id (keyOf id) since earlier later) :
    (afterQuery since (query lowercase (keyOf id) state.store)).Sound past id
      (keyOf id) := by
  cases answer : query lowercase (keyOf id) state.store with
  | cons row rows => trivial
  | nil =>
      refine ⟨earlier, later, snapshot, fun writer row added => ?_⟩
      have member : .added writer row (keyOf id) ∈ past := by
        rw [snapshot.split]
        exact List.mem_append_left _ added
      have known := history.rows writer row (keyOf id) member
      rcases known.2 with stored | removed
      · have seen := mem_query.mpr ⟨stored, known.1⟩
        rw [answer] at seen
        cases seen
      · exact removed

theorem History.held_generation
    (history : History lowercase keyOf past state) {id slot : Nat}
    {purpose : Purpose}
    (stage : state.waiters id = .slot purpose (.held slot)) :
    state.notifier.gens slot = notifies (keyOf id) past % 2 ^ 64 := by
  have fits := history.consistent.waiters id
  rw [stage] at fits
  rw [← history.generation, generation_held fits]

theorem History.step_waiters (history : History lowercase keyOf past state)
    (moved : Step lowercase keyOf state event next) (id : Nat) :
    (next.waiters id).Sound (past ++ [event]) id (keyOf id) := by
  have stays := (history.waiters id).extends event
  have moves {own : Nat} {waiter : Waiter}
      (sound : waiter.Sound (past ++ [event]) own (keyOf own)) :
      (Function.update state.waiters own waiter id).Sound (past ++ [event]) id
        (keyOf id) := by
    by_cases same : id = own
    · subst same
      rw [Function.update_self]
      exact sound
    · rw [Function.update_of_ne same]
      exact stays
  cases moved with
  | signalled own row key rest slot stage =>
      exact Waiter.signal_sound stays slot
  | looked own purpose lookup stage =>
      have sound := (history.waiters own).extends (.looked own)
      rw [stage] at sound
      apply moves
      cases purpose with
      | snapshot => trivial
      | check since => exact sound
      | deadline since => exact sound
  | snapshotted own slot stage =>
      apply moves
      exact ⟨past, [], rfl, history.held_generation stage⟩
  | queried own since stage =>
      have sound := history.waiters own
      rw [stage] at sound
      rcases sound with ⟨earlier, later, snapshot⟩
      exact moves ((history.afterQuery_sound snapshot).extends _)
  | checked own since slot stage =>
      have sound := history.waiters own
      rw [stage] at sound
      exact moves ((afterCheck_sound sound slot
        (history.held_generation stage)).extends _)
  | woken own since slot stage =>
      have sound := (history.waiters own).extends (.woken own)
      rw [stage] at sound
      exact moves sound
  | wokenSpuriously own since slot signalled stage =>
      have sound := (history.waiters own).extends (.wokenSpuriously own)
      rw [stage] at sound
      exact moves sound
  | expired own since slot signalled stage =>
      have sound := (history.waiters own).extends (.expired own)
      rw [stage] at sound
      exact moves sound
  | deadlineChecked own since slot stage =>
      have sound := history.waiters own
      rw [stage] at sound
      exact moves ((afterDeadline_sound sound
        (history.held_generation stage)).extends _)
  | requeried own stage =>
      have sound := (history.waiters own).extends (.requeried own)
      rw [stage] at sound
      exact moves sound
  | _ => exact stays

theorem step_history (history : History lowercase keyOf past state)
    (moved : Step lowercase keyOf state event next) :
    History lowercase keyOf (past ++ [event]) next where
  consistent := step_consistent history.consistent moved
  generation := history.step_generation moved
  rows := history.step_rows moved
  writers := history.step_writers moved
  waiters := history.step_waiters moved

theorem run_history {last : System}
    (run : Run (Step lowercase keyOf) .start events last) :
    History lowercase keyOf events last :=
  run.accumulates (History lowercase keyOf)
    (fun _ _ _ _ history moved => step_history history moved) start_history

end AimailGateway.Notifier
