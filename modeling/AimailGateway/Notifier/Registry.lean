import Mathlib.Algebra.Group.Nat.Defs
import Mathlib.Logic.Function.Basic

/-! # The registry of wake-up slots

Waiters for pending deliveries and their writer share one process. A slot holds
a generation counter; a map under a lock leads from a key to its slot.
-/

namespace AimailGateway.Notifier

/-- Wake-up key: it matches the storage filter of its waiters exactly. -/
inductive NotifyKey where
  | system (systemId : String)
  | email (systemId email : String)
  deriving DecidableEq, Repr

inductive WaitOutcome where
  | woke
  | timeout
  deriving DecidableEq, Repr

/-- The map of keys to slots, and for each slot the value of its `AtomicU64`. -/
structure PendingNotifier where
  map : NotifyKey → Option Nat
  created : Nat
  gens : Nat → Nat

/-- How far a party is inside `slot`: about to look under the read lock, about
to insert under the write lock, or holding the shared slot. -/
inductive Lookup where
  | reading
  | creating
  | held (slot : Nat)
  deriving DecidableEq, Repr

namespace PendingNotifier

def new : PendingNotifier where
  map := fun _ => none
  created := 0
  gens := fun _ => 0

/-- `entry(key).or_insert_with(..)`: another party may have come first. -/
def orInsert (notifier : PendingNotifier) (key : NotifyKey) :
    PendingNotifier × Nat :=
  match notifier.map key with
  | some slot => (notifier, slot)
  | none =>
      ({ map := Function.update notifier.map key (some notifier.created),
         created := notifier.created + 1,
         gens := Function.update notifier.gens notifier.created 0 },
        notifier.created)

/-- One critical section of `slot`. -/
def slotStep (notifier : PendingNotifier) (key : NotifyKey) :
    Lookup → PendingNotifier × Lookup
  | .reading =>
      match notifier.map key with
      | some slot => (notifier, .held slot)
      | none => (notifier, .creating)
  | .creating =>
      ((notifier.orInsert key).1, .held (notifier.orInsert key).2)
  | .held slot => (notifier, .held slot)

/-- `gen.fetch_add(1)`, which wraps around. -/
def fetchAdd (notifier : PendingNotifier) (slot : Nat) : PendingNotifier :=
  { notifier with
    gens := Function.update notifier.gens slot
      ((notifier.gens slot + 1) % 2 ^ 64) }

/-- The generation of a key; a key without a slot is at its beginning. -/
def generation (notifier : PendingNotifier) (key : NotifyKey) : Nat :=
  match notifier.map key with
  | some slot => notifier.gens slot
  | none => 0

/-- Slots of the map exist, and no two keys share one. -/
structure WellFormed (notifier : PendingNotifier) : Prop where
  exists_slot : ∀ key slot, notifier.map key = some slot →
    slot < notifier.created
  distinct : ∀ key other slot, notifier.map key = some slot →
    notifier.map other = some slot → key = other

/-- `slot` is the slot of `key` in the map. -/
def Holds (notifier : PendingNotifier) (key : NotifyKey) : Lookup → Prop
  | .held slot => notifier.map key = some slot
  | _ => True

/-- The map only grows. -/
def Extends (earlier later : PendingNotifier) : Prop :=
  ∀ key slot, earlier.map key = some slot → later.map key = some slot

variable {notifier : PendingNotifier} {key other : NotifyKey} {slot : Nat}

theorem new_wellFormed : new.WellFormed where
  exists_slot _ _ found := by cases found
  distinct _ _ _ found _ := by cases found

theorem Extends.refl (notifier : PendingNotifier) : notifier.Extends notifier :=
  fun _ _ found => found

theorem Holds.extends {later : PendingNotifier} {lookup : Lookup}
    (holds : notifier.Holds key lookup) (extended : notifier.Extends later) :
    later.Holds key lookup := by
  cases lookup with
  | reading => trivial
  | creating => trivial
  | held slot => exact extended _ _ holds

theorem generation_held (found : notifier.map key = some slot) :
    notifier.generation key = notifier.gens slot := by
  simp only [generation, found]

theorem orInsert_missing (missing : notifier.map key = none) :
    notifier.orInsert key =
      ({ map := Function.update notifier.map key (some notifier.created),
         created := notifier.created + 1,
         gens := Function.update notifier.gens notifier.created 0 },
        notifier.created) := by
  simp only [orInsert, missing]

theorem orInsert_present (found : notifier.map key = some slot) :
    notifier.orInsert key = (notifier, slot) := by
  simp only [orInsert, found]

theorem orInsert_extends (notifier : PendingNotifier) (key : NotifyKey) :
    notifier.Extends (notifier.orInsert key).1 := by
  intro other slot found
  cases present : notifier.map key with
  | some held => rw [orInsert_present present]; exact found
  | none =>
      have different : other ≠ key := by
        intro same
        rw [same, present] at found
        cases found
      rw [orInsert_missing present]
      simp only [Function.update_of_ne different, found]

theorem orInsert_holds (notifier : PendingNotifier) (key : NotifyKey) :
    (notifier.orInsert key).1.map key = some (notifier.orInsert key).2 := by
  cases present : notifier.map key with
  | some held => rw [orInsert_present present]; exact present
  | none => rw [orInsert_missing present]; simp only [Function.update_self]

theorem orInsert_wellFormed (formed : notifier.WellFormed) (key : NotifyKey) :
    (notifier.orInsert key).1.WellFormed := by
  cases present : notifier.map key with
  | some held => rw [orInsert_present present]; exact formed
  | none =>
      rw [orInsert_missing present]
      constructor
      · intro other slot found
        by_cases same : other = key
        · subst same
          simp only [Function.update_self, Option.some.injEq] at found
          exact found ▸ Nat.lt_succ_self _
        · simp only [Function.update_of_ne same] at found
          exact Nat.lt_succ_of_lt (formed.exists_slot _ _ found)
      · intro first second slot left right
        by_cases one : first = key <;> by_cases two : second = key
        · rw [one, two]
        · subst one
          simp only [Function.update_self, Option.some.injEq] at left
          simp only [Function.update_of_ne two] at right
          exact absurd (formed.exists_slot _ _ right) (by omega)
        · subst two
          simp only [Function.update_self, Option.some.injEq] at right
          simp only [Function.update_of_ne one] at left
          exact absurd (formed.exists_slot _ _ left) (by omega)
        · simp only [Function.update_of_ne one] at left
          simp only [Function.update_of_ne two] at right
          exact formed.distinct _ _ _ left right

theorem orInsert_generation (formed : notifier.WellFormed)
    (key other : NotifyKey) :
    (notifier.orInsert key).1.generation other = notifier.generation other := by
  cases present : notifier.map key with
  | some held => rw [orInsert_present present]
  | none =>
      rw [orInsert_missing present]
      by_cases same : other = key
      · subst same
        simp only [generation, Function.update_self, present]
      · simp only [generation, Function.update_of_ne same]
        cases found : notifier.map other with
        | none => rfl
        | some slot =>
            have older : slot ≠ notifier.created :=
              Nat.ne_of_lt (formed.exists_slot _ _ found)
            simp only [Function.update_of_ne older]

theorem slotStep_extends (notifier : PendingNotifier) (key : NotifyKey)
    (lookup : Lookup) :
    notifier.Extends (notifier.slotStep key lookup).1 := by
  cases lookup with
  | reading =>
      simp only [slotStep]
      cases notifier.map key with
      | some slot => exact Extends.refl _
      | none => exact Extends.refl _
  | creating => exact orInsert_extends _ _
  | held slot => exact Extends.refl _

theorem slotStep_wellFormed (formed : notifier.WellFormed) (key : NotifyKey)
    (lookup : Lookup) : (notifier.slotStep key lookup).1.WellFormed := by
  cases lookup with
  | reading =>
      simp only [slotStep]
      cases notifier.map key with
      | some slot => exact formed
      | none => exact formed
  | creating => exact orInsert_wellFormed formed _
  | held slot => exact formed

theorem slotStep_generation (formed : notifier.WellFormed)
    (key other : NotifyKey) (lookup : Lookup) :
    (notifier.slotStep key lookup).1.generation other =
      notifier.generation other := by
  cases lookup with
  | reading =>
      simp only [slotStep]
      cases notifier.map key with
      | some slot => rfl
      | none => rfl
  | creating => exact orInsert_generation formed _ _
  | held slot => rfl

theorem slotStep_holds {lookup : Lookup} (holds : notifier.Holds key lookup) :
    (notifier.slotStep key lookup).1.Holds key
      (notifier.slotStep key lookup).2 := by
  cases lookup with
  | reading =>
      simp only [slotStep]
      cases found : notifier.map key with
      | some slot => exact found
      | none => trivial
  | creating => exact orInsert_holds _ _
  | held slot => exact holds

theorem fetchAdd_wellFormed (formed : notifier.WellFormed) (slot : Nat) :
    (notifier.fetchAdd slot).WellFormed :=
  ⟨formed.exists_slot, formed.distinct⟩

theorem fetchAdd_extends (notifier : PendingNotifier) (slot : Nat) :
    notifier.Extends (notifier.fetchAdd slot) :=
  fun _ _ found => found

theorem fetchAdd_generation_self (found : notifier.map key = some slot) :
    (notifier.fetchAdd slot).generation key =
      (notifier.generation key + 1) % 2 ^ 64 := by
  rw [generation_held found]
  simp only [generation, fetchAdd, found, Function.update_self]

theorem fetchAdd_generation_other (formed : notifier.WellFormed)
    (found : notifier.map key = some slot) (different : other ≠ key) :
    (notifier.fetchAdd slot).generation other = notifier.generation other := by
  simp only [generation, fetchAdd]
  cases present : notifier.map other with
  | none => rfl
  | some own =>
      have apart : own ≠ slot := by
        intro same
        subst same
        exact different (formed.distinct _ _ _ present found)
      simp only [Function.update_of_ne apart]

end PendingNotifier

end AimailGateway.Notifier
