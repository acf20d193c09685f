import Mathlib.Logic.Function.Basic

/-! # The single-slot lock

At most one client holds the mailbox of a key. The holder is known by its client
id, not by its connection.
-/

namespace AimailGateway.Mailbox

/-- An instant or a duration, in nanoseconds. -/
abbrev Instant := Nat

def seconds (count : Nat) : Instant := count * 1000000000

/-- Max lifetime of one stream before the server closes it. -/
def sseMaxLife : Instant := seconds 300

/-- Grace after a rotation, in which only the same client re-acquires. -/
def slotGrace : Instant := seconds 60

/-- Lease of a long-poll; there is no explicit release. -/
def slotPollLease : Instant := seconds 120

def slotStreamLease : Instant := seconds 600

/-- Which client holds a key's slot and until when. -/
structure SlotHolder where
  clientId : String
  expiresAt : Instant
  graceUntil : Option Instant
  deriving DecidableEq, Repr

/-- The lock, keyed by API key id. -/
abbrev SingleSlotLock := Int → Option SlotHolder

namespace SingleSlotLock

def new : SingleSlotLock := fun _ => none

/-- A fresh, active holder. -/
def hold (clientId : String) (deadline : Instant) : SlotHolder where
  clientId := clientId
  expiresAt := deadline
  graceUntil := none

/-- The holder after a client asked for the slot, `none` for a refusal. -/
def claim (now : Instant) (clientId : String) (deadline : Instant) :
    Option SlotHolder → Option SlotHolder
  | some holder =>
      match holder.graceUntil with
      | none =>
          if holder.clientId = clientId then
            if deadline > holder.expiresAt then
              some { holder with expiresAt := deadline }
            else some holder
          else if holder.expiresAt ≤ now then some (hold clientId deadline)
          else none
      | some grace =>
          if holder.clientId = clientId ∨ grace ≤ now then
            some (hold clientId deadline)
          else none
  | none => some (hold clientId deadline)

def tryAcquire (lock : SingleSlotLock) (now : Instant) (keyId : Int)
    (clientId : String) (lease : Instant) : Bool × SingleSlotLock :=
  match claim now clientId (now + lease) (lock keyId) with
  | some holder => (true, Function.update lock keyId (some holder))
  | none => (false, lock)

/-- What a release by a client leaves of the holder. -/
def handBack (deadline : Instant) (clientId : String) (holder : SlotHolder) :
    SlotHolder :=
  if holder.clientId = clientId ∧ holder.graceUntil = none then
    { holder with graceUntil := some deadline }
  else holder

def release (lock : SingleSlotLock) (now : Instant) (keyId : Int)
    (clientId : String) (grace : Instant) : SingleSlotLock :=
  Function.update lock keyId
    ((lock keyId).map (handBack (now + grace) clientId))

variable {lock : SingleSlotLock} {now : Instant} {keyId other : Int}
variable {clientId : String} {lease grace deadline : Instant}
variable {holder later : SlotHolder}

theorem claim_refused (different : holder.clientId ≠ clientId)
    (active : holder.graceUntil = none) (live : now < holder.expiresAt) :
    claim now clientId deadline (some holder) = none := by
  simp only [claim, active]
  rw [if_neg different, if_neg (Nat.not_le_of_lt live)]

theorem tryAcquire_refused (held : lock keyId = some holder)
    (different : holder.clientId ≠ clientId)
    (active : holder.graceUntil = none) (live : now < holder.expiresAt) :
    tryAcquire lock now keyId clientId lease = (false, lock) := by
  simp only [tryAcquire, held]
  rw [claim_refused different active live]

theorem claim_granted {slot : Option SlotHolder}
    (granted : claim now clientId deadline slot = some later) :
    later.clientId = clientId ∧ later.graceUntil = none ∧
      deadline ≤ later.expiresAt := by
  have fresh {holder : SlotHolder}
      (same : some (hold clientId deadline) = some holder) :
      holder.clientId = clientId ∧ holder.graceUntil = none ∧
        deadline ≤ holder.expiresAt := by
    cases same
    exact ⟨rfl, rfl, Nat.le_refl _⟩
  cases slot with
  | none => exact fresh granted
  | some holder =>
      cases active : holder.graceUntil with
      | none =>
          simp only [claim, active] at granted
          split at granted
          · rename_i same
            split at granted
            · cases granted
              exact ⟨same, rfl, Nat.le_refl _⟩
            · rename_i longer
              cases granted
              exact ⟨same, active, Nat.le_of_not_lt longer⟩
          · split at granted
            · exact fresh granted
            · cases granted
      | some grace =>
          simp only [claim, active] at granted
          split at granted
          · exact fresh granted
          · cases granted

theorem claim_refresh (active : holder.graceUntil = none)
    (same : holder.clientId = clientId)
    (granted : claim now clientId deadline (some holder) = some later) :
    later.expiresAt = max holder.expiresAt deadline := by
  simp only [claim, active] at granted
  rw [if_pos same] at granted
  split at granted
  · cases granted
    exact (Nat.max_eq_right (Nat.le_of_lt ‹_›)).symm
  · cases granted
    exact (Nat.max_eq_left (Nat.le_of_not_lt ‹_›)).symm

theorem claim_fresh
    (fresh : holder.clientId ≠ clientId ∨ holder.graceUntil ≠ none)
    (granted : claim now clientId deadline (some holder) = some later) :
    later.expiresAt = deadline := by
  cases active : holder.graceUntil with
  | none =>
      have different := fresh.resolve_right (fun not => not active)
      simp only [claim, active] at granted
      rw [if_neg different] at granted
      split at granted
      · cases granted
        rfl
      · cases granted
  | some grace =>
      simp only [claim, active] at granted
      split at granted
      · cases granted
        rfl
      · cases granted

theorem tryAcquire_expired (held : lock keyId = some holder)
    (active : holder.graceUntil = none) (expired : holder.expiresAt ≤ now) :
    (tryAcquire lock now keyId clientId lease).1 = true := by
  have granted : claim now clientId (now + lease) (some holder) ≠ none := by
    simp only [claim, active]
    rw [if_pos expired]
    split
    · split
      · exact Option.some_ne_none _
      · exact Option.some_ne_none _
    · exact Option.some_ne_none _
  rcases Option.ne_none_iff_exists'.mp granted with ⟨later, granted⟩
  simp only [tryAcquire, held, granted]

theorem tryAcquire_grace (held : lock keyId = some holder)
    (released : holder.graceUntil = some grace) (past : grace ≤ now) :
    (tryAcquire lock now keyId clientId lease).1 = true := by
  have granted : claim now clientId (now + lease) (some holder) =
      some (hold clientId (now + lease)) := by
    simp only [claim, released]
    rw [if_pos (.inr past)]
  simp only [tryAcquire, held, granted]

theorem release_other (different : other ≠ keyId) :
    (lock.release now keyId clientId grace) other = lock other :=
  Function.update_of_ne different _ _

theorem release_stranger (held : lock keyId = some holder)
    (different : holder.clientId ≠ clientId) :
    (lock.release now keyId clientId grace) keyId = some holder := by
  simp only [release, Function.update_self, held, Option.map_some, handBack]
  rw [if_neg (fun same => different same.1)]

theorem release_twice (held : lock keyId = some holder)
    (released : holder.graceUntil ≠ none) :
    (lock.release now keyId clientId grace) keyId = some holder := by
  simp only [release, Function.update_self, held, Option.map_some, handBack]
  rw [if_neg (fun same => released same.2)]

theorem release_own (held : lock keyId = some holder)
    (same : holder.clientId = clientId) (active : holder.graceUntil = none) :
    (lock.release now keyId clientId grace) keyId =
      some { holder with graceUntil := some (now + grace) } := by
  simp only [release, Function.update_self, held, Option.map_some, handBack]
  rw [if_pos ⟨same, active⟩]

end SingleSlotLock

end AimailGateway.Mailbox
