import AimailGateway.Library.Execution
import AimailGateway.Mailbox.SlotLock

/-! # Streams and polls of a mailbox

Connections acquire the slot of their key and end in every order. A stream
gives the slot back when its guard is dropped, and with a grace window when it
rotates first; a poll never gives it back.
-/

namespace AimailGateway.Mailbox

open Library SingleSlotLock

/-- The slot that a connection asked for, and when it got it. -/
structure Claim where
  keyId : Int
  clientId : String
  acquired : Instant
  deriving DecidableEq, Repr

inductive Connection where
  | fresh
  | refused
  /-- The stream's handler has the slot, but no guard yet. -/
  | opening (claim : Claim)
  | streaming (claim : Claim) (started : Instant)
  /-- The stream is over, but its guard is not dropped yet. -/
  | rotated (claim : Claim) (ended : Instant)
  | polling (claim : Claim)
  | streamEnded (claim : Claim) (ended : Instant)
  | pollEnded (claim : Claim) (ended : Instant)
  deriving DecidableEq, Repr

structure System where
  now : Instant
  lock : SingleSlotLock
  connections : Nat → Connection

def System.start : System where
  now := 0
  lock := .new
  connections := fun _ => .fresh

def System.setConnection (state : System) (id : Nat)
    (connection : Connection) : System :=
  { state with connections := Function.update state.connections id connection }

@[simp] theorem System.setConnection_self (state : System) (id : Nat)
    (connection : Connection) :
    (state.setConnection id connection).connections id = connection :=
  Function.update_self _ _ _

theorem System.setConnection_other (state : System) {id other : Nat}
    (connection : Connection) (different : other ≠ id) :
    (state.setConnection id connection).connections other =
      state.connections other :=
  Function.update_of_ne different _ _

inductive Event where
  | elapsed (duration : Instant)
  | streamRequested (id : Nat) (keyId : Int) (clientId : String)
  | opened (id : Nat)
  | failed (id : Nat)
  | rotated (id : Nat)
  | dropped (id : Nat)
  | pollRequested (id : Nat) (keyId : Int) (clientId : String)
  | answered (id : Nat)
  deriving DecidableEq, Repr

/-- The step of a handler that asks for the slot first of all. -/
def System.request (state : System) (id : Nat) (claim : Claim)
    (lease : Instant) (granted : Claim → Connection) : System :=
  { state.setConnection id
      (if (state.lock.tryAcquire state.now claim.keyId claim.clientId lease).1
        then granted claim else .refused) with
    lock :=
      (state.lock.tryAcquire state.now claim.keyId claim.clientId lease).2 }

/-- The step of a stream that releases the slot. -/
def System.release (state : System) (id : Nat) (claim : Claim)
    (grace : Instant) (ended : Connection) : System :=
  { state.setConnection id ended with
    lock :=
      state.lock.release state.now claim.keyId claim.clientId grace }

/-- One step: time passes, or one connection moves. -/
inductive Step : System → Event → System → Prop where
  | elapsed (state : System) (duration : Instant) :
      Step state (.elapsed duration)
        { state with now := state.now + duration }
  /-- `sse_response` up to the claim of the slot. -/
  | streamRequested (state : System) (id : Nat) (keyId : Int)
      (clientId : String) (stage : state.connections id = .fresh) :
      Step state (.streamRequested id keyId clientId)
        (state.request id ⟨keyId, clientId, state.now⟩ slotStreamLease
          .opening)
  /-- The connect query has succeeded; the stream's state holds a guard. -/
  | opened (state : System) (id : Nat) (claim : Claim)
      (stage : state.connections id = .opening claim) :
      Step state (.opened id)
        (state.setConnection id (.streaming claim state.now))
  /-- The connect query fails, or the client goes away during it. -/
  | failed (state : System) (id : Nat) (claim : Claim)
      (stage : state.connections id = .opening claim) :
      Step state (.failed id)
        (state.setConnection id (.streamEnded claim state.now))
  /-- Max-life rotation. -/
  | rotated (state : System) (id : Nat) (claim : Claim) (started : Instant)
      (stage : state.connections id = .streaming claim started)
      (old : started + sseMaxLife ≤ state.now) :
      Step state (.rotated id)
        (state.release id claim slotGrace (.rotated claim state.now))
  /-- Abrupt disconnect. -/
  | dropped (state : System) (id : Nat) (claim : Claim) (started : Instant)
      (stage : state.connections id = .streaming claim started) :
      Step state (.dropped id)
        (state.release id claim 0 (.streamEnded claim state.now))
  /-- The guard of a rotated stream is dropped. -/
  | droppedRotated (state : System) (id : Nat) (claim : Claim)
      (ended : Instant) (stage : state.connections id = .rotated claim ended) :
      Step state (.dropped id)
        (state.release id claim 0 (.streamEnded claim ended))
  | pollRequested (state : System) (id : Nat) (keyId : Int)
      (clientId : String) (stage : state.connections id = .fresh) :
      Step state (.pollRequested id keyId clientId)
        (state.request id ⟨keyId, clientId, state.now⟩ slotPollLease
          .polling)
  /-- The poll's handler returns, with rows, without, or with an error. -/
  | answered (state : System) (id : Nat) (claim : Claim)
      (stage : state.connections id = .polling claim) :
      Step state (.answered id)
        (state.setConnection id (.pollEnded claim state.now))

/-- The slot that a connection is served under: a stream until it ends, a poll
inside its lease. -/
def Connection.served (now : Instant) : Connection → Option Claim
  | .opening claim | .streaming claim _ => some claim
  | .polling claim =>
      if now < claim.acquired + slotPollLease then some claim else none
  | _ => none

/-- Whether two claims are by one client on one key. -/
def Claim.SameHolder (claim other : Claim) : Prop :=
  claim.keyId = other.keyId ∧ claim.clientId = other.clientId

/-- What a connection of a client says about its slot being free: a stream has
ended a grace window ago, a poll has ended and its lease has passed. -/
def Connection.Over (now : Instant) (keyId : Int) (clientId : String) :
    Connection → Prop
  | .opening claim | .streaming claim _ | .polling claim =>
      ¬ (claim.keyId = keyId ∧ claim.clientId = clientId)
  | .rotated claim ended | .streamEnded claim ended =>
      claim.keyId = keyId → claim.clientId = clientId →
        ended + slotGrace ≤ now
  | .pollEnded claim _ =>
      claim.keyId = keyId → claim.clientId = clientId →
        claim.acquired + slotPollLease ≤ now
  | _ => True

def Connection.guard : Connection → Option Claim
  | .streaming claim _ | .rotated claim _ => some claim
  | _ => none

/-- No stream outlives its lease or releases the slot under another connection
of its client, and no handler fails between the claim and the guard. -/
def Orderly (state : System) : Event → Prop
  | .elapsed duration =>
      ∀ id claim started,
        state.connections id = .opening claim ∨
          state.connections id = .streaming claim started →
        state.now + duration < claim.acquired + slotStreamLease
  | .failed _ => False
  | .rotated id | .dropped id =>
      ∀ claim, (state.connections id).guard = some claim →
        ∀ other another, other ≠ id →
          (state.connections other).served state.now = some another →
          ¬ claim.SameHolder another
  | _ => True

end AimailGateway.Mailbox
