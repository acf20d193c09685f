import AimailGateway.Library.Execution
import AimailGateway.Notifier.Registry
import AimailGateway.Notifier.Stream
import Mathlib.Data.List.Basic

/-! # Writers and waiters of pending deliveries

Any number of writers commit rows and notify; any number of waiters take a
snapshot, query the store, wait and query again. Every access to the store, the
map, a counter or a signal is one step. Time is left out: a hold may elapse at
any moment, and an armed waiter may wake up without a signal.
-/

namespace AimailGateway.Notifier

open Library

/-- A row of `pending_deliveries`. -/
abbrev PendingRow := Stream.PendingDeliveryRecord

/-- The keys of a row in the order in which its writer notifies them. -/
def keys (lowercase : String → String) (row : PendingRow) : List NotifyKey :=
  [.system row.systemId, .email row.systemId (lowercase row.email)]

inductive Writer where
  | idle
  | notifying (row : PendingRow) (key : NotifyKey) (rest : List NotifyKey)
      (lookup : Lookup)
  | signalling (row : PendingRow) (key : NotifyKey) (rest : List NotifyKey)
      (slot : Nat)
  deriving DecidableEq, Repr

def Writer.next (row : PendingRow) : List NotifyKey → Writer
  | [] => .idle
  | key :: rest => .notifying row key rest .reading

/-- Why a waiter reads the generation. -/
inductive Purpose where
  | snapshot
  | check (since : Nat)
  | deadline (since : Nat)
  deriving DecidableEq, Repr

inductive Waiter where
  | slot (purpose : Purpose) (lookup : Lookup)
  | query (since : Nat)
  | armed (since slot : Nat) (signalled : Bool)
  | requery
  | ended (outcome : Option WaitOutcome) (answer : List PendingRow)
  deriving DecidableEq, Repr

/-- `notify_waiters` on a slot reaches the waiters that are armed on it. -/
def Waiter.signal (slot : Nat) : Waiter → Waiter
  | .armed since own signalled =>
      .armed since own (signalled || own == slot)
  | waiter => waiter

structure System where
  store : List PendingRow
  /-- The last id that `AUTOINCREMENT` gave. -/
  lastId : Nat
  notifier : PendingNotifier
  writers : Nat → Writer
  waiters : Nat → Waiter

/-- No row, no slot; every writer idle and every waiter at its snapshot. -/
def System.start : System where
  store := []
  lastId := 0
  notifier := .new
  writers := fun _ => .idle
  waiters := fun _ => .slot .snapshot .reading

/-- The steps of the parties. A row leaves the store when it is acknowledged or
expires. -/
inductive Event where
  | committed (writer : Nat) (row : PendingRow)
  | found (writer : Nat)
  | added (writer : Nat) (row : PendingRow) (key : NotifyKey)
  | signalled (writer : Nat) (key : NotifyKey)
  | removed (row : PendingRow)
  | looked (waiter : Nat)
  | snapshotted (waiter : Nat)
  | queried (waiter : Nat)
  | checked (waiter : Nat)
  | woken (waiter : Nat)
  | wokenSpuriously (waiter : Nat)
  | expired (waiter : Nat)
  | deadlineChecked (waiter : Nat)
  | requeried (waiter : Nat)
  deriving DecidableEq, Repr

section Steps

variable (lowercase : String → String) (keyOf : Nat → NotifyKey)

def query (key : NotifyKey) (store : List PendingRow) : List PendingRow :=
  store.filter fun row => decide (key ∈ keys lowercase row)

def System.setWriter (state : System) (id : Nat) (writer : Writer) : System :=
  { state with writers := Function.update state.writers id writer }

def System.setWaiter (state : System) (id : Nat) (waiter : Waiter) : System :=
  { state with waiters := Function.update state.waiters id waiter }

/-- After the first query: answer, or enter `wait_since`. -/
def afterQuery (since : Nat) : List PendingRow → Waiter
  | [] => .slot (.check since) .reading
  | answer => .ended none answer

/-- The loop top of `wait_since`: return, or arm the signal. -/
def afterCheck (since slot gen : Nat) : Waiter :=
  if gen > since then .requery else .armed since slot false

/-- The deadline: a last look at the generation. -/
def afterDeadline (since gen : Nat) : Waiter :=
  if gen > since then .requery else .ended (some .timeout) []

inductive Step : System → Event → System → Prop where
  | committed (state : System) (id : Nat) (row : PendingRow)
      (stage : state.writers id = .idle)
      (fresh : row.id = state.lastId + 1) :
      Step state (.committed id row)
        { state.setWriter id (Writer.next row (keys lowercase row)) with
          store := state.store ++ [row]
          lastId := row.id }
  | found (state : System) (id : Nat) (row : PendingRow) (key : NotifyKey)
      (rest : List NotifyKey) (lookup : Lookup)
      (stage : state.writers id = .notifying row key rest lookup) :
      Step state (.found id)
        { state.setWriter id (.notifying row key rest
            (state.notifier.slotStep key lookup).2) with
          notifier := (state.notifier.slotStep key lookup).1 }
  | added (state : System) (id : Nat) (row : PendingRow) (key : NotifyKey)
      (rest : List NotifyKey) (slot : Nat)
      (stage : state.writers id = .notifying row key rest (.held slot)) :
      Step state (.added id row key)
        { state.setWriter id (.signalling row key rest slot) with
          notifier := state.notifier.fetchAdd slot }
  | signalled (state : System) (id : Nat) (row : PendingRow) (key : NotifyKey)
      (rest : List NotifyKey) (slot : Nat)
      (stage : state.writers id = .signalling row key rest slot) :
      Step state (.signalled id key)
        { state.setWriter id (Writer.next row rest) with
          waiters := fun waiter => (state.waiters waiter).signal slot }
  | removed (state : System) (row : PendingRow) :
      Step state (.removed row) { state with store := state.store.erase row }
  | looked (state : System) (id : Nat) (purpose : Purpose) (lookup : Lookup)
      (stage : state.waiters id = .slot purpose lookup) :
      Step state (.looked id)
        { state.setWaiter id (.slot purpose
            (state.notifier.slotStep (keyOf id) lookup).2) with
          notifier := (state.notifier.slotStep (keyOf id) lookup).1 }
  | snapshotted (state : System) (id slot : Nat)
      (stage : state.waiters id = .slot .snapshot (.held slot)) :
      Step state (.snapshotted id)
        (state.setWaiter id (.query (state.notifier.gens slot)))
  | queried (state : System) (id since : Nat)
      (stage : state.waiters id = .query since) :
      Step state (.queried id)
        (state.setWaiter id
          (afterQuery since (query lowercase (keyOf id) state.store)))
  | checked (state : System) (id since slot : Nat)
      (stage : state.waiters id = .slot (.check since) (.held slot)) :
      Step state (.checked id)
        (state.setWaiter id
          (afterCheck since slot (state.notifier.gens slot)))
  | woken (state : System) (id since slot : Nat)
      (stage : state.waiters id = .armed since slot true) :
      Step state (.woken id)
        (state.setWaiter id (.slot (.check since) .reading))
  | wokenSpuriously (state : System) (id since slot : Nat) (signalled : Bool)
      (stage : state.waiters id = .armed since slot signalled) :
      Step state (.wokenSpuriously id)
        (state.setWaiter id (.slot (.check since) .reading))
  | expired (state : System) (id since slot : Nat) (signalled : Bool)
      (stage : state.waiters id = .armed since slot signalled) :
      Step state (.expired id)
        (state.setWaiter id (.slot (.deadline since) .reading))
  | deadlineChecked (state : System) (id since slot : Nat)
      (stage : state.waiters id = .slot (.deadline since) (.held slot)) :
      Step state (.deadlineChecked id)
        (state.setWaiter id
          (afterDeadline since (state.notifier.gens slot)))
  | requeried (state : System) (id : Nat)
      (stage : state.waiters id = .requery) :
      Step state (.requeried id)
        (state.setWaiter id (.ended (some .woke)
          (query lowercase (keyOf id) state.store)))

end Steps

end AimailGateway.Notifier
