import AimailGateway.Library.Action
import AimailGateway.Library.Program

/-! # Programs that may fail

A program of atomic requests that ends with a value or an error. Run without
interruption on a state it is an action, and what holds of the action follows
from what each request does.
-/

namespace AimailGateway.Library

namespace Program

variable {Request : Type} {Answer : Request → Type} {α β : Type}

/-- Run a program without interruption. -/
def execute (perform : (question : Request) → σ → Answer question × σ) :
    Program Request Answer α → σ → α × σ
  | .done value, state => (value, state)
  | .request question next, state =>
      let outcome := perform question state
      (next outcome.1).execute perform outcome.2

theorem execute_bind {perform : (question : Request) → σ → Answer question × σ}
    (program : Program Request Answer α) (rest : α → Program Request Answer β)
    (state : σ) :
    (program.bind rest).execute perform state =
      (rest (program.execute perform state).1).execute perform
        (program.execute perform state).2 := by
  induction program generalizing state with
  | done value => rfl
  | request question next induction =>
      exact induction (perform question state).1 (perform question state).2

end Program

def Fallible (Request : Type) (Answer : Request → Type) (ε α : Type) : Type :=
  Program Request Answer (Except ε α)

namespace Fallible

variable {Request : Type} {Answer : Request → Type} {ε α β : Type}

instance : Monad (Fallible Request Answer ε) where
  pure value := Program.done (.ok value)
  bind program rest := Program.bind program fun
    | .ok value => rest value
    | .error error => .done (.error error)

instance : LawfulMonad (Fallible Request Answer ε) :=
  LawfulMonad.mk' (Fallible Request Answer ε)
    (fun program => by
      refine Eq.trans (congrArg (Program.bind program) ?_)
        (Program.bind_done program)
      funext outcome
      cases outcome with
      | ok value => rfl
      | error error => rfl)
    (fun value rest => rfl)
    (fun program first second => by
      refine (Program.bind_bind program _ _).trans ?_
      refine congrArg (Program.bind program) ?_
      funext outcome
      cases outcome with
      | ok value => rfl
      | error error => rfl)

def fail (error : ε) : Fallible Request Answer ε α :=
  Program.done (.error error)

def check (outcome : Except ε α) : Fallible Request Answer ε α :=
  Program.done outcome

def ask (question : Request) : Fallible Request Answer ε (Answer question) :=
  Program.request question fun answer => .done (.ok answer)

/-- Hand the outcome, error or value, to what follows. -/
def attempt (program : Fallible Request Answer ε α) :
    Fallible Request Answer δ (Except ε α) :=
  Program.bind program fun outcome => .done (.ok outcome)

/-- Run a program and drop its outcome, as `let _ = …` does. -/
def ignore (program : Fallible Request Answer δ α) :
    Fallible Request Answer ε Unit :=
  Program.bind program fun _ => .done (.ok ())

/-- Run a program for each element, in order, until one fails. -/
def forEach : List β → (β → Fallible Request Answer ε Unit) →
    Fallible Request Answer ε Unit
  | [], _ => pure ()
  | head :: tail, body => do
      body head
      forEach tail body

/-! ## Runs without interruption -/

def toAction (perform : (question : Request) → σ → Answer question × σ)
    (program : Fallible Request Answer ε α) : Action σ ε α :=
  Program.execute perform program

variable {perform : (question : Request) → σ → Answer question × σ}
  {ok : α → σ → Prop} {failed : ε → σ → Prop} {state : σ}

@[simp] theorem ends_pure {value : α} :
    (toAction perform (pure value : Fallible Request Answer ε α)).Ends
        ok failed state ↔ ok value state :=
  Iff.rfl

@[simp] theorem ends_fail {error : ε} :
    (toAction perform (fail error : Fallible Request Answer ε α)).Ends
        ok failed state ↔ failed error state :=
  Iff.rfl

@[simp] theorem ends_check_ok {value : α} :
    (toAction perform (check (.ok value) : Fallible Request Answer ε α)).Ends
        ok failed state ↔ ok value state :=
  Iff.rfl

@[simp] theorem ends_check_error {error : ε} :
    (toAction perform (check (.error error) : Fallible Request Answer ε α)).Ends
        ok failed state ↔ failed error state :=
  Iff.rfl

@[simp] theorem ends_ask {question : Request}
    {ok : Answer question → σ → Prop} :
    (toAction perform (ask question : Fallible Request Answer ε _)).Ends
        ok failed state ↔
      ok (perform question state).1 (perform question state).2 :=
  Iff.rfl

/-- What follows a program is handed its outcome. -/
theorem ends_handed {program : Fallible Request Answer δ β}
    {rest : Except δ β → Fallible Request Answer ε α} :
    (toAction perform (Program.bind program rest)).Ends ok failed state ↔
      (toAction perform program).Ends
        (fun value next => (toAction perform (rest (.ok value))).Ends ok failed
          next)
        (fun error next => (toAction perform (rest (.error error))).Ends ok
          failed next) state := by
  have sequence : toAction perform (Program.bind program rest) state = _ :=
    Program.execute_bind program rest state
  rw [Action.Ends, Action.Ends, sequence, toAction]
  rcases Program.execute perform program state with ⟨_ | _, next⟩
  · rfl
  · rfl

@[simp] theorem ends_bind {program : Fallible Request Answer ε β}
    {rest : β → Fallible Request Answer ε α} :
    (toAction perform (program >>= rest)).Ends ok failed state ↔
      (toAction perform program).Ends
        (fun value next => (toAction perform (rest value)).Ends ok failed next)
        failed state :=
  ends_handed

@[simp] theorem ends_attempt {program : Fallible Request Answer δ α}
    {settled : Except δ α → σ → Prop} :
    (toAction perform
        (program.attempt : Fallible Request Answer ε (Except δ α))).Ends
        settled failed state ↔
      (toAction perform program).Ends (fun value => settled (.ok value))
        (fun error => settled (.error error)) state :=
  ends_handed

@[simp] theorem ends_ignore {program : Fallible Request Answer δ α}
    {settled : Unit → σ → Prop} :
    (toAction perform
        (program.ignore : Fallible Request Answer ε Unit)).Ends
        settled failed state ↔
      (toAction perform program).Ends (fun _ => settled ())
        (fun _ => settled ()) state :=
  ends_handed

theorem ends_forEach (kept : List β → σ → Prop)
    {body : β → Fallible Request Answer ε Unit}
    (round : ∀ head tail state, kept (head :: tail) state →
      (toAction perform (body head)).Ends (fun _ next => kept tail next) failed
        state)
    {elements : List β} (start : kept elements state) :
    (toAction perform (forEach elements body)).Ends
      (fun _ next => kept [] next) failed state := by
  induction elements generalizing state with
  | nil => exact start
  | cons head tail induction =>
      rw [forEach, ends_bind]
      exact (round head tail state start).mono
        (fun _ next holds => induction holds) fun _ _ failure => failure

/-! ## Reasoning with a ghost state -/

section Ensures

variable {Ghost : Type} {rule : Program.Rule Request Answer Ghost}
  {ended : Except ε β → Ghost → Prop} {ghost : Ghost}

/-- What has to hold of the rest of a program, by the outcome of its start. -/
def Proceeds (rule : Program.Rule Request Answer Ghost)
    (rest : α → Fallible Request Answer ε β)
    (ended : Except ε β → Ghost → Prop) : Except ε α → Ghost → Prop
  | .ok value, later => Program.Ensures rule (rest value) ended later
  | .error error, later => ended (.error error) later

theorem ensures_sequence {first : Fallible Request Answer ε α}
    {rest : α → Fallible Request Answer ε β} :
    Program.Ensures rule (first >>= rest : Fallible Request Answer ε β) ended
        ghost ↔
      Program.Ensures rule first (Proceeds rule rest ended) ghost := by
  refine Program.ensures_bind.trans (iff_of_eq (congrArg
    (fun aim => Program.Ensures rule first aim ghost) ?_))
  funext outcome later
  cases outcome <;> rfl

end Ensures

end Fallible

end AimailGateway.Library
