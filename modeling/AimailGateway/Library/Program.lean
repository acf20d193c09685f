import AimailGateway.Library.Execution

/-! # Programs made of atomic requests

A program is what a thread still has to do: it has ended, or it asks a request
and continues with the answer. A thread can be stopped, or another one run,
between any two requests. `Ensures` reasons about a program with a ghost state
that a rule for the requests carries along.
-/

namespace AimailGateway.Library

inductive Program (Request : Type) (Answer : Request → Type) (α : Type) where
  | done (value : α)
  | request (question : Request)
      (next : Answer question → Program Request Answer α)

namespace Program

variable {Request : Type} {Answer : Request → Type} {α β γ : Type}

def bind (program : Program Request Answer α)
    (rest : α → Program Request Answer β) : Program Request Answer β :=
  match program with
  | .done value => rest value
  | .request question next => .request question fun answer =>
      (next answer).bind rest

instance : Monad (Program Request Answer) where
  pure := .done
  bind := bind

theorem bind_done (program : Program Request Answer α) :
    program.bind .done = program := by
  induction program with
  | done value => rfl
  | request question next induction =>
      rw [bind]
      congr
      funext answer
      exact induction answer

theorem bind_bind (program : Program Request Answer α)
    (second : α → Program Request Answer β)
    (third : β → Program Request Answer γ) :
    (program.bind second).bind third =
      program.bind fun value => (second value).bind third := by
  induction program with
  | done value => rfl
  | request question next induction =>
      simp only [bind]
      congr
      funext answer
      exact induction answer

instance : LawfulMonad (Program Request Answer) :=
  LawfulMonad.mk' _ bind_done (fun _ _ => rfl) bind_bind

def ask (question : Request) : Program Request Answer (Answer question) :=
  .request question .done

/-- Run a program for each element, in order. -/
def forEach : List β → (β → Program Request Answer Unit) →
    Program Request Answer Unit
  | [], _ => pure ()
  | head :: tail, body => do
      body head
      forEach tail body

def when (condition : Bool) (program : Program Request Answer Unit) :
    Program Request Answer Unit :=
  if condition then program else pure ()

/-! ## Reasoning with a ghost state -/

/-- What a request needs of the ghost state and leaves in it, for each
answer. -/
def Rule (Request : Type) (Answer : Request → Type) (Ghost : Type) : Type :=
  (question : Request) → Ghost → (Answer question → Ghost → Prop) → Prop

/-- A weaker aim is met where a stronger one is. -/
def Rule.Monotone {Ghost : Type} (rule : Rule Request Answer Ghost) : Prop :=
  ∀ question ghost (strong weak : Answer question → Ghost → Prop),
    (∀ answer next, strong answer next → weak answer next) →
      rule question ghost strong → rule question ghost weak

variable {Ghost : Type} {rule : Rule Request Answer Ghost}

/-- Along every sequence of answers the requests keep to the rule, and the
program ends as `ended` says. -/
def Ensures (rule : Rule Request Answer Ghost) :
    Program Request Answer α → (α → Ghost → Prop) → Ghost → Prop
  | .done value, ended, ghost => ended value ghost
  | .request question next, ended, ghost =>
      rule question ghost fun answer later =>
        Ensures rule (next answer) ended later

@[simp] theorem ensures_pure {value : α} {ended : α → Ghost → Prop}
    {ghost : Ghost} :
    Ensures rule (pure value : Program Request Answer α) ended ghost ↔
      ended value ghost :=
  Iff.rfl

@[simp] theorem ensures_ask {question : Request}
    {ended : Answer question → Ghost → Prop} {ghost : Ghost} :
    Ensures rule (ask question) ended ghost ↔ rule question ghost ended :=
  Iff.rfl

@[simp] theorem ensures_bind {program : Program Request Answer α}
    {rest : α → Program Request Answer β} {ended : β → Ghost → Prop}
    {ghost : Ghost} :
    Ensures rule (program >>= rest) ended ghost ↔
      Ensures rule program
        (fun value later => Ensures rule (rest value) ended later) ghost := by
  have equal : Ensures rule (program.bind rest) ended =
      Ensures rule program
        (fun value later => Ensures rule (rest value) ended later) := by
    induction program with
    | done value => rfl
    | request question next induction =>
        funext ghost
        simp only [bind, Ensures, induction]
  exact iff_of_eq (congrFun equal ghost)

theorem Ensures.mono (monotone : rule.Monotone)
    {program : Program Request Answer α} {strong weak : α → Ghost → Prop}
    {ghost : Ghost} (ensures : Ensures rule program strong ghost)
    (weaker : ∀ value later, strong value later → weak value later) :
    Ensures rule program weak ghost := by
  induction program generalizing ghost with
  | done value => exact weaker value ghost ensures
  | request question next induction =>
      exact monotone question ghost _ _
        (fun answer later holds => induction answer holds) ensures

theorem ensures_forEach (monotone : rule.Monotone)
    (kept : List β → Ghost → Prop) {body : β → Program Request Answer Unit}
    (round : ∀ head tail ghost, kept (head :: tail) ghost →
      Ensures rule (body head) (fun _ later => kept tail later) ghost)
    {elements : List β} {ghost : Ghost} (start : kept elements ghost) :
    Ensures rule (forEach elements body) (fun _ later => kept [] later)
      ghost := by
  induction elements generalizing ghost with
  | nil => exact start
  | cons head tail induction =>
      rw [forEach, ensures_bind]
      exact (round head tail ghost start).mono monotone
        fun _ later holds => induction holds

/-! ## Requests that are asked -/

/-- Along every sequence of answers only allowed requests are asked. -/
def Asks (allowed : Request → Prop) : Program Request Answer α → Prop
  | .done _ => True
  | .request question next =>
      allowed question ∧ ∀ answer, Asks allowed (next answer)

theorem Asks.bind {allowed : Request → Prop} {program : Program Request Answer α}
    {rest : α → Program Request Answer β} (first : Asks allowed program)
    (second : ∀ value, Asks allowed (rest value)) :
    Asks allowed (program >>= rest) := by
  induction program with
  | done value => exact second value
  | request question next induction =>
      exact ⟨first.1, fun answer => induction answer (first.2 answer)⟩

theorem Asks.mono {strong weak : Request → Prop} {program : Program Request Answer α}
    (asks : Asks strong program)
    (weaker : ∀ question, strong question → weak question) :
    Asks weak program := by
  induction program with
  | done value => trivial
  | request question next induction =>
      exact ⟨weaker question asks.1, fun answer => induction answer (asks.2 answer)⟩

theorem asks_forEach {allowed : Request → Prop}
    {body : β → Program Request Answer Unit}
    (asks : ∀ element, Asks allowed (body element)) (elements : List β) :
    Asks allowed (forEach elements body) := by
  induction elements with
  | nil => trivial
  | cons head tail induction =>
      rw [forEach]
      exact (asks head).bind fun _ => induction

theorem Asks.keeps {allowed : Request → Prop} {program : Program Request Answer α}
    {ghost : Ghost} (asks : Asks allowed program)
    (plain : ∀ question (aim : Answer question → Ghost → Prop),
      allowed question → (∀ answer, aim answer ghost) → rule question ghost aim) :
    Ensures rule program (fun _ later => later = ghost) ghost := by
  induction program with
  | done value => rfl
  | request question next induction =>
      exact plain question _ asks.1 fun answer => induction answer (asks.2 answer)

/-! ## Running alone -/

section Run

variable {σ : Type}
  {perform : (question : Request) → σ → Answer question × σ}

def run (perform : (question : Request) → σ → Answer question × σ) :
    Program Request Answer α → σ → α × σ
  | .done value, state => (value, state)
  | .request question next, state =>
      run perform (next (perform question state).1) (perform question state).2

theorem run_bind {program : Program Request Answer α}
    {rest : α → Program Request Answer β} {state : σ} :
    run perform (program >>= rest) state =
      run perform (rest (run perform program state).1)
        (run perform program state).2 := by
  change run perform (program.bind rest) state = _
  induction program generalizing state with
  | done value => rfl
  | request question next induction =>
      simp only [bind, run, induction]

theorem run_ask {question : Request} {state : σ} :
    run perform (ask question) state = perform question state :=
  rfl

theorem run_forEach_cons {head : β} {tail : List β}
    {body : β → Program Request Answer Unit} {state : σ} :
    run perform (forEach (head :: tail) body) state =
      run perform (forEach tail body) (run perform (body head) state).2 := by
  rw [forEach, run_bind]

theorem Asks.run_keeps {allowed : Request → Prop} {kept : σ → Prop}
    {program : Program Request Answer α} {state : σ}
    (asks : Asks allowed program)
    (preserved : ∀ question state, allowed question → kept state →
      kept (perform question state).2)
    (start : kept state) : kept (run perform program state).2 := by
  induction program generalizing state with
  | done value => exact start
  | request question next induction =>
      exact induction _ (asks.2 _) (preserved question state asks.1 start)

theorem run_keeps {kept : σ → Prop} {program : Program Request Answer α}
    {state : σ}
    (preserved : ∀ question state, kept state → kept (perform question state).2)
    (start : kept state) : kept (run perform program state).2 := by
  induction program generalizing state with
  | done value => exact start
  | request question next induction =>
      exact induction _ (preserved question state start)

end Run

end Program

end AimailGateway.Library
