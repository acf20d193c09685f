import Mathlib.Logic.Basic

/-! # Stateful computations that may fail

An action reads and changes a state and ends with a value or an error. An
error keeps the changes made before it, as a failed request keeps the
statements it has already executed. The file gives the two ways to reason
about an action: `Ends` states what holds when it ends, and `Moves` what
relates the state before it to the state after it.
-/

namespace AimailGateway.Library

/-- A computation over a state `σ` that ends with an `α` or an error `ε`. -/
def Action (σ ε α : Type) : Type :=
  σ → Except ε α × σ

namespace Action

def run (action : Action σ ε α) (state : σ) : Except ε α × σ :=
  action state

instance : Monad (Action σ ε) where
  pure value := fun state => (.ok value, state)
  bind action rest := fun state =>
    match action state with
    | (.ok value, next) => rest value next
    | (.error error, next) => (.error error, next)

instance : LawfulMonad (Action σ ε) :=
  LawfulMonad.mk' (Action σ ε)
    (fun action => by
      funext state
      simp only [Functor.map]
      rcases action state with ⟨_ | _, next⟩ <;> rfl)
    (fun _ _ => rfl)
    (fun action first second => by
      funext state
      simp only [bind]
      rcases action state with ⟨_ | _, next⟩ <;> rfl)

/-- End with an error, leaving the state as it is. -/
def fail (error : ε) : Action σ ε α :=
  fun state => (.error error, state)

def mapError (translate : ε → δ) (action : Action σ ε α) : Action σ δ α :=
  fun state =>
    match action state with
    | (.ok value, next) => (.ok value, next)
    | (.error error, next) => (.error (translate error), next)

/-- Run an action and hand its outcome, error or value, to what follows. -/
def attempt (action : Action σ ε α) : Action σ δ (Except ε α) :=
  fun state =>
    match action state with
    | (outcome, next) => (.ok outcome, next)

/-- Run an action and drop its outcome, as `let _ = …` does. -/
def ignore (action : Action σ ε α) : Action σ δ Unit :=
  fun state => (.ok (), (action state).2)

/-- An action of its own: the outcome of a pure check. -/
def check (outcome : Except ε α) : Action σ ε α :=
  fun state => (outcome, state)

def when (action : Action σ ε Unit) (condition : Bool) : Action σ ε Unit :=
  if condition then action else pure ()

def optionally (action : α → Action σ ε Unit) : Option α → Action σ ε Unit
  | some value => action value
  | none => pure ()

/-! ## What holds when an action ends -/

/-- `action` started in `state` ends with a value and a state that satisfy
`ok`, or with an error and a state that satisfy `failed`. -/
def Ends (action : Action σ ε α) (ok : α → σ → Prop) (failed : ε → σ → Prop)
    (state : σ) : Prop :=
  match action state with
  | (.ok value, next) => ok value next
  | (.error error, next) => failed error next

variable {ok : α → σ → Prop} {failed : ε → σ → Prop} {state : σ}

@[simp] theorem ends_pure {value : α} :
    (pure value : Action σ ε α).Ends ok failed state ↔ ok value state :=
  Iff.rfl

@[simp] theorem ends_fail {error : ε} :
    (fail error : Action σ ε α).Ends ok failed state ↔ failed error state :=
  Iff.rfl

@[simp] theorem ends_bind {action : Action σ ε β} {rest : β → Action σ ε α} :
    (action >>= rest).Ends ok failed state ↔
      action.Ends (fun value next => (rest value).Ends ok failed next)
        failed state := by
  simp only [Ends, bind]
  rcases action state with ⟨_ | _, next⟩ <;> rfl

@[simp] theorem ends_mapError {translate : δ → ε} {action : Action σ δ α} :
    (action.mapError translate).Ends ok failed state ↔
      action.Ends ok (fun error => failed (translate error)) state := by
  simp only [Ends, mapError]
  rcases action state with ⟨_ | _, next⟩ <;> rfl

@[simp] theorem ends_attempt {action : Action σ δ α}
    {settled : Except δ α → σ → Prop} :
    (action.attempt : Action σ ε (Except δ α)).Ends settled failed state ↔
      action.Ends (fun value => settled (.ok value))
        (fun error => settled (.error error)) state := by
  simp only [Ends, attempt]
  rcases action state with ⟨_ | _, next⟩ <;> rfl

@[simp] theorem ends_ignore {action : Action σ δ α}
    {settled : Unit → σ → Prop} :
    (action.ignore : Action σ ε Unit).Ends settled failed state ↔
      action.Ends (fun _ => settled ()) (fun _ => settled ()) state := by
  simp only [Ends, ignore]
  rcases action state with ⟨_ | _, next⟩ <;> rfl

theorem ends_when {condition : Bool} {action : Action σ ε Unit}
    {ok : Unit → σ → Prop} :
    (action.when condition).Ends ok failed state ↔
      (condition = true → action.Ends ok failed state) ∧
        (condition = false → ok () state) := by
  cases condition <;> simp [when]

@[simp] theorem ends_check_ok {value : α} :
    (check (.ok value) : Action σ ε α).Ends ok failed state ↔
      ok value state :=
  Iff.rfl

@[simp] theorem ends_check_error {error : ε} :
    (check (.error error) : Action σ ε α).Ends ok failed state ↔
      failed error state :=
  Iff.rfl

theorem ends_check {outcome : Except ε α} :
    (check outcome : Action σ ε α).Ends ok failed state ↔
      (∀ value, outcome = .ok value → ok value state) ∧
        (∀ error, outcome = .error error → failed error state) := by
  cases outcome <;> simp

theorem Ends.mono {action : Action σ ε α}
    {ok' : α → σ → Prop} {failed' : ε → σ → Prop}
    (ends : action.Ends ok failed state)
    (weakerOk : ∀ value next, ok value next → ok' value next)
    (weakerFailed : ∀ error next, failed error next → failed' error next) :
    action.Ends ok' failed' state := by
  unfold Ends at ends ⊢
  rcases outcome : action state with ⟨error | value, next⟩
  · rw [outcome] at ends
    exact weakerFailed error next ends
  · rw [outcome] at ends
    exact weakerOk value next ends

theorem ends_iff_run {action : Action σ ε α} :
    action.Ends ok failed state ↔
      (∀ value next, action.run state = (.ok value, next) → ok value next) ∧
        (∀ error next, action.run state = (.error error, next) →
          failed error next) := by
  unfold Ends run
  rcases action state with ⟨error | value, next⟩ <;> simp

theorem ends_any {action : Action σ ε α} (succeeds : ∀ value next, ok value next)
    (fails : ∀ error next, failed error next) : action.Ends ok failed state :=
  ends_iff_run.mpr ⟨fun value next _ => succeeds value next,
    fun error next _ => fails error next⟩

theorem ends_next {action : Action σ ε β} {rest : β → Action σ ε α}
    (ends : ∀ value next, (rest value).Ends ok (fun _ _ => True) next) :
    (action >>= rest).Ends ok (fun _ _ => True) state :=
  ends_bind.mpr (ends_any ends fun _ _ => trivial)

/-- How the action ends, where its answer does not matter. -/
theorem ends_settled {action : Action σ ε α} {settled : σ → Prop} :
    action.Ends (fun _ => settled) (fun _ => settled) state ↔
      settled (action.run state).2 := by
  unfold Ends run
  rcases action state with ⟨error | value, next⟩ <;> rfl

theorem Ends.after {action : Action σ ε α} {holds : σ → Prop}
    (ends : action.Ends (fun _ => holds) (fun _ => holds) state) :
    holds (action.run state).2 :=
  ends_settled.mp ends

theorem Ends.of_ok {action : Action σ ε α} {value : α} {next : σ}
    (ends : action.Ends ok failed state)
    (result : action.run state = (.ok value, next)) :
    ok value next :=
  (ends_iff_run.mp ends).1 value next result

theorem Ends.traced {action : Action σ ε α}
    (ends : action.Ends ok failed state) :
    action.Ends (fun value next =>
      action state = (.ok value, next) ∧ ok value next) failed state := by
  unfold Ends at ends ⊢
  split
  · next value next reached =>
      rw [reached] at ends
      exact ⟨reached, ends⟩
  · next error next reached =>
      rw [reached] at ends
      exact ends

theorem Ends.and {action : Action σ ε α}
    {ok' : α → σ → Prop} {failed' : ε → σ → Prop}
    (ends : action.Ends ok failed state) (ends' : action.Ends ok' failed' state) :
    action.Ends (fun value next => ok value next ∧ ok' value next)
      (fun error next => failed error next ∧ failed' error next) state := by
  rw [ends_iff_run] at ends ends' ⊢
  exact ⟨fun value next ran => ⟨ends.1 value next ran, ends'.1 value next ran⟩,
    fun error next ran => ⟨ends.2 error next ran, ends'.2 error next ran⟩⟩

/-! ## Which errors an action ends with -/

/-- Every error `action` can end with is allowed. -/
def Fails (allowed : ε → Prop) (action : Action σ ε α) : Prop :=
  ∀ state, action.Ends (fun _ _ => True) (fun error _ => allowed error) state

section Fails

variable {allowed : ε → Prop}

theorem Fails.ends {action : Action σ ε α} (fails : action.Fails allowed)
    (ends : action.Ends ok (fun error next => allowed error → failed error next)
      state) : action.Ends ok failed state :=
  (ends.and (fails state)).mono (fun _ _ both => both.1)
    fun _ _ both => both.1 both.2

theorem Fails.bind {action : Action σ ε α} {rest : α → Action σ ε β}
    (fails : action.Fails allowed) (restFails : ∀ value, (rest value).Fails allowed) :
    (action >>= rest).Fails allowed := by
  intro state
  rw [ends_bind]
  exact (fails state).mono (fun value next _ => restFails value next)
    (fun _ _ fits => fits)

end Fails

/-! ## How an action moves the state -/

/-- Every run of `action` relates the state before it to the state after. -/
def Moves (relation : σ → σ → Prop) (action : Action σ ε α) : Prop :=
  ∀ state, relation state (action.run state).2

section Moves

variable {relation : σ → σ → Prop}

theorem moves_iff_ends {action : Action σ ε α} :
    action.Moves relation ↔
      ∀ state, action.Ends (fun _ next => relation state next)
        (fun _ next => relation state next) state := by
  exact forall_congr' fun _ => ends_settled.symm

theorem moves_pure (reflexive : ∀ state, relation state state) (value : α) :
    (pure value : Action σ ε α).Moves relation :=
  reflexive

theorem moves_fail (reflexive : ∀ state, relation state state) (error : ε) :
    (fail error : Action σ ε α).Moves relation :=
  reflexive

theorem moves_check (reflexive : ∀ state, relation state state)
    (outcome : Except ε α) :
    (check outcome : Action σ ε α).Moves relation :=
  reflexive

theorem Moves.bind
    (transitive : ∀ {first second third},
      relation first second → relation second third → relation first third)
    {action : Action σ ε α} {rest : α → Action σ ε β}
    (moves : action.Moves relation)
    (restMoves : ∀ value, (rest value).Moves relation) :
    (action >>= rest).Moves relation := by
  intro state
  have moved := moves state
  simp only [run, Bind.bind] at moved ⊢
  rcases outcome : action state with ⟨error | value, next⟩
  · simpa [outcome] using moved
  · rw [outcome] at moved
    exact transitive moved (restMoves value next)

theorem Moves.mapError {translate : ε → δ} {action : Action σ ε α}
    (moves : action.Moves relation) :
    (action.mapError translate).Moves relation := by
  rw [moves_iff_ends] at moves ⊢
  intro state
  rw [ends_mapError]
  exact moves state

theorem Moves.attempt {action : Action σ ε α}
    (moves : action.Moves relation) :
    (action.attempt : Action σ δ (Except ε α)).Moves relation := by
  rw [moves_iff_ends] at moves ⊢
  intro state
  rw [ends_attempt]
  exact moves state

theorem Moves.ignore {action : Action σ ε α}
    (moves : action.Moves relation) :
    (action.ignore : Action σ δ Unit).Moves relation := by
  rw [moves_iff_ends] at moves ⊢
  intro state
  rw [ends_ignore]
  exact moves state

end Moves

end Action

end AimailGateway.Library
