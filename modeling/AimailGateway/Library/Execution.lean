import Mathlib.Logic.Basic

/-! # Runs of labelled steps

A system is a relation `step state label next`. The file gives its runs, the
runs all of whose steps meet a condition, and the rule that carries an
invariant from one step to a whole run.
-/

namespace AimailGateway.Library

/-- `Run step first labels last`: the labels, in order, take `first` to
`last`. -/
inductive Run (step : σ → α → σ → Prop) : σ → List α → σ → Prop where
  | nil (state : σ) : Run step state [] state
  | cons {first second last : σ} {label : α} {labels : List α} :
      step first label second → Run step second labels last →
        Run step first (label :: labels) last

/-- The steps that meet a condition on the state before them and the label. -/
def Guarded (condition : σ → α → Prop) (step : σ → α → σ → Prop) :
    σ → α → σ → Prop :=
  fun state label next => condition state label ∧ step state label next

namespace Run

variable {step : σ → α → σ → Prop}

theorem invariant {holds : σ → Prop}
    (preserved : ∀ state label next, holds state → step state label next →
      holds next)
    {first last : σ} {labels : List α} (run : Run step first labels last)
    (start : holds first) : holds last := by
  induction run with
  | nil state => exact start
  | cons moved rest induction =>
      exact induction (preserved _ _ _ start moved)

theorem accumulates (holds : List α → σ → Prop)
    (preserved : ∀ past state label next, holds past state →
      step state label next → holds (past ++ [label]) next)
    {first last : σ} {labels : List α} (run : Run step first labels last)
    (start : holds [] first) : holds labels last := by
  have grows : ∀ past, holds past first → holds (past ++ labels) last := by
    clear start
    induction run with
    | nil state =>
        intro past start
        rw [List.append_nil]
        exact start
    | @cons _ _ _ label labels moved rest induction =>
        intro past start
        have whole := induction _ (preserved _ _ _ _ start moved)
        rwa [List.append_assoc, List.singleton_append] at whole
  exact grows [] start

theorem relates {relation : σ → σ → Prop}
    (reflexive : ∀ state, relation state state)
    (transitive : ∀ {first second third},
      relation first second → relation second third → relation first third)
    (related : ∀ state label next, step state label next → relation state next)
    {first last : σ} {labels : List α} (run : Run step first labels last) :
    relation first last := by
  induction run with
  | nil state => exact reflexive state
  | cons moved rest induction =>
      exact transitive (related _ _ _ moved) induction

theorem mono {other : σ → α → σ → Prop}
    (weaker : ∀ state label next, step state label next →
      other state label next)
    {first last : σ} {labels : List α} (run : Run step first labels last) :
    Run other first labels last := by
  induction run with
  | nil state => exact nil state
  | cons moved rest induction => exact cons (weaker _ _ _ moved) induction

theorem of_guarded {condition : σ → α → Prop} {first last : σ}
    {labels : List α} (run : Run (Guarded condition step) first labels last) :
    Run step first labels last := by
  exact run.mono fun _ _ _ moved => moved.2

theorem guarded {condition : σ → α → Prop} {first last : σ} {labels : List α}
    (met : ∀ state, ∀ label ∈ labels, condition state label)
    (run : Run step first labels last) :
    Run (Guarded condition step) first labels last := by
  induction run with
  | nil state => exact nil state
  | cons moved rest induction =>
      exact cons ⟨met _ _ List.mem_cons_self, moved⟩
        (induction fun state label member =>
          met state label (List.mem_cons_of_mem _ member))

theorem append {first second last : σ} {earlier later : List α}
    (run : Run step first earlier second) (rest : Run step second later last) :
    Run step first (earlier ++ later) last := by
  induction run with
  | nil state => exact rest
  | cons moved tail induction => exact cons moved (induction rest)

theorem split {first last : σ} {earlier later : List α}
    (run : Run step first (earlier ++ later) last) :
    ∃ second, Run step first earlier second ∧ Run step second later last := by
  induction earlier generalizing first with
  | nil => exact ⟨first, nil first, run⟩
  | cons label rest induction =>
      cases run with
      | cons moved tail =>
          rcases induction tail with ⟨second, start, finish⟩
          exact ⟨second, cons moved start, finish⟩

theorem unique
    (functional : ∀ state label one two, step state label one →
      step state label two → one = two)
    {first last other : σ} {labels : List α} (run : Run step first labels last)
    (second : Run step first labels other) : last = other := by
  induction run with
  | nil state =>
      cases second
      rfl
  | cons moved rest induction =>
      cases second with
      | cons also tail =>
          rw [functional _ _ _ _ moved also] at induction
          exact induction tail

theorem of_foldlM {move : σ → α → Option σ}
    (steps : ∀ state label next, move state label = some next →
      step state label next)
    {first last : σ} {labels : List α}
    (moved : labels.foldlM move first = some last) :
    Run step first labels last := by
  induction labels generalizing first with
  | nil =>
      cases moved
      exact nil _
  | cons label rest induction =>
      rw [List.foldlM_cons, Option.bind_eq_bind, Option.bind_eq_some_iff] at moved
      rcases moved with ⟨second, taken, tail⟩
      exact cons (steps _ _ _ taken) (induction tail)

end Run

end AimailGateway.Library
