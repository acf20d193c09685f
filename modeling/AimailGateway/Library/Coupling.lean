import AimailGateway.Library.Action

/-! # Two runs of one action

An action is coupled when its runs from two related states end with the same
outcome and in related states. The rules follow the structure of the action.
Two actions are paired when their runs end with related values.
-/

namespace AimailGateway.Library.Action

/-- From two states related by `before`, the action ends with the same value in
states related by `ok`, or with the same error in states related by `failed`. -/
def Coupled (before : σ → σ → Prop) (action : Action σ ε α)
    (ok : α → σ → σ → Prop) (failed : ε → σ → σ → Prop) : Prop :=
  ∀ first second, before first second →
    action.Ends
      (fun value next => ∃ other,
        action.run second = (.ok value, other) ∧ ok value next other)
      (fun error next => ∃ other,
        action.run second = (.error error, other) ∧ failed error next other)
      first

variable {before : σ → σ → Prop} {ok : α → σ → σ → Prop}
  {failed : ε → σ → σ → Prop}

theorem coupled_refl (action : Action σ ε α) :
    action.Coupled Eq (fun _ => Eq) (fun _ => Eq) := by
  intro first second start
  subst start
  rw [ends_iff_run]
  exact ⟨fun value next ran => ⟨next, ran, rfl⟩,
    fun error next ran => ⟨next, ran, rfl⟩⟩

theorem coupled_pure {value : α}
    (related : ∀ first second, before first second → ok value first second) :
    (pure value : Action σ ε α).Coupled before ok failed :=
  fun first second start => ⟨second, rfl, related first second start⟩

theorem coupled_fail {error : ε}
    (related : ∀ first second, before first second →
      failed error first second) :
    (fail error : Action σ ε α).Coupled before ok failed :=
  fun first second start => ⟨second, rfl, related first second start⟩

theorem Coupled.bind {middle : β → σ → σ → Prop} {action : Action σ ε β}
    {rest : β → Action σ ε α}
    (coupled : action.Coupled before middle failed)
    (restCoupled : ∀ value, (rest value).Coupled (middle value) ok failed) :
    (action >>= rest).Coupled before ok failed := by
  intro first second start
  rw [ends_bind]
  refine (coupled first second start).mono ?_ ?_
  · rintro value next ⟨other, ran, related⟩
    have sequence : (action >>= rest).run second = (rest value).run other := by
      simp only [run, Bind.bind] at ran ⊢
      rw [ran]
    rw [sequence]
    exact restCoupled value next other related
  · rintro error next ⟨other, ran, related⟩
    refine ⟨other, ?_, related⟩
    simp only [run, Bind.bind] at ran ⊢
    rw [ran]

theorem Coupled.mono {ok' : α → σ → σ → Prop} {failed' : ε → σ → σ → Prop}
    {action : Action σ ε α} (coupled : action.Coupled before ok failed)
    (weakerOk : ∀ value first second, ok value first second →
      ok' value first second)
    (weakerFailed : ∀ error first second, failed error first second →
      failed' error first second) :
    action.Coupled before ok' failed' := by
  intro first second start
  refine (coupled first second start).mono ?_ ?_
  · rintro value next ⟨other, ran, related⟩
    exact ⟨other, ran, weakerOk value next other related⟩
  · rintro error next ⟨other, ran, related⟩
    exact ⟨other, ran, weakerFailed error next other related⟩

theorem Coupled.along {before' : σ → σ → Prop} {action : Action σ ε α}
    (coupled : action.Coupled before ok failed)
    (closer : ∀ first second, before' first second → before first second) :
    action.Coupled before' ok failed :=
  fun first second start => coupled first second (closer first second start)

theorem Coupled.withEnds {ok' : α → σ → Prop} {failed' : ε → σ → Prop}
    {action : Action σ ε α} (coupled : action.Coupled before ok failed)
    (ends : ∀ first second, before first second →
      action.Ends ok' failed' first) :
    action.Coupled before
      (fun value first second => ok value first second ∧ ok' value first)
      (fun error first second => failed error first second ∧
        failed' error first) := by
  intro first second start
  refine ((coupled first second start).and (ends first second start)).mono ?_ ?_
  · rintro value next ⟨⟨other, ran, related⟩, known⟩
    exact ⟨other, ran, related, known⟩
  · rintro error next ⟨⟨other, ran, related⟩, known⟩
    exact ⟨other, ran, related, known⟩

theorem Coupled.mapError {translate : δ → ε} {action : Action σ δ α}
    (coupled : action.Coupled before ok fun error => failed (translate error)) :
    (action.mapError translate).Coupled before ok failed := by
  intro first second start
  rw [ends_mapError]
  refine (coupled first second start).mono ?_ ?_
  · rintro value next ⟨other, ran, related⟩
    refine ⟨other, ?_, related⟩
    simp only [run, Action.mapError] at ran ⊢
    rw [ran]
  · rintro error next ⟨other, ran, related⟩
    refine ⟨other, ?_, related⟩
    simp only [run, Action.mapError] at ran ⊢
    rw [ran]

theorem Coupled.attempt {settled : Except δ α → σ → σ → Prop}
    {action : Action σ δ α}
    (coupled : action.Coupled before (fun value => settled (.ok value))
      fun error => settled (.error error)) :
    (action.attempt : Action σ ε (Except δ α)).Coupled before settled failed := by
  intro first second start
  rw [ends_attempt]
  refine (coupled first second start).mono ?_ ?_
  · rintro value next ⟨other, ran, related⟩
    refine ⟨other, ?_, related⟩
    simp only [run, Action.attempt] at ran ⊢
    rw [ran]
  · rintro error next ⟨other, ran, related⟩
    refine ⟨other, ?_, related⟩
    simp only [run, Action.attempt] at ran ⊢
    rw [ran]

/-! ## Two actions side by side -/

/-- From two states related by `before`, two actions end with values and states
related by `ok`, or with the same error in states related by `failed`. -/
def Paired (before : σ → σ → Prop) (first : Action σ ε α)
    (second : Action σ ε β) (ok : α → β → σ → σ → Prop)
    (failed : ε → σ → σ → Prop) : Prop :=
  ∀ left right, before left right →
    first.Ends
      (fun value next => ∃ value' next',
        second.run right = (.ok value', next') ∧ ok value value' next next')
      (fun error next => ∃ next',
        second.run right = (.error error, next') ∧ failed error next next')
      left

section Paired

variable {first : Action σ ε α} {second : Action σ ε β}
  {ok : α → β → σ → σ → Prop}

theorem paired_pure {value : α} {value' : β}
    (related : ∀ left right, before left right → ok value value' left right) :
    Paired before (pure value : Action σ ε α) (pure value') ok failed :=
  fun left right start => ⟨value', right, rfl, related left right start⟩

theorem Paired.bind {middle : α → β → σ → σ → Prop}
    {rest : α → Action σ ε γ} {others : β → Action σ ε δ}
    {ok : γ → δ → σ → σ → Prop}
    (paired : Paired before first second middle failed)
    (restPaired : ∀ value value', Paired (middle value value') (rest value)
      (others value') ok failed) :
    Paired before (first >>= rest) (second >>= others) ok failed := by
  intro left right start
  rw [ends_bind]
  refine (paired left right start).mono ?_ ?_
  · rintro value next ⟨value', next', ran, related⟩
    have sequence : (second >>= others).run right = (others value').run next' := by
      simp only [run, Bind.bind] at ran ⊢
      rw [ran]
    rw [sequence]
    exact restPaired value value' next next' related
  · rintro error next ⟨next', ran, related⟩
    refine ⟨next', ?_, related⟩
    simp only [run, Bind.bind] at ran ⊢
    rw [ran]

theorem Paired.mono {ok' : α → β → σ → σ → Prop} {failed' : ε → σ → σ → Prop}
    (paired : Paired before first second ok failed)
    (weakerOk : ∀ value value' left right, ok value value' left right →
      ok' value value' left right)
    (weakerFailed : ∀ error left right, failed error left right →
      failed' error left right) :
    Paired before first second ok' failed' := by
  intro left right start
  refine (paired left right start).mono ?_ ?_
  · rintro value next ⟨value', next', ran, related⟩
    exact ⟨value', next', ran, weakerOk _ _ _ _ related⟩
  · rintro error next ⟨next', ran, related⟩
    exact ⟨next', ran, weakerFailed _ _ _ related⟩

theorem Paired.assuming {fact : Prop}
    (paired : fact → Paired before first second ok failed) :
    Paired (fun left right => fact ∧ before left right) first second ok
      failed :=
  fun left right start => paired start.1 left right start.2

theorem Paired.mapError {translate : δ → ε} {first : Action σ δ α}
    {second : Action σ δ β}
    (paired : Paired before first second ok fun error =>
      failed (translate error)) :
    Paired before (first.mapError translate) (second.mapError translate) ok
      failed := by
  intro left right start
  rw [ends_mapError]
  refine (paired left right start).mono ?_ ?_
  · rintro value next ⟨value', next', ran, related⟩
    refine ⟨value', next', ?_, related⟩
    simp only [run, Action.mapError] at ran ⊢
    rw [ran]
  · rintro error next ⟨next', ran, related⟩
    refine ⟨next', ?_, related⟩
    simp only [run, Action.mapError] at ran ⊢
    rw [ran]

theorem Paired.attempt {settled : Except δ α → Except δ β → σ → σ → Prop}
    {first : Action σ δ α} {second : Action σ δ β}
    (paired : Paired before first second
      (fun value value' => settled (.ok value) (.ok value'))
      fun error => settled (.error error) (.error error)) :
    Paired before (first.attempt : Action σ ε (Except δ α)) second.attempt
      settled failed := by
  intro left right start
  rw [ends_attempt]
  refine (paired left right start).mono ?_ ?_
  · rintro value next ⟨value', next', ran, related⟩
    refine ⟨.ok value', next', ?_, related⟩
    simp only [run, Action.attempt] at ran ⊢
    rw [ran]
  · rintro error next ⟨next', ran, related⟩
    refine ⟨.error error, next', ?_, related⟩
    simp only [run, Action.attempt] at ran ⊢
    rw [ran]

theorem Paired.ignore {settled : Unit → Unit → σ → σ → Prop}
    {first : Action σ δ α} {second : Action σ δ β}
    (paired : Paired before first second (fun _ _ => settled () ())
      fun _ => settled () ()) :
    Paired before (first.ignore : Action σ ε Unit) second.ignore settled
      failed := by
  intro left right start
  rw [ends_ignore]
  refine (paired left right start).mono ?_ ?_
  · rintro value next ⟨value', next', ran, related⟩
    refine ⟨(), next', ?_, related⟩
    simp only [run, Action.ignore] at ran ⊢
    rw [ran]
  · rintro error next ⟨next', ran, related⟩
    refine ⟨(), next', ?_, related⟩
    simp only [run, Action.ignore] at ran ⊢
    rw [ran]

end Paired

theorem run_bind_congr {action : Action σ ε α} {rest rest' : α → Action σ ε β}
    {state : σ}
    (same : action.Ends
      (fun value next => (rest' value).run next = (rest value).run next)
      (fun _ _ => True) state) :
    (action >>= rest').run state = (action >>= rest).run state := by
  rw [ends_iff_run] at same
  simp only [run, Bind.bind] at same ⊢
  rcases outcome : action state with ⟨error | value, next⟩
  · rfl
  · exact same.1 value next outcome

end AimailGateway.Library.Action
