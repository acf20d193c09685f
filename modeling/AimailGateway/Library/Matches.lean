import Mathlib.Data.List.Basic

/-! # All matches of a pattern

A text is read from the left. Where the pattern matches, the match becomes one
piece and its length is passed over; elsewhere a character is a piece of its
own. This is how a regular expression replaces all its matches.
-/

namespace AimailGateway.Library.Matches

variable {α β : Type}

/-- The characters and the matches of a text, with `skip` characters of the last
match still to pass over. A match is not empty. -/
def piecesFrom (found : List α → Option (β × Nat)) : Nat → List α → List (α ⊕ β)
  | _, [] => []
  | skip + 1, _ :: rest => piecesFrom found skip rest
  | 0, head :: rest =>
      match found (head :: rest) with
      | some (hit, length) => .inr hit :: piecesFrom found (length - 1) rest
      | none => .inl head :: piecesFrom found 0 rest

def pieces (found : List α → Option (β × Nat)) (text : List α) : List (α ⊕ β) :=
  piecesFrom found 0 text

/-- `Regex::replace_all`. -/
def replaceAll (found : List α → Option (β × Nat)) (render : β → List α)
    (text : List α) : List α :=
  (pieces found text).flatMap (Sum.elim (fun character => [character]) render)

variable {found : List α → Option (β × Nat)} {render : β → List α}

theorem piecesFrom_skip (passed rest : List α) :
    piecesFrom found passed.length (passed ++ rest) = pieces found rest := by
  induction passed with
  | nil => rfl
  | cons head tail induction => exact induction

theorem pieces_none {head : α} {rest : List α} (none : found (head :: rest) = none) :
    pieces found (head :: rest) = .inl head :: pieces found rest := by
  simp only [pieces, piecesFrom, none]

theorem pieces_some {passed rest : List α} {hit : β} (present : passed ≠ [])
    (matched : found (passed ++ rest) = some (hit, passed.length)) :
    pieces found (passed ++ rest) = .inr hit :: pieces found rest := by
  cases passed with
  | nil => exact absurd rfl present
  | cons head tail =>
      rw [List.cons_append] at matched ⊢
      simp only [pieces, piecesFrom, matched, List.length_cons,
        Nat.add_sub_cancel]
      rw [piecesFrom_skip]
      rfl

theorem replaceAll_none {head : α} {rest : List α}
    (none : found (head :: rest) = none) :
    replaceAll found render (head :: rest) =
      head :: replaceAll found render rest := by
  rw [replaceAll, pieces_none none]
  rfl

theorem replaceAll_some {passed rest : List α} {hit : β} (present : passed ≠ [])
    (matched : found (passed ++ rest) = some (hit, passed.length)) :
    replaceAll found render (passed ++ rest) =
      render hit ++ replaceAll found render rest := by
  rw [replaceAll, pieces_some present matched]
  rfl

theorem replaceAll_kept {kept rest : List α}
    (none : ∀ head tail, head :: tail <:+ kept → found (head :: tail ++ rest) = none) :
    replaceAll found render (kept ++ rest) =
      kept ++ replaceAll found render rest := by
  induction kept with
  | nil => rfl
  | cons head tail induction =>
      have here := none head tail List.suffix_rfl
      rw [List.cons_append] at here ⊢
      rw [replaceAll_none here, induction]
      · rfl
      · intro first others suffix
        exact none first others (suffix.trans (List.suffix_cons head tail))

/-- Each match is a stretch of its length at the beginning of what is read. -/
def Fits (found : List α → Option (β × Nat)) : Prop :=
  ∀ text hit length, found text = some (hit, length) →
    0 < length ∧ length ≤ text.length

theorem pieces_induction {motive : List α → List (α ⊕ β) → Prop}
    (fits : Fits found) (nil : motive [] [])
    (kept : ∀ head rest out, found (head :: rest) = none → motive rest out →
      motive (head :: rest) (.inl head :: out))
    (matched : ∀ passed rest hit out, passed ≠ [] →
      found (passed ++ rest) = some (hit, passed.length) → motive rest out →
      motive (passed ++ rest) (.inr hit :: out)) :
    ∀ text, motive text (pieces found text) := by
  have bounded : ∀ count (text : List α), text.length ≤ count →
      motive text (pieces found text) := by
    intro count
    induction count with
    | zero =>
        intro text short
        rw [List.length_eq_zero_iff.mp (Nat.le_zero.mp short)]
        exact nil
    | succ count induction =>
        intro text short
        cases text with
        | nil => exact nil
        | cons head rest =>
            rw [List.length_cons] at short
            cases outcome : found (head :: rest) with
            | none =>
                rw [pieces_none outcome]
                exact kept head rest _ outcome (induction rest (by omega))
            | some both =>
                rcases both with ⟨hit, length⟩
                rcases fits _ hit length outcome with ⟨positive, within⟩
                have cut := List.take_append_drop length (head :: rest)
                have size : ((head :: rest).take length).length = length :=
                  List.length_take_of_le within
                have present : (head :: rest).take length ≠ [] := by
                  rw [← List.length_pos_iff, size]
                  exact positive
                have shorter : ((head :: rest).drop length).length ≤ count := by
                  rw [List.length_drop, List.length_cons]
                  omega
                have again : found ((head :: rest).take length ++
                    (head :: rest).drop length) =
                    some (hit, ((head :: rest).take length).length) := by
                  rw [cut, size]
                  exact outcome
                rw [← cut, pieces_some present again]
                exact matched _ _ hit _ present again (induction _ shorter)
  exact fun text => bounded text.length text (Nat.le_refl _)

theorem replaceAll_induction {motive : List α → List α → Prop}
    (fits : Fits found) (nil : motive [] [])
    (kept : ∀ head rest out, found (head :: rest) = none → motive rest out →
      motive (head :: rest) (head :: out))
    (matched : ∀ passed rest hit out, passed ≠ [] →
      found (passed ++ rest) = some (hit, passed.length) → motive rest out →
      motive (passed ++ rest) (render hit ++ out))
    (text : List α) : motive text (replaceAll found render text) := by
  refine pieces_induction (motive := fun text out => motive text
    (out.flatMap (Sum.elim (fun character => [character]) render))) fits nil ?_ ?_
    text
  · exact fun head rest out none => kept head rest _ none
  · exact fun passed rest hit out present starts =>
      matched passed rest hit _ present starts

end AimailGateway.Library.Matches
