import Mathlib.Data.List.Infix
import AimailGateway.Library.Sql

/-! # Replacing a part of a text

What one pass of `replace` does to a text, and to a text in which some
characters are spelled by several.
-/

namespace AimailGateway.Library.Sql

section Passes

variable {old new : List Char}

theorem replaceFrom_skip (old new passed rest : List Char) :
    replaceFrom old new passed.length (passed ++ rest) =
      replaceFrom old new 0 rest := by
  induction passed with
  | nil => rfl
  | cons head tail induction =>
      rw [List.length_cons, List.cons_append, replaceFrom, induction]

theorem replaceFrom_match (nonempty : old ≠ []) (rest : List Char) :
    replaceFrom old new 0 (old ++ rest) =
      new ++ replaceFrom old new 0 rest := by
  cases old with
  | nil => exact absurd rfl nonempty
  | cons head tail =>
      rw [List.cons_append, replaceFrom, if_pos (by simp),
        List.length_cons, Nat.add_sub_cancel, replaceFrom_skip]

theorem replaceFrom_other {head : Char} {rest : List Char}
    (other : ¬ old <+: head :: rest) :
    replaceFrom old new 0 (head :: rest) =
      head :: replaceFrom old new 0 rest := by
  rw [replaceFrom, if_neg]
  rwa [List.isPrefixOf_iff_prefix]

theorem replacement_cases (old : List Char) (nonempty : old ≠ [])
    {motive : List Char → Prop} (nil : motive [])
    (found : ∀ rest, motive rest → motive (old ++ rest))
    (other : ∀ head rest, ¬ old <+: head :: rest → motive rest →
      motive (head :: rest)) (text : List Char) : motive text := by
  induction size : text.length using Nat.strongRecOn generalizing text with
  | ind count induction =>
      cases text with
      | nil => exact nil
      | cons head tail =>
          by_cases starts : old <+: head :: tail
          · obtain ⟨rest, parts⟩ := starts
            have long : 0 < old.length := List.length_pos_iff.mpr nonempty
            have sum := congrArg List.length parts
            rw [List.length_append] at sum
            rw [← parts]
            exact found rest (induction rest.length (by omega) rest rfl)
          · apply other head tail starts
            apply induction tail.length _ tail rfl
            rw [← size, List.length_cons]
            omega

theorem replaceFrom_of_not_infix {text : List Char}
    (absent : ¬ old <:+: text) : replaceFrom old new 0 text = text := by
  induction text with
  | nil => rfl
  | cons head tail induction =>
      have here : ¬ old <+: head :: tail := fun starts =>
        absent starts.isInfix
      have later : ¬ old <:+: tail := fun inside =>
        absent (inside.trans (List.infix_cons (List.infix_refl tail)))
      rw [replaceFrom_other here, induction later]

theorem length_replaceFrom_le (shorter : new.length < old.length)
    (text : List Char) :
    (replaceFrom old new 0 text).length ≤ text.length := by
  have nonempty : old ≠ [] := List.length_pos_iff.mp (by omega)
  induction text using replacement_cases old nonempty with
  | nil => exact Nat.le_refl _
  | found rest induction =>
      rw [replaceFrom_match nonempty, List.length_append, List.length_append]
      omega
  | other head rest different induction =>
      rw [replaceFrom_other different, List.length_cons, List.length_cons]
      omega

theorem not_infix_of_length_replaceFrom (shorter : new.length < old.length)
    {text : List Char}
    (same : (replaceFrom old new 0 text).length = text.length) :
    ¬ old <:+: text := by
  have nonempty : old ≠ [] := List.length_pos_iff.mp (by omega)
  induction text using replacement_cases old nonempty with
  | nil =>
      rw [List.infix_nil]
      exact nonempty
  | found rest induction =>
      have bound := length_replaceFrom_le shorter rest
      rw [replaceFrom_match nonempty, List.length_append,
        List.length_append] at same
      omega
  | other head rest different induction =>
      rw [replaceFrom_other different, List.length_cons, List.length_cons,
        Nat.add_right_cancel_iff] at same
      rw [List.infix_cons_iff, not_or]
      exact ⟨different, induction same⟩

end Passes

/-! ## Several passes -/

/-- One pass after the other, each over the result of the one before. -/
def replaceAll (pairs : List (List Char × List Char)) (text : List Char) :
    List Char :=
  pairs.foldl (fun current pair => replaceFrom pair.1 pair.2 0 current) text

theorem length_replaceAll_le {pairs : List (List Char × List Char)}
    (shorter : ∀ pair ∈ pairs, pair.2.length < pair.1.length)
    (text : List Char) : (replaceAll pairs text).length ≤ text.length := by
  induction pairs generalizing text with
  | nil => exact Nat.le_refl _
  | cons pair pairs induction =>
      calc
        _ ≤ (replaceFrom pair.1 pair.2 0 text).length :=
          induction (fun other inside =>
            shorter other (List.mem_cons_of_mem pair inside)) _
        _ ≤ text.length :=
          length_replaceFrom_le (shorter pair List.mem_cons_self) text

theorem replaceAll_eq_self_iff {pairs : List (List Char × List Char)}
    (shorter : ∀ pair ∈ pairs, pair.2.length < pair.1.length)
    (text : List Char) :
    replaceAll pairs text = text ↔ ∀ pair ∈ pairs, ¬ pair.1 <:+: text := by
  induction pairs with
  | nil => simp [replaceAll]
  | cons pair pairs induction =>
      have first := shorter pair List.mem_cons_self
      have others : ∀ other ∈ pairs, other.2.length < other.1.length :=
        fun other inside => shorter other (List.mem_cons_of_mem pair inside)
      constructor
      · intro same
        have later := length_replaceAll_le others
          (replaceFrom pair.1 pair.2 0 text)
        have now := length_replaceFrom_le first text
        have size := congrArg List.length same
        have absent : ¬ pair.1 <:+: text :=
          not_infix_of_length_replaceFrom first (le_antisymm now (by
            rw [← size]
            exact later))
        have rest : replaceAll pairs text = text := by
          rwa [replaceAll, List.foldl_cons,
            replaceFrom_of_not_infix absent] at same
        intro other inside
        cases List.mem_cons.mp inside with
        | inl here => rwa [here]
        | inr later => exact (induction others).mp rest other later
      · intro absent
        have here := absent pair List.mem_cons_self
        rw [replaceAll, List.foldl_cons, replaceFrom_of_not_infix here]
        exact (induction others).mpr fun other inside =>
          absent other (List.mem_cons_of_mem pair inside)

/-! ## Characters spelled by several -/

/-- No occurrence of the old part begins in the piece, whatever follows. -/
def Apart (old piece : List Char) : Prop :=
  ∀ tail ∈ piece.tails, tail = [] ∨
    (tail.isPrefixOf old = false ∧ old.isPrefixOf tail = false)

instance (old piece : List Char) : Decidable (Apart old piece) :=
  inferInstanceAs (Decidable (∀ tail ∈ piece.tails, tail = [] ∨
    (tail.isPrefixOf old = false ∧ old.isPrefixOf tail = false)))

theorem Apart.tail {old rest : List Char} {head : Char}
    (apart : Apart old (head :: rest)) : Apart old rest := by
  intro tail inside
  apply apart
  rw [List.mem_tails] at inside ⊢
  exact inside.trans (List.suffix_cons head rest)

theorem apart_singleton {head character : Char} {tail : List Char}
    (different : character ≠ head) : Apart (head :: tail) [character] := by
  intro piece inside
  rw [List.tails_cons, List.mem_cons] at inside
  cases inside with
  | inl whole =>
      right
      constructor
      · simp [whole, List.isPrefixOf, different]
      · simp [whole, List.isPrefixOf, different.symm]
  | inr empty => exact .inl (List.mem_singleton.mp empty)

theorem Apart.replaceFrom {old new piece : List Char}
    (apart : Apart old piece) (rest : List Char) :
    replaceFrom old new 0 (piece ++ rest) =
      piece ++ replaceFrom old new 0 rest := by
  induction piece with
  | nil => rfl
  | cons head tail induction =>
      have differs : ¬ old <+: head :: (tail ++ rest) := by
        intro starts
        cases apart (head :: tail) (by rw [List.mem_tails]) with
        | inl empty => cases empty
        | inr both =>
            have short := List.prefix_or_prefix_of_prefix starts
              (List.prefix_append (head :: tail) rest)
            rw [← List.isPrefixOf_iff_prefix, ← List.isPrefixOf_iff_prefix,
              both.1, both.2] at short
            cases short with
            | inl impossible => cases impossible
            | inr impossible => cases impossible
      rw [List.cons_append, replaceFrom_other differs, induction apart.tail,
        List.cons_append]

theorem replaceFrom_flatMap_apart {old new : List Char}
    {spell : Char → List Char}
    (apart : ∀ character, Apart old (spell character)) (text : List Char) :
    replaceFrom old new 0 (text.flatMap spell) = text.flatMap spell := by
  induction text with
  | nil => rfl
  | cons head tail induction =>
      rw [List.flatMap_cons, (apart head).replaceFrom, induction]

theorem replaceFrom_flatMap {old : List Char} {mark : Char}
    {spell after : Char → List Char} (nonempty : old ≠ [])
    (spelled : spell mark = old) (plain : after mark = [mark])
    (others : ∀ character, character ≠ mark →
      spell character = after character ∧ Apart old (spell character))
    (text : List Char) :
    replaceFrom old [mark] 0 (text.flatMap spell) = text.flatMap after := by
  induction text with
  | nil => rfl
  | cons head tail induction =>
      rw [List.flatMap_cons, List.flatMap_cons]
      by_cases here : head = mark
      · rw [here, spelled, plain, replaceFrom_match nonempty, induction]
      · obtain ⟨same, apart⟩ := others head here
        rw [apart.replaceFrom, induction, same]

/-- Every spelling of more than the character begins with the lead. -/
structure Spelling (lead : Char) (spell : Char → List Char) : Prop where
  each : ∀ character, spell character = [character] ∨
    ∃ more, spell character = lead :: more

theorem Spelling.prefix_of_flatMap {lead : Char} {spell : Char → List Char}
    (spelling : Spelling lead spell) {piece text : List Char}
    (plain : lead ∉ piece) (starts : piece <+: text.flatMap spell) :
    piece <+: text := by
  induction piece generalizing text with
  | nil => exact List.nil_prefix
  | cons head tail induction =>
      rw [List.mem_cons, not_or] at plain
      cases text with
      | nil => simp at starts
      | cons character rest =>
          rw [List.flatMap_cons] at starts
          cases spelling.each character with
          | inl single =>
              rw [single, List.singleton_append, List.cons_prefix_cons] at starts
              rw [List.cons_prefix_cons]
              exact ⟨starts.1, induction plain.2 starts.2⟩
          | inr several =>
              obtain ⟨more, spelled⟩ := several
              rw [spelled, List.cons_append, List.cons_prefix_cons] at starts
              exact absurd starts.1.symm plain.1

theorem flatMap_of_single {spell : Char → List Char} {text : List Char}
    (single : ∀ character ∈ text, spell character = [character]) :
    text.flatMap spell = text := by
  induction text with
  | nil => rfl
  | cons head tail induction =>
      rw [List.flatMap_cons, single head List.mem_cons_self,
        induction fun character inside =>
          single character (List.mem_cons_of_mem head inside)]
      rfl

theorem replaceFrom_flatMap_plain {lead mark : Char} {tail : List Char}
    {spell after : Char → List Char} (spelling : Spelling lead spell)
    (once : lead ∉ tail) (spelled : spell mark = lead :: tail)
    (plain : after mark = [mark])
    (single : ∀ character ∈ lead :: tail, spell character = [character])
    (others : ∀ character, character ≠ mark →
      spell character = after character ∧
        (spell character = [character] ∨
          Apart (lead :: tail) (spell character)))
    (text : List Char) :
    replaceFrom (lead :: tail) [mark] 0 (text.flatMap spell) =
      (replaceFrom (lead :: tail) [mark] 0 text).flatMap after := by
  have nonempty : lead :: tail ≠ [] := List.cons_ne_nil lead tail
  induction text using replacement_cases (lead :: tail) nonempty with
  | nil => rfl
  | found rest induction =>
      rw [List.flatMap_append, flatMap_of_single single,
        replaceFrom_match nonempty, replaceFrom_match nonempty, induction,
        List.flatMap_append, List.flatMap_singleton, plain]
  | other head rest different induction =>
      rw [List.flatMap_cons, replaceFrom_other different, List.flatMap_cons]
      by_cases here : head = mark
      · rw [here, spelled, plain, replaceFrom_match nonempty, induction]
      · obtain ⟨same, kind⟩ := others head here
        cases kind with
        | inr apart => rw [apart.replaceFrom, induction, same]
        | inl alone =>
            have absent : ¬ lead :: tail <+: head :: rest.flatMap spell := by
              intro starts
              rw [List.cons_prefix_cons] at starts
              apply different
              rw [List.cons_prefix_cons]
              exact ⟨starts.1, spelling.prefix_of_flatMap once starts.2⟩
            rw [← same, alone, List.singleton_append, List.singleton_append,
              replaceFrom_other absent, induction]

theorem replaceFrom_singleton (mark : Char) (new text : List Char) :
    replaceFrom [mark] new 0 text =
      text.flatMap fun character =>
        if character = mark then new else [character] := by
  induction text with
  | nil => rfl
  | cons head tail induction =>
      rw [List.flatMap_cons, ← induction]
      by_cases here : head = mark
      · rw [if_pos here, here]
        exact replaceFrom_match (List.cons_ne_nil mark []) tail
      · rw [if_neg here, replaceFrom_other]
        · rfl
        · intro starts
          rw [List.cons_prefix_cons] at starts
          exact here starts.1.symm

end AimailGateway.Library.Sql
