import AimailGateway.Library.Utf8

/-! # Replies to commands

The reply to a board command quotes the data of its result. Data above a cap is
cut at the end of a character.
-/

namespace AimailGateway.Board

open Library

namespace CommandReplies

/-- `char_indices`, from the position of the first character. -/
def charIndices : Nat → List Char → List (Nat × Char)
  | _, [] => []
  | position, character :: rest =>
      (position, character) ::
        charIndices (position + character.utf8Size) rest

/-- The end at which the loop leaves, or runs out of characters. -/
def lastEnd (cap : Nat) : Nat → List (Nat × Char) → Nat
  | last, [] => last
  | last, (position, character) :: rest =>
      if cap ≤ position then last
      else lastEnd cap (position + character.utf8Size) rest

/-- The text up to the cap; the slice panics inside a character. -/
def truncateOnCharBoundary (text : String) (cap : Nat) : Option String :=
  if Text.byteLength text ≤ cap then some text
  else
    Text.sliceTo (lastEnd cap 0 (charIndices 0 text.toList)) text

/-! ## What the loop keeps -/

def startingBefore (cap : Nat) : Nat → List Char → List Char
  | _, [] => []
  | position, character :: rest =>
      if cap ≤ position then []
      else character ::
        startingBefore cap (position + character.utf8Size) rest

theorem lastEnd_charIndices (cap position : Nat) (characters : List Char) :
    lastEnd cap position (charIndices position characters) =
      position + Text.utf8Length (startingBefore cap position characters) := by
  induction characters generalizing position with
  | nil => rfl
  | cons character rest induction =>
      rw [charIndices, lastEnd, startingBefore]
      by_cases past : cap ≤ position
      · simp [past]
      · rw [if_neg past, if_neg past, induction, Text.utf8Length_cons,
          Nat.add_assoc]

theorem startingBefore_prefix (cap position : Nat) (characters : List Char) :
    startingBefore cap position characters <+: characters := by
  induction characters generalizing position with
  | nil => exact List.prefix_refl _
  | cons character rest induction =>
      rw [startingBefore]
      by_cases past : cap ≤ position
      · rw [if_pos past]
        exact List.nil_prefix
      · rw [if_neg past]
        exact (List.prefix_cons_inj character).mpr (induction _)

variable {cap position : Nat}

theorem cap_le_startingBefore {characters : List Char}
    (long : cap ≤ position + Text.utf8Length characters) :
    cap ≤ position +
      Text.utf8Length (startingBefore cap position characters) := by
  induction characters generalizing position with
  | nil => exact long
  | cons character rest induction =>
      rw [startingBefore]
      by_cases past : cap ≤ position
      · omega
      · rw [if_neg past, Text.utf8Length_cons, ← Nat.add_assoc]
        apply induction
        rw [Nat.add_assoc]
        exact long

theorem startingBefore_append {start rest : List Char}
    (ends : position + Text.utf8Length start = cap) :
    startingBefore cap position (start ++ rest) = start := by
  induction start generalizing position with
  | nil =>
      have past : cap ≤ position := ends.ge
      cases rest with
      | nil => rfl
      | cons character rest => rw [List.nil_append, startingBefore, if_pos past]
  | cons character start induction =>
      have wide : 0 < character.utf8Size := Char.utf8Size_pos character
      rw [Text.utf8Length_cons] at ends
      rw [List.cons_append, startingBefore, if_neg (by omega), induction]
      omega

theorem truncate_of_long {text : String} {cap : Nat}
    (long : ¬ Text.byteLength text ≤ cap) :
    truncateOnCharBoundary text cap =
      some (String.ofList (startingBefore cap 0 text.toList)) := by
  obtain ⟨tail, parts⟩ := startingBefore_prefix cap 0 text.toList
  rw [truncateOnCharBoundary, if_neg long, lastEnd_charIndices, Nat.zero_add]
  calc
    _ = Text.sliceTo _ (String.ofList
          (startingBefore cap 0 text.toList ++ tail)) := by
      rw [parts, String.ofList_toList]
    _ = _ := Text.sliceTo_append _ tail

theorem cap_le_truncated {text result : String} {cap : Nat}
    (long : ¬ Text.byteLength text ≤ cap)
    (cut : truncateOnCharBoundary text cap = some result) :
    cap ≤ Text.byteLength result := by
  rw [truncate_of_long long, Option.some.injEq] at cut
  rw [Text.byteLength_eq] at long
  rw [← cut, Text.byteLength_ofList]
  have reaches : cap ≤ 0 + Text.utf8Length
      (startingBefore cap 0 text.toList) := cap_le_startingBefore (by omega)
  omega

/-- The cut is the longest prefix within the cap exactly if the text is within
the cap or a character of it ends there. -/
theorem truncated_longest_iff (text : String) (cap : Nat) :
    (∃ result, truncateOnCharBoundary text cap = some result ∧
        Text.LongestPrefix cap text result) ↔
      Text.byteLength text ≤ cap ∨
        ∃ start : String, start.toList <+: text.toList ∧
          Text.byteLength start = cap := by
  constructor
  · rintro ⟨result, cut, longest⟩
    by_cases short : Text.byteLength text ≤ cap
    · exact .inl short
    · have reaches := cap_le_truncated short cut
      exact .inr ⟨result, longest.start, le_antisymm longest.fits reaches⟩
  · intro fits
    by_cases short : Text.byteLength text ≤ cap
    · exact ⟨text, by rw [truncateOnCharBoundary, if_pos short],
        .whole short⟩
    · obtain ⟨start, inside, full⟩ := fits.resolve_left short
      refine ⟨start, ?_, .of_full inside full⟩
      obtain ⟨rest, parts⟩ := inside
      have ends : 0 + Text.utf8Length start.toList = cap := by
        rw [Nat.zero_add, ← Text.byteLength_eq, full]
      rw [truncate_of_long short, ← parts, startingBefore_append ends,
        String.ofList_toList]

/-- Two bytes of room return all three of `aé`. -/
theorem truncated_past_cap :
    ¬ ∀ (text : String) (cap : Nat), ∃ result,
        truncateOnCharBoundary text cap = some result ∧
          Text.LongestPrefix cap text result := by
  intro longest
  obtain ⟨result, cut, kept⟩ := longest "aé" 2
  have whole : truncateOnCharBoundary "aé" 2 = some "aé" := by decide +kernel
  have wide : Text.byteLength "aé" = 3 := by decide +kernel
  rw [whole, Option.some.injEq] at cut
  have fits := kept.fits
  rw [← cut, wide] at fits
  omega

end CommandReplies

end AimailGateway.Board
