import AimailGateway.Library.Text

/-! # The bytes of a text's characters

Byte lengths by characters, cuts at the end of a character, and the longest
prefix within a number of bytes.
-/

namespace AimailGateway.Library.Text

/-- The number of bytes of the characters. -/
def utf8Length : List Char → Nat
  | [] => 0
  | character :: rest => character.utf8Size + utf8Length rest

@[simp] theorem utf8Length_nil : utf8Length [] = 0 := rfl

@[simp] theorem utf8Length_cons (character : Char) (rest : List Char) :
    utf8Length (character :: rest) = character.utf8Size + utf8Length rest :=
  rfl

theorem utf8Length_append (before after : List Char) :
    utf8Length (before ++ after) = utf8Length before + utf8Length after := by
  induction before with
  | nil => simp
  | cons character rest induction => simp [induction, Nat.add_assoc]

theorem eq_nil_of_utf8Length {characters : List Char}
    (none : utf8Length characters = 0) : characters = [] := by
  cases characters with
  | nil => rfl
  | cons character rest =>
      have wide : 0 < character.utf8Size := Char.utf8Size_pos character
      simp only [utf8Length_cons] at none
      omega

theorem byteLength_eq (text : String) :
    byteLength text = utf8Length text.toList := by
  rw [byteLength, bytes]
  induction text.toList with
  | nil => rfl
  | cons character rest induction =>
      simp [induction]

theorem byteLength_ofList (characters : List Char) :
    byteLength (String.ofList characters) = utf8Length characters := by
  rw [byteLength_eq, String.toList_ofList]

theorem byteLength_append (before after : List Char) :
    byteLength (String.ofList (before ++ after)) =
      byteLength (String.ofList before) +
        byteLength (String.ofList after) := by
  simp only [byteLength_ofList, utf8Length_append]

theorem splitBytes_append (before after : List Char) :
    splitBytes (before ++ after) (utf8Length before) =
      some (before, after) := by
  induction before with
  | nil =>
      cases after <;> rfl
  | cons character rest induction =>
      have wide : 0 < character.utf8Size := Char.utf8Size_pos character
      rw [utf8Length_cons, List.cons_append]
      obtain ⟨count, total⟩ :
          ∃ count, character.utf8Size + utf8Length rest = count + 1 :=
        ⟨character.utf8Size + utf8Length rest - 1, by omega⟩
      have left : count + 1 - character.utf8Size = utf8Length rest := by omega
      rw [total, splitBytes, if_pos (by omega), left, induction]
      rfl

theorem sliceTo_append (before after : List Char) :
    sliceTo (utf8Length before) (String.ofList (before ++ after)) =
      some (String.ofList before) := by
  rw [sliceTo, String.toList_ofList, splitBytes_append]
  rfl

/-! ## The longest prefix -/

/-- The result is a prefix of at most so many bytes, and every other one is a
prefix of it. -/
structure LongestPrefix (cap : Nat) (text result : String) : Prop where
  start : result.toList <+: text.toList
  fits : byteLength result ≤ cap
  longest : ∀ other : String, other.toList <+: text.toList →
    byteLength other ≤ cap → other.toList <+: result.toList

theorem LongestPrefix.whole {cap : Nat} {text : String}
    (short : byteLength text ≤ cap) : LongestPrefix cap text text where
  start := List.prefix_refl _
  fits := short
  longest := fun _ other _ => other

theorem LongestPrefix.of_full {cap : Nat} {text result : String}
    (start : result.toList <+: text.toList) (full : byteLength result = cap) :
    LongestPrefix cap text result where
  start := start
  fits := full.le
  longest := by
    intro other inside fits
    cases List.prefix_or_prefix_of_prefix inside start with
    | inl shorter => exact shorter
    | inr longer =>
        obtain ⟨tail, parts⟩ := longer
        have sizes : byteLength other = byteLength result + utf8Length tail := by
          rw [byteLength_eq, byteLength_eq, ← parts, utf8Length_append]
        have empty : tail = [] := eq_nil_of_utf8Length (by omega)
        have whole : result.toList = other.toList := by
          rw [← parts, empty, List.append_nil]
        exact whole ▸ List.prefix_rfl

end AimailGateway.Library.Text
