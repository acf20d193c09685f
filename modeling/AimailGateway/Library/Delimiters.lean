import AimailGateway.Library.HeaderBlock

/-! # Texts around a separator

Where the first and the last occurrence of a separator cut a text, and what
trimming and appending do to the cut.
-/

namespace AimailGateway.Library

namespace Text

variable {separator : Char} {text : String}

theorem containsChar_iff :
    containsChar separator text = true ↔ separator ∈ text.toList := by
  rw [containsChar, List.contains_iff_mem]

theorem containsChar_eq_false_iff :
    containsChar separator text = false ↔ separator ∉ text.toList := by
  rw [← containsChar_iff, Bool.not_eq_true]

/-! ## The first separator -/

section First

variable {before after : List Char}

theorem takeWhile_cut (absent : separator ∉ before) :
    (before ++ separator :: after).takeWhile (· != separator) = before := by
  rw [List.takeWhile_append_of_pos, List.takeWhile_cons_of_neg,
    List.append_nil]
  · simp
  · intro character member
    have different : character ≠ separator :=
      fun same => absent (same ▸ member)
    simpa using different

theorem dropWhile_cut (absent : separator ∉ before) :
    (before ++ separator :: after).dropWhile (· != separator) =
      separator :: after := by
  rw [List.dropWhile_append_of_pos, List.dropWhile_cons_of_neg]
  · simp
  · intro character member
    have different : character ≠ separator :=
      fun same => absent (same ▸ member)
    simpa using different

theorem splitOnce_cut (cut : text.toList = before ++ separator :: after)
    (absent : separator ∉ before) :
    splitOnce separator text =
      some (String.ofList before, String.ofList after) := by
  rw [splitOnce, firstPiece, cut, dropWhile_cut absent, takeWhile_cut absent]

theorem firstPiece_cut (cut : text.toList = before ++ separator :: after)
    (absent : separator ∉ before) :
    firstPiece separator text = String.ofList before := by
  rw [firstPiece, cut, takeWhile_cut absent]

theorem splitOnce_of_not_mem (absent : separator ∉ text.toList) :
    splitOnce separator text = none := by
  have all : text.toList.dropWhile (· != separator) = [] := by
    rw [List.dropWhile_eq_nil_iff]
    intro character member
    have different : character ≠ separator :=
      fun same => absent (same ▸ member)
    simpa using different
  rw [splitOnce, all]

theorem cut_of_splitOnce {first rest : String}
    (found : splitOnce separator text = some (first, rest)) :
    text.toList = first.toList ++ separator :: rest.toList ∧
      separator ∉ first.toList := by
  by_cases present : separator ∈ text.toList
  · rcases List.eq_append_cons_of_mem present with
      ⟨before, after, cut, absent⟩
    rw [splitOnce_cut cut absent] at found
    cases found
    rw [String.toList_ofList, String.toList_ofList]
    exact ⟨cut, absent⟩
  · rw [splitOnce_of_not_mem present] at found
    cases found

end First

/-! ## The last separator -/

section Last

variable {before after : List Char}

theorem rtakeWhile_cut (absent : separator ∉ after) :
    (before ++ separator :: after).rtakeWhile (· != separator) = after := by
  have mirrored : separator ∉ after.reverse := by
    rwa [List.mem_reverse]
  rw [List.rtakeWhile, List.reverse_append, List.reverse_cons,
    List.append_assoc, List.singleton_append, takeWhile_cut mirrored,
    List.reverse_reverse]

theorem lastPiece_cut (cut : text.toList = before ++ separator :: after)
    (absent : separator ∉ after) :
    lastPiece separator text = String.ofList after := by
  rw [lastPiece, cut, rtakeWhile_cut absent]

theorem exists_last_cut {characters : List Char}
    (present : separator ∈ characters) :
    ∃ before after, characters = before ++ separator :: after ∧
      separator ∉ after := by
  rcases List.eq_append_cons_of_mem (List.mem_reverse.mpr present) with
    ⟨after, before, cut, absent⟩
  refine ⟨before.reverse, after.reverse, ?_, by rwa [List.mem_reverse]⟩
  rw [← List.reverse_reverse characters, cut]
  simp

theorem not_mem_lastPiece : separator ∉ (lastPiece separator text).toList := by
  by_cases present : separator ∈ text.toList
  · rcases exists_last_cut present with ⟨before, after, cut, absent⟩
    rw [lastPiece_cut cut absent, String.toList_ofList]
    exact absent
  · rw [lastPiece_of_not_contains (containsChar_eq_false_iff.mpr present)]
    exact present

end Last

/-! ## Trimmed texts -/

def trimEnd (text : String) : String :=
  String.ofList (text.toList.rdropWhile isWhitespace)

theorem trim_trimEnd (text : String) : trim (trimEnd text) = trim text := by
  rw [trimEnd, HeaderBlock.trim_dropped, String.ofList_toList]

theorem dropWhile_solid {before after : List Char}
    (solid : isWhitespace separator = false) :
    (before ++ separator :: after).dropWhile isWhitespace =
      before.dropWhile isWhitespace ++ separator :: after := by
  rw [List.dropWhile_append]
  split
  · next blank =>
      rw [List.isEmpty_iff.mp blank, List.nil_append,
        List.dropWhile_cons_of_neg]
      simp [solid]
  · rfl

theorem rdropWhile_solid {before after : List Char}
    (solid : isWhitespace separator = false) :
    (before ++ separator :: after).rdropWhile isWhitespace =
      before ++ separator :: after.rdropWhile isWhitespace := by
  have ends : (before ++ [separator]).getLast? = some separator := by
    rw [List.getLast?_concat]
  have kept : (before ++ [separator] ++ after).rdropWhile isWhitespace =
      before ++ [separator] ++ after.rdropWhile isWhitespace :=
    HeaderBlock.rdropWhile_append ends solid
  rwa [List.append_assoc, List.append_assoc, List.singleton_append,
    List.singleton_append] at kept

theorem trim_cut {before after : List Char}
    (solid : isWhitespace separator = false)
    (cut : text.toList = before ++ separator :: after) :
    (trim text).toList = before.dropWhile isWhitespace ++
      separator :: after.rdropWhile isWhitespace := by
  rw [trim, String.toList_ofList, cut, dropWhile_solid solid,
    rdropWhile_solid solid]

theorem splitOnce_trim {first rest : String}
    (solid : isWhitespace separator = false)
    (found : splitOnce separator text = some (first, rest)) :
    splitOnce separator (trim text) =
      some (trimStart first, trimEnd rest) := by
  rcases cut_of_splitOnce found with ⟨cut, absent⟩
  have kept : separator ∉ first.toList.dropWhile isWhitespace :=
    fun member => absent ((List.dropWhile_suffix _).subset member)
  rw [splitOnce_cut (trim_cut solid cut) kept, trimStart, trimEnd]

theorem mem_dropWhile_solid {characters : List Char}
    (solid : isWhitespace separator = false) :
    separator ∈ characters.dropWhile isWhitespace ↔ separator ∈ characters := by
  constructor
  · exact fun member => (List.dropWhile_suffix _).subset member
  · intro member
    rcases List.append_of_mem member with ⟨before, after, rfl⟩
    rw [dropWhile_solid solid]
    simp

theorem mem_trim (solid : isWhitespace separator = false) :
    separator ∈ (trim text).toList ↔ separator ∈ text.toList := by
  constructor
  · intro member
    rw [trim, String.toList_ofList] at member
    exact (List.dropWhile_suffix _).subset
      ((List.rdropWhile_prefix _ _).subset member)
  · intro member
    rcases List.append_of_mem member with ⟨before, after, cut⟩
    rw [trim_cut solid cut]
    simp

theorem splitOnce_trim_eq_none (solid : isWhitespace separator = false)
    (missing : splitOnce separator text = none) :
    splitOnce separator (trim text) = none := by
  apply splitOnce_of_not_mem
  rw [mem_trim solid]
  intro present
  rcases List.eq_append_cons_of_mem present with ⟨before, after, cut, absent⟩
  rw [splitOnce_cut cut absent] at missing
  cases missing

theorem trim_trimStart : trim (trimStart text) = trim text := by
  rw [trim, trim, trimStart, String.toList_ofList,
    List.dropWhile_idempotent isWhitespace]

theorem length_trim_le (text : String) :
    (trim text).length ≤ text.length := by
  rw [← String.length_toList, ← String.length_toList, trim,
    String.toList_ofList]
  exact le_trans (List.rdropWhile_prefix _ _).length_le
    (List.dropWhile_suffix _).length_le

theorem splitOnce_trimEnd {first rest : String}
    (solid : isWhitespace separator = false)
    (found : splitOnce separator text = some (first, rest)) :
    splitOnce separator (trimEnd text) = some (first, trimEnd rest) := by
  rcases cut_of_splitOnce found with ⟨cut, absent⟩
  have kept : (trimEnd text).toList = first.toList ++
      separator :: rest.toList.rdropWhile isWhitespace := by
    rw [trimEnd, String.toList_ofList, cut, rdropWhile_solid solid]
  rw [splitOnce_cut kept absent, String.ofList_toList, trimEnd]

theorem splitOnce_trimEnd_eq_none
    (missing : separator ∉ text.toList) :
    splitOnce separator (trimEnd text) = none := by
  apply splitOnce_of_not_mem
  rw [trimEnd, String.toList_ofList]
  exact fun member => missing ((List.rdropWhile_prefix _ _).subset member)

/-! ## Pieces -/

theorem splitOn_append {first last : List Char}
    (absent : separator ∉ last) :
    (first ++ last).splitOn separator =
      (first.splitOn separator).dropLast ++
        [first.rtakeWhile (· != separator) ++ last] := by
  by_cases present : separator ∈ first
  · rcases exists_last_cut present with ⟨before, after, rfl, free⟩
    have joined : separator ∉ after ++ last := by
      rw [List.mem_append]
      exact fun member => member.elim free absent
    rw [List.append_assoc, List.cons_append, List.splitOn_append_cons_self,
      List.splitOn_append_cons_self, List.splitOn_eq_singleton joined,
      List.splitOn_eq_singleton free, List.dropLast_concat,
      rtakeWhile_cut free]
  · have joined : separator ∉ first ++ last := by
      rw [List.mem_append]
      exact fun member => member.elim present absent
    have whole : first.rtakeWhile (· != separator) = first := by
      rw [List.rtakeWhile_eq_self_iff]
      intro character member
      have different : character ≠ separator :=
        fun same => present (same ▸ member)
      simpa using different
    rw [List.splitOn_eq_singleton joined, List.splitOn_eq_singleton present,
      whole, List.dropLast_singleton, List.nil_append]

theorem split_append {first last : String}
    (absent : separator ∉ last.toList) :
    split separator (first ++ last) =
      (split separator first).dropLast ++
        [lastPiece separator first ++ last] := by
  rw [split, String.toList_append, splitOn_append absent, List.map_append,
    List.map_dropLast, List.map_singleton, String.ofList_append,
    String.ofList_toList]
  rfl

theorem subset_of_mem_splitOn {characters piece : List Char}
    (listed : piece ∈ characters.splitOn separator) : piece ⊆ characters := by
  induction characters generalizing piece with
  | nil =>
      rw [List.splitOn_nil, List.mem_singleton] at listed
      rw [listed]
      exact List.Subset.refl _
  | cons head tail induction =>
      rw [List.splitOn_cons_eq_if_modifyHead] at listed
      split at listed
      · rcases List.mem_cons.mp listed with empty | later
        · rw [empty]
          exact List.nil_subset _
        · exact List.subset_cons_of_subset head (induction later)
      · cases pieces : tail.splitOn separator with
        | nil => exact absurd pieces (List.splitOn_ne_nil separator tail)
        | cons first others =>
            rw [pieces] at induction listed
            rcases List.mem_cons.mp listed with longer | later
            · rw [longer]
              exact List.cons_subset_cons head
                (induction (List.mem_cons_self ..))
            · exact List.subset_cons_of_subset head
                (induction (List.mem_cons_of_mem first later))

theorem mem_of_mem_split {piece : String} {character : Char}
    (listed : piece ∈ split separator text)
    (member : character ∈ piece.toList) : character ∈ text.toList := by
  rcases List.mem_map.mp listed with ⟨characters, cut, rfl⟩
  rw [String.toList_ofList] at member
  exact subset_of_mem_splitOn cut member

end Text

end AimailGateway.Library
