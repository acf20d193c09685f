import AimailGateway.Library.Text

/-! # The header of a message

The lines before the first empty one, and the fields on them. A field goes on
over the lines after it that start with a blank.
-/

namespace AimailGateway.Library

namespace HeaderBlock

def headerLines (message : String) : List String :=
  (Text.lines message).takeWhile (· != "")

def isContinuation (line : String) : Bool :=
  Text.startsWith " " line || Text.startsWith "\t" line

/-- The lines that continue a field before them, and the fields that start on
the rest, each with its continuation. -/
def folded : List String → List String × List (String × List String)
  | [] => ([], [])
  | line :: rest =>
      match folded rest with
      | (continued, fields) =>
          if isContinuation line then (line :: continued, fields)
          else ([], (line, continued) :: fields)

def fieldValue (name : String) (field : String × List String) : Option String :=
  match Text.splitOnce ':' field.1 with
  | some (key, value) =>
      if Text.eqIgnoreAsciiCase key name then
        some (Text.trim (value ++ String.join field.2))
      else none
  | none => none

/-- The value of the first field of the name in the header. -/
def value (name message : String) : Option String :=
  (folded (headerLines message)).2.findSome? (fieldValue name)

/-- The text after the colon of a line that starts with the name, without
regard to blanks around the line. -/
def lineValue (name line : String) : Option String :=
  Text.afterStart (name ++ ":") (Text.trim line)

/-! ## Trimmed text -/

theorem trim_dropped (text : List Char) :
    Text.trim (String.ofList (text.rdropWhile Text.isWhitespace)) =
      Text.trim (String.ofList text) := by
  simp only [Text.trim, String.toList_ofList]
  congr 1
  induction text using List.reverseRecOn with
  | nil => rfl
  | append_singleton text last induction =>
      by_cases blank : Text.isWhitespace last = true
      · rw [List.rdropWhile_concat_pos _ _ _ blank, induction]
        by_cases empty : text.dropWhile Text.isWhitespace = []
        · have all := List.dropWhile_eq_nil_iff.mp empty
          have none : (text ++ [last]).dropWhile Text.isWhitespace = [] := by
            rw [List.dropWhile_eq_nil_iff]
            intro character member
            rcases List.mem_append.mp member with old | new
            · exact all character old
            · rw [List.mem_singleton.mp new]
              exact blank
          rw [empty, none]
        · have split : (text ++ [last]).dropWhile Text.isWhitespace =
              text.dropWhile Text.isWhitespace ++ [last] := by
            rw [List.dropWhile_append, if_neg]
            rwa [List.isEmpty_iff]
          rw [split, List.rdropWhile_concat_pos _ _ _ blank]
      · rw [List.rdropWhile_concat_neg _ _ _ blank]

theorem rdropWhile_append {start text : List Char} {last : Char}
    (ends : start.getLast? = some last)
    (solid : Text.isWhitespace last = false) :
    (start ++ text).rdropWhile Text.isWhitespace =
      start ++ text.rdropWhile Text.isWhitespace := by
  induction text using List.reverseRecOn with
  | nil =>
      rcases List.getLast?_eq_some_iff.mp ends with ⟨before, same⟩
      rw [List.append_nil, same, List.rdropWhile_nil, List.append_nil,
        List.rdropWhile_concat_neg _ _ _ (by simp [solid])]
  | append_singleton text final induction =>
      rw [← List.append_assoc]
      by_cases blank : Text.isWhitespace final = true
      · rw [List.rdropWhile_concat_pos _ _ _ blank,
          List.rdropWhile_concat_pos _ _ _ blank, induction]
      · rw [List.rdropWhile_concat_neg _ _ _ blank,
          List.rdropWhile_concat_neg _ _ _ blank, List.append_assoc]

theorem trim_withoutReturn (line : List Char) :
    Text.trim (String.ofList (Text.withoutReturn line)) =
      Text.trim (String.ofList line) := by
  rw [Text.withoutReturn]
  split
  · next returns =>
      rcases List.getLast?_eq_some_iff.mp (beq_iff_eq.mp returns) with
        ⟨before, same⟩
      subst same
      rw [List.dropLast_concat, ← trim_dropped (before ++ ['\r']),
        List.rdropWhile_concat_pos _ _ _ (by decide), trim_dropped]
  · rfl

/-! ## A value on one line -/

/-- A name that can stand before a colon. -/
structure FieldName (name : String) : Prop where
  solid : ∀ head ∈ (name ++ ":").toList.head?, Text.isWhitespace head = false
  plain : ':' ∉ name.toList

variable {name message line : String}

theorem lineValue_empty : lineValue name "" = none := by
  have missing : Text.startsWith (name ++ ":") (Text.trim "") = false := by
    have blank : Text.trim "" = "" := by decide
    rw [blank, Text.startsWith, String.toList_append]
    cases name.toList <;> rfl
  rw [lineValue, Text.afterStart, missing]
  rfl

theorem findSome?_lines :
    (Text.split '\n' message).findSome? (lineValue name) =
      (Text.lines message).findSome? (lineValue name) := by
  have same : (fun piece => lineValue name
        (String.ofList (Text.withoutReturn piece))) =
      fun piece => lineValue name (String.ofList piece) := by
    funext piece
    rw [lineValue, lineValue, trim_withoutReturn]
  rw [Text.split, Text.lines]
  simp only [List.findSome?_map, List.map_append, List.findSome?_append,
    Function.comp_def, List.map_map]
  rw [same]
  cases pieces : message.toList.splitOn '\n' using List.reverseRecOn with
  | nil => rfl
  | append_singleton start last =>
      rw [List.dropLast_concat, List.getLast?_concat, List.findSome?_append]
      congr 1
      by_cases empty : last = []
      · subst empty
        simp [Option.filter, lineValue_empty]
      · simp [Option.filter, empty]

theorem folded_append {before after : List String}
    (starts : isContinuation line = false) :
    folded (before ++ line :: after) =
      ((folded before).1, (folded before).2 ++
        (line, (folded after).1) :: (folded after).2) := by
  induction before with
  | nil => simp [folded, starts]
  | cons head tail induction =>
      simp only [List.cons_append, folded, induction]
      split
      · rfl
      · rfl

/-- The first line of the message that gives a value to the name is the first
field of the name in the header and stands alone, or there is neither. -/
def OnOneLine (name message : String) : Prop :=
  ((∀ line ∈ Text.lines message, lineValue name line = none) ∧
      value name message = none) ∨
    ∃ before line after, headerLines message = before ++ line :: after ∧
      Text.startsWith (name ++ ":") line = true ∧
      (∀ other ∈ before, lineValue name other = none) ∧
      (folded before).2.findSome? (fieldValue name) = none ∧
      (folded after).1 = []

theorem startsWith_iff {start text : String} :
    Text.startsWith start text = true ↔
      ∃ rest, text.toList = start.toList ++ rest := by
  rw [Text.startsWith, List.isPrefixOf_iff_prefix]
  exact ⟨fun ⟨rest, same⟩ => ⟨rest, same.symm⟩,
    fun ⟨rest, same⟩ => ⟨rest, same.symm⟩⟩

theorem lineValue_field (named : FieldName name) {rest : List Char}
    (whole : line.toList = (name ++ ":").toList ++ rest) :
    (lineValue name line).map Text.trim = some (Text.trim (String.ofList rest)) ∧
      fieldValue name (line, []) = some (Text.trim (String.ofList rest)) ∧
      isContinuation line = false := by
  have colon : (name ++ ":").toList = name.toList ++ [':'] :=
    String.toList_append
  have ends : (name ++ ":").toList.getLast? = some ':' := by
    rw [colon, List.getLast?_concat]
  cases start : (name ++ ":").toList with
  | nil =>
      rw [start] at ends
      cases ends
  | cons head tail =>
      have solid : Text.isWhitespace head = false :=
        named.solid head (by rw [start]; rfl)
      have trimmed : Text.trim line =
          String.ofList ((name ++ ":").toList ++
            rest.rdropWhile Text.isWhitespace) := by
        rw [Text.trim, whole, ← rdropWhile_append ends (by decide)]
        rw [start, List.cons_append, List.dropWhile_cons_of_neg (by simp [solid])]
      refine ⟨?_, ?_, ?_⟩
      · have begins : Text.startsWith (name ++ ":") (Text.trim line) = true :=
          startsWith_iff.mpr ⟨_, by rw [trimmed, String.toList_ofList]⟩
        rw [lineValue, Text.afterStart, if_pos begins, trimmed,
          String.toList_ofList, List.drop_left, Option.map_some, trim_dropped]
      · have after : line.toList.dropWhile (· != ':') = ':' :: rest := by
          rw [whole, colon, List.append_assoc, List.dropWhile_append_of_pos]
          · rfl
          · intro character member
            rw [bne_iff_ne]
            intro same
            exact named.plain (same ▸ member)
        have before : Text.firstPiece ':' line = name := by
          rw [Text.firstPiece, whole, colon, List.append_assoc,
            List.takeWhile_append_of_pos]
          · simp
          · intro character member
            rw [bne_iff_ne]
            intro same
            exact named.plain (same ▸ member)
        simp only [fieldValue, Text.splitOnce, after, before]
        rw [if_pos (by simp [Text.eqIgnoreAsciiCase])]
        simp
      · have first : ∀ blank : Char, Text.isWhitespace blank = true →
            Text.startsWith (String.ofList [blank]) line = false := by
          intro blank white
          rw [Text.startsWith, whole, start, String.toList_ofList]
          have other : ¬ blank = head := by
            intro same
            rw [same, solid] at white
            cases white
          simp [List.isPrefixOf, other]
        rw [isContinuation, Bool.or_eq_false_iff]
        exact ⟨first ' ' (by decide), first '\t' (by decide)⟩

theorem OnOneLine.value_eq (named : FieldName name)
    (plain : OnOneLine name message) :
    ((Text.split '\n' message).findSome? (lineValue name)).map Text.trim =
      value name message := by
  rw [findSome?_lines]
  rcases plain with ⟨silent, missing⟩ |
    ⟨before, line, after, header, starts, silent, missing, alone⟩
  · rw [missing, List.findSome?_eq_none_iff.mpr silent]
    rfl
  · rcases startsWith_iff.mp starts with ⟨rest, whole⟩
    rcases lineValue_field named whole with ⟨read, field, starting⟩
    rcases List.takeWhile_prefix (· != "") (l := Text.lines message) with
      ⟨body, lines⟩
    rw [headerLines] at header
    rw [header] at lines
    rw [value, headerLines, header, folded_append starting, alone,
      List.findSome?_append, missing, Option.none_or, List.findSome?_cons, field,
      ← lines, List.append_assoc, List.findSome?_append,
      List.findSome?_eq_none_iff.mpr silent, Option.none_or, List.cons_append,
      List.findSome?_cons]
    cases given : lineValue name line with
    | none =>
        rw [given] at read
        cases read
    | some text =>
        rw [given] at read
        exact read

end HeaderBlock

end AimailGateway.Library
