import Mathlib.Data.Bool.AllAny
import AimailGateway.Library.Replacement
import AimailGateway.Library.Text

/-! # HTML entities

A body that leaves has its markup characters escaped. Two decoders take the
entities of an incoming body back, each by one replacement after the other.
-/

namespace AimailGateway.Email

open Library

namespace Entities

/-- `bodyproc::decode_html_entities`. -/
def decodeHtmlEntities (text : String) : String :=
  let text := Sql.replace text "&nbsp;" " "
  let text := Sql.replace text "&amp;" "&"
  let text := Sql.replace text "&gt;" ">"
  let text := Sql.replace text "&lt;" "<"
  let text := Sql.replace text "&quot;" "\""
  Sql.replace text "&#39;" "'"

/-- The decoding step of `utils::html_to_markdown`. -/
def htmlToMarkdownEntities (html : String) : String :=
  let result := Sql.replace html "&lt;" "<"
  let result := Sql.replace result "&gt;" ">"
  let result := Sql.replace result "&amp;" "&"
  let result := Sql.replace result "&quot;" "\""
  let result := Sql.replace result "&apos;" "'"
  Sql.replace result "&nbsp;" " "

/-- The escaping at the start of `markdown_to_html`. -/
def markdownToHtmlEscape (markdown : String) : String :=
  let result := Sql.replace markdown "&" "&amp;"
  let result := Sql.replace result "<" "&lt;"
  Sql.replace result ">" "&gt;"

/-! ## The escaped text -/

/-- The spelling of a character when some of the three are escaped. -/
def escapeChar (ampersand less greater : Bool) (character : Char) : List Char :=
  if ampersand && character == '&' then "&amp;".toList
  else if less && character == '<' then "&lt;".toList
  else if greater && character == '>' then "&gt;".toList
  else [character]

theorem escapeChar_other {ampersand less greater : Bool} {character : Char}
    (notAmpersand : character ≠ '&') (notLess : character ≠ '<')
    (notGreater : character ≠ '>') :
    escapeChar ampersand less greater character = [character] := by
  simp [escapeChar, notAmpersand, notLess, notGreater]

theorem forall_character {holds : Char → Prop} (ampersand : holds '&')
    (less : holds '<') (greater : holds '>')
    (other : ∀ character, character ≠ '&' → character ≠ '<' →
      character ≠ '>' → holds character) (character : Char) :
    holds character := by
  by_cases first : character = '&'
  · rwa [first]
  by_cases second : character = '<'
  · rwa [second]
  by_cases third : character = '>'
  · rwa [third]
  exact other character first second third

theorem escaped_toList (text : String) :
    (markdownToHtmlEscape text).toList =
      text.toList.flatMap (escapeChar true true true) := by
  simp only [markdownToHtmlEscape, Sql.replace, String.toList_ofList]
  rw [show "&".toList = ['&'] from rfl, show "<".toList = ['<'] from rfl,
    show ">".toList = ['>'] from rfl, Sql.replaceFrom_singleton,
    Sql.replaceFrom_singleton, Sql.replaceFrom_singleton, List.flatMap_assoc,
    List.flatMap_assoc]
  congr 1
  funext character
  induction character using forall_character with
  | ampersand => decide
  | less => decide
  | greater => decide
  | other character notAmpersand notLess notGreater =>
      simp [escapeChar, notAmpersand, notLess, notGreater]

theorem escapeChar_spelling (ampersand less greater : Bool) :
    Sql.Spelling '&' (escapeChar ampersand less greater) where
  each := by
    intro character
    rw [escapeChar]
    split
    · exact .inr ⟨_, rfl⟩
    · split
      · exact .inr ⟨_, rfl⟩
      · split
        · exact .inr ⟨_, rfl⟩
        · exact .inl rfl

theorem others_apart {tail : List Char} {mark : Char}
    {ampersand less greater ampersand' less' greater' : Bool}
    (three : ∀ character ∈ ['&', '<', '>'], character ≠ mark →
      escapeChar ampersand less greater character =
          escapeChar ampersand' less' greater' character ∧
        Sql.Apart ('&' :: tail)
          (escapeChar ampersand less greater character))
    (character : Char) (different : character ≠ mark) :
    escapeChar ampersand less greater character =
        escapeChar ampersand' less' greater' character ∧
      Sql.Apart ('&' :: tail)
        (escapeChar ampersand less greater character) := by
  induction character using forall_character with
  | ampersand => exact three '&' (by decide) different
  | less => exact three '<' (by decide) different
  | greater => exact three '>' (by decide) different
  | other character notAmpersand notLess notGreater =>
      rw [escapeChar_other notAmpersand notLess notGreater,
        escapeChar_other notAmpersand notLess notGreater]
      exact ⟨rfl, Sql.apart_singleton notAmpersand⟩

theorem others_plain {tail : List Char} {mark : Char}
    {less greater less' greater' : Bool}
    (three : ∀ character ∈ ['&', '<', '>'], character ≠ mark →
      escapeChar false less greater character =
          escapeChar false less' greater' character ∧
        (escapeChar false less greater character = [character] ∨
          Sql.Apart ('&' :: tail) (escapeChar false less greater character)))
    (character : Char) (different : character ≠ mark) :
    escapeChar false less greater character =
        escapeChar false less' greater' character ∧
      (escapeChar false less greater character = [character] ∨
        Sql.Apart ('&' :: tail)
          (escapeChar false less greater character)) := by
  induction character using forall_character with
  | ampersand => exact three '&' (by decide) different
  | less => exact three '<' (by decide) different
  | greater => exact three '>' (by decide) different
  | other character notAmpersand notLess notGreater =>
      rw [escapeChar_other notAmpersand notLess notGreater,
        escapeChar_other notAmpersand notLess notGreater]
      exact ⟨rfl, .inl rfl⟩

/-! ## The decoder of text bodies -/

/-- What the decoder of text bodies still replaces in the text that was
escaped. -/
def bodyPairs : List (List Char × List Char) :=
  [("&gt;".toList, ">".toList), ("&lt;".toList, "<".toList),
    ("&quot;".toList, "\"".toList), ("&#39;".toList, "'".toList)]

/-- An escaped text has no `&nbsp;`. -/
theorem replace_nbsp (text : List Char) :
    Sql.replaceFrom "&nbsp;".toList " ".toList 0
        (text.flatMap (escapeChar true true true)) =
      text.flatMap (escapeChar true true true) := by
  apply Sql.replaceFrom_flatMap_apart
  intro character
  induction character using forall_character with
  | ampersand => decide
  | less => decide
  | greater => decide
  | other character notAmpersand notLess notGreater =>
      rw [escapeChar_other notAmpersand notLess notGreater]
      exact Sql.apart_singleton notAmpersand

theorem replace_amp_first (text : List Char) :
    Sql.replaceFrom "&amp;".toList "&".toList 0
        (text.flatMap (escapeChar true true true)) =
      text.flatMap (escapeChar false true true) := by
  apply Sql.replaceFrom_flatMap
  · decide
  · decide
  · decide
  · exact others_apart (List.all_iff_forall_prop.mp (by decide))

/-- The pass for `&gt;` also replaces the ones that the text had. -/
theorem replace_gt_after (text : List Char) :
    Sql.replaceFrom "&gt;".toList ">".toList 0
        (text.flatMap (escapeChar false true true)) =
      (Sql.replaceFrom "&gt;".toList ">".toList 0 text).flatMap
        (escapeChar false true false) := by
  apply Sql.replaceFrom_flatMap_plain (escapeChar_spelling false true true)
  · decide
  · decide
  · decide
  · exact List.all_iff_forall_prop.mp (by decide)
  · exact others_plain (List.all_iff_forall_prop.mp (by decide))

theorem replace_lt_after (text : List Char) :
    Sql.replaceFrom "&lt;".toList "<".toList 0
        (text.flatMap (escapeChar false true false)) =
      (Sql.replaceFrom "&lt;".toList "<".toList 0 text).flatMap
        (escapeChar false false false) := by
  apply Sql.replaceFrom_flatMap_plain (escapeChar_spelling false true false)
  · decide
  · decide
  · decide
  · exact List.all_iff_forall_prop.mp (by decide)
  · exact others_plain (List.all_iff_forall_prop.mp (by decide))

theorem flatMap_unescaped (text : List Char) :
    text.flatMap (escapeChar false false false) = text := by
  apply Sql.flatMap_of_single
  intro character _
  rfl

/-- The decoder of text bodies undoes the escaping and decodes the text itself
from `&gt;` on. -/
theorem decodeHtmlEntities_escaped (text : String) :
    (decodeHtmlEntities (markdownToHtmlEscape text)).toList =
      Sql.replaceAll bodyPairs text.toList := by
  simp only [decodeHtmlEntities, Sql.replace, String.toList_ofList]
  rw [escaped_toList, replace_nbsp, replace_amp_first, replace_gt_after,
    replace_lt_after, flatMap_unescaped]
  rfl

/-! ## The decoder of HTML bodies -/

/-- What the decoder of HTML bodies still replaces in the text that was
escaped. -/
def htmlPairs : List (List Char × List Char) :=
  [("&quot;".toList, "\"".toList), ("&apos;".toList, "'".toList),
    ("&nbsp;".toList, " ".toList)]

theorem replace_lt_first (text : List Char) :
    Sql.replaceFrom "&lt;".toList "<".toList 0
        (text.flatMap (escapeChar true true true)) =
      text.flatMap (escapeChar true false true) := by
  apply Sql.replaceFrom_flatMap
  · decide
  · decide
  · decide
  · exact others_apart (List.all_iff_forall_prop.mp (by decide))

theorem replace_gt_before (text : List Char) :
    Sql.replaceFrom "&gt;".toList ">".toList 0
        (text.flatMap (escapeChar true false true)) =
      text.flatMap (escapeChar true false false) := by
  apply Sql.replaceFrom_flatMap
  · decide
  · decide
  · decide
  · exact others_apart (List.all_iff_forall_prop.mp (by decide))

/-- The ampersands come back after the angle brackets, so that `&lt;` in the
text stays. -/
theorem replace_amp_last (text : List Char) :
    Sql.replaceFrom "&amp;".toList "&".toList 0
        (text.flatMap (escapeChar true false false)) = text := by
  calc
    _ = text.flatMap (escapeChar false false false) := by
      apply Sql.replaceFrom_flatMap
      · decide
      · decide
      · decide
      · exact others_apart (List.all_iff_forall_prop.mp (by decide))
    _ = text := flatMap_unescaped text

/-- The decoder of HTML bodies undoes the escaping and decodes the text itself
from `&quot;` on. -/
theorem htmlToMarkdownEntities_escaped (text : String) :
    (htmlToMarkdownEntities (markdownToHtmlEscape text)).toList =
      Sql.replaceAll htmlPairs text.toList := by
  simp only [htmlToMarkdownEntities, Sql.replace, String.toList_ofList]
  rw [escaped_toList, replace_lt_first, replace_gt_before, replace_amp_last]
  rfl

/-! ## Texts that come back -/

theorem containsText_eq_false_iff (part text : String) :
    Text.containsText part text = false ↔ ¬ part.toList <:+: text.toList := by
  rw [Text.containsText, List.any_eq_false, List.infix_iff_prefix_suffix]
  simp only [List.mem_tails, List.isPrefixOf_iff_prefix, not_exists, not_and]
  constructor
  · intro absent tail starts ends
    exact absent tail ends starts
  · intro absent tail ends starts
    exact absent tail starts ends

/-- Both decoders return an escaped text exactly if it has none of the
entities that they decode after the ampersand. -/
theorem decoded_escaped_iff (text : String) :
    (decodeHtmlEntities (markdownToHtmlEscape text) = text ∧
        htmlToMarkdownEntities (markdownToHtmlEscape text) = text) ↔
      (∀ entity ∈ ["&gt;", "&lt;", "&quot;", "&#39;"],
          Text.containsText entity text = false) ∧
        ∀ entity ∈ ["&quot;", "&apos;", "&nbsp;"],
          Text.containsText entity text = false := by
  have body : decodeHtmlEntities (markdownToHtmlEscape text) = text ↔
      ∀ pair ∈ bodyPairs, ¬ pair.1 <:+: text.toList := by
    rw [← String.toList_inj, decodeHtmlEntities_escaped]
    exact Sql.replaceAll_eq_self_iff (by decide) text.toList
  have html : htmlToMarkdownEntities (markdownToHtmlEscape text) = text ↔
      ∀ pair ∈ htmlPairs, ¬ pair.1 <:+: text.toList := by
    rw [← String.toList_inj, htmlToMarkdownEntities_escaped]
    exact Sql.replaceAll_eq_self_iff (by decide) text.toList
  rw [body, html]
  simp only [containsText_eq_false_iff, bodyPairs, htmlPairs,
    List.forall_mem_cons, List.not_mem_nil, false_implies, implies_true]

/-- The text `&lt;` comes back as `<`. -/
theorem less_entity_decoded_twice :
    ¬ ∀ text : String,
        decodeHtmlEntities (markdownToHtmlEscape text) = text ∧
          htmlToMarkdownEntities (markdownToHtmlEscape text) = text := by
  intro inverse
  have twice : decodeHtmlEntities (markdownToHtmlEscape "&lt;") = "<" := by
    decide +kernel
  have same := (inverse "&lt;").1
  rw [twice] at same
  exact absurd same (by decide)

end Entities

end AimailGateway.Email
