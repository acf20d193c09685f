import Mathlib.Logic.Basic
import AimailGateway.Library.Text

/-! # Regular expressions

The part of the syntax in which a program writes literal texts and runs of one
class of characters: literals, escaped literals, the dot, repetition, the two
anchors and the flag for case-insensitive matching. Other syntax is refused.
-/

namespace AimailGateway.Library

namespace Regex

/-- One character of a text: a given one or any but a line break. -/
inductive CharClass where
  | literal (character : Char)
  | dot
  deriving DecidableEq, Repr

inductive Item where
  | start
  | finish
  | one (accepted : CharClass)
  | many (accepted : CharClass)
  deriving DecidableEq, Repr

/-- The characters with a meaning of their own, which `escape` protects. -/
def isMeta (character : Char) : Bool :=
  "\\.+*?()|[]\x7b\x7d^$#&-~".toList.contains character

def escapeChar (character : Char) : List Char :=
  if isMeta character then ['\\', character] else [character]

/-- `regex::escape`. -/
def escape (text : String) : String :=
  String.ofList (text.toList.flatMap escapeChar)

def parseItems : List Char → Option (List Item)
  | [] => some []
  | '^' :: rest => (parseItems rest).map (.start :: ·)
  | '$' :: rest => (parseItems rest).map (.finish :: ·)
  | '.' :: '*' :: rest => (parseItems rest).map (.many .dot :: ·)
  | '.' :: rest => (parseItems rest).map (.one .dot :: ·)
  | '\\' :: escaped :: '*' :: rest =>
      if isMeta escaped then
        (parseItems rest).map (.many (.literal escaped) :: ·)
      else none
  | '\\' :: escaped :: rest =>
      if isMeta escaped then
        (parseItems rest).map (.one (.literal escaped) :: ·)
      else none
  | plain :: '*' :: rest =>
      if isMeta plain then none
      else (parseItems rest).map (.many (.literal plain) :: ·)
  | plain :: rest =>
      if isMeta plain then none
      else (parseItems rest).map (.one (.literal plain) :: ·)

end Regex

structure Regex where
  caseInsensitive : Bool
  items : List Regex.Item
  deriving DecidableEq, Repr

namespace Regex

/-- `Regex::new`. -/
def new? (pattern : String) : Option Regex :=
  match Text.afterStart "(?i)" pattern with
  | some rest => (parseItems rest.toList).map fun items => ⟨true, items⟩
  | none => (parseItems pattern.toList).map fun items => ⟨false, items⟩

/-! ## Matching -/

section Matching

-- the form in which characters are compared
variable (fold : Char → Char)

def CharClass.accepts (character : Char) : CharClass → Bool
  | .literal expected => fold expected == fold character
  | .dot => character != '\n'

/-- Some rest of a text passes, reached over accepted characters. The flag says
whether the text is still at its start. -/
def anyRun (accepted : Char → Bool) (passes : Bool → List Char → Bool) :
    Bool → List Char → Bool
  | atStart, [] => passes atStart []
  | atStart, head :: tail =>
      passes atStart (head :: tail) ||
        (accepted head && anyRun accepted passes false tail)

def matchItems : List Item → Bool → List Char → Bool
  | [], _, _ => true
  | .start :: items, atStart, text => atStart && matchItems items atStart text
  | .finish :: items, atStart, text =>
      text.isEmpty && matchItems items atStart text
  | .one _ :: _, _, [] => false
  | .one accepted :: items, _, head :: tail =>
      accepted.accepts fold head && matchItems items false tail
  | .many accepted :: items, atStart, text =>
      anyRun (fun character => accepted.accepts fold character)
        (matchItems items) atStart text

end Matching

/-- `Regex::is_match`: a match from some position. -/
def isMatch (foldCase : Char → Char) (regex : Regex) (text : String) : Bool :=
  anyRun (fun _ => true)
    (matchItems (if regex.caseInsensitive then foldCase else id) regex.items)
    true text.toList

example : (new? "(?i)^a\\.*$").map (isMatch Char.toLower · "A...") =
    some true := by decide

/-! ## Escaped texts -/

theorem isMeta_star : isMeta '*' = true := by decide

theorem head?_escapeChar (character : Char) (rest : List Char) :
    (escapeChar character ++ rest).head? ≠ some '*' := by
  rw [escapeChar]
  split
  · simp
  · next plain =>
      simp only [List.cons_append, List.nil_append, List.head?_cons, ne_eq,
        Option.some_inj]
      intro same
      exact plain (by rw [same, isMeta_star])

theorem parseItems_escapeChar (character : Char) {rest : List Char}
    (single : rest.head? ≠ some '*') :
    parseItems (escapeChar character ++ rest) =
      (parseItems rest).map (.one (.literal character) :: ·) := by
  have notStar : ∀ tail, rest = '*' :: tail → False := by
    intro tail same
    rw [same] at single
    exact single rfl
  rw [escapeChar]
  split
  · next special =>
      rw [List.cons_append, List.cons_append, List.nil_append,
        parseItems.eq_7 _ _ notStar, if_pos special]
  · next plain =>
      have other : ∀ special, isMeta special = true → character = special →
          False :=
        fun special reserved same => plain (same ▸ reserved)
      rw [List.cons_append, List.nil_append, parseItems.eq_9, if_neg plain]
      · exact other '^' (by decide)
      · exact other '$' (by decide)
      · exact fun _ same _ => other '.' (by decide) same
      · exact other '.' (by decide)
      · exact fun _ _ same _ => other '\\' (by decide) same
      · exact fun _ _ same _ => other '\\' (by decide) same
      · exact notStar

theorem matchItems_start (fold : Char → Char) (items : List Item)
    (atStart : Bool) (text : List Char) :
    matchItems fold (.start :: items) atStart text =
      (atStart && matchItems fold items atStart text) :=
  rfl

theorem anyRun_start (fold : Char → Char) (items : List Item)
    (text : List Char) :
    anyRun (fun _ => true) (matchItems fold (.start :: items)) true text =
      matchItems fold items true text := by
  have later : ∀ rest, anyRun (fun _ => true)
      (matchItems fold (.start :: items)) false rest = false := by
    intro rest
    induction rest with
    | nil => rfl
    | cons head tail induction =>
        rw [anyRun, matchItems_start, induction]
        rfl
  cases text with
  | nil =>
      rw [anyRun, matchItems_start]
      rfl
  | cons head tail =>
      rw [anyRun, matchItems_start, later, Bool.and_false, Bool.or_false]
      rfl

end Regex

end AimailGateway.Library
