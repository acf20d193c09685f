import Mathlib.Data.List.DropRight
import Mathlib.Data.List.SplitOn

/-! # Text operations

The string operations the program uses, on the characters of a `String`.
Case conversion follows the Unicode tables, which are a parameter.
-/

namespace AimailGateway.Library

/-- The case conversions of the Unicode tables. `foldCase` is the simple case
folding of regular expressions. -/
structure CaseTables where
  toLowercase : String → String
  toUppercase : String → String
  foldCase : Char → Char

namespace Text

/-- `str::contains` of one character. -/
def containsChar (separator : Char) (text : String) : Bool :=
  text.toList.contains separator

/-- The last piece of a text split at `separator`: `rsplit(c).next()`. A text
without the separator is its own last piece. -/
def lastPiece (separator : Char) (text : String) : String :=
  String.ofList (text.toList.rtakeWhile (· != separator))

/-- The first piece of a text split at `separator`: `split(c).next()`. -/
def firstPiece (separator : Char) (text : String) : String :=
  String.ofList (text.toList.takeWhile (· != separator))

/-- The first `count` characters of a text. -/
def take (count : Nat) (text : String) : String :=
  String.ofList (text.toList.take count)

/-- `hex::encode`: two lower-case digits for a byte. -/
def hexEncode (bytes : List UInt8) : String :=
  String.ofList (bytes.flatMap fun byte =>
    [Nat.digitChar (byte.toNat / 16), Nat.digitChar (byte.toNat % 16)])

/-- `char::is_whitespace`: the characters with the property `White_Space`. -/
def isWhitespace (character : Char) : Bool :=
  let code := character.toNat
  (0x9 ≤ code && code ≤ 0xD) || code == 0x20 || code == 0x85 ||
    code == 0xA0 || code == 0x1680 || (0x2000 ≤ code && code ≤ 0x200A) ||
    code == 0x2028 || code == 0x2029 || code == 0x202F || code == 0x205F ||
    code == 0x3000

/-- `str::trim`. -/
def trim (text : String) : String :=
  String.ofList ((text.toList.dropWhile isWhitespace).rdropWhile isWhitespace)

/-- `str::trim_start`. -/
def trimStart (text : String) : String :=
  String.ofList (text.toList.dropWhile isWhitespace)

/-- `str::to_ascii_lowercase`. -/
def toAsciiLowercase (text : String) : String :=
  String.ofList (text.toList.map Char.toLower)

/-- `str::eq_ignore_ascii_case`. -/
def eqIgnoreAsciiCase (first second : String) : Bool :=
  toAsciiLowercase first == toAsciiLowercase second

/-- `str::starts_with`. -/
def startsWith (start text : String) : Bool :=
  start.toList.isPrefixOf text.toList

/-- `str::ends_with`. -/
def endsWith (ending text : String) : Bool :=
  ending.toList.isSuffixOf text.toList

/-- `str::contains` of a text. -/
def containsText (part text : String) : Bool :=
  text.toList.tails.any part.toList.isPrefixOf

/-- The characters before and after the first `separator`:
`str::split_once`. -/
def splitOnce (separator : Char) (text : String) : Option (String × String) :=
  match text.toList.dropWhile (· != separator) with
  | [] => none
  | _ :: rest => some (firstPiece separator text, String.ofList rest)

/-- The piece before the last one when a text is split at `separator`:
`rsplit(c).nth(1)`. -/
def pieceBeforeLast (separator : Char) (text : String) : Option String :=
  match text.toList.rdropWhile (· != separator) with
  | [] => none
  | start => some (lastPiece separator (String.ofList start.dropLast))

/-- All pieces of a text split at `separator`: `str::split`. -/
def split (separator : Char) (text : String) : List String :=
  (text.toList.splitOn separator).map String.ofList

/-- The rest of a text that starts with `start`: `str::strip_prefix`. -/
def afterStart (start text : String) : Option String :=
  if startsWith start text then
    some (String.ofList (text.toList.drop start.toList.length))
  else
    none

/-- `str::bytes`. -/
def bytes (text : String) : List UInt8 :=
  text.toList.flatMap String.utf8EncodeChar

/-- `str::len`: the number of bytes. -/
def byteLength (text : String) : Nat :=
  (bytes text).length

def withoutReturn (line : List Char) : List Char :=
  if line.getLast? == some '\r' then line.dropLast else line

/-- `str::lines`: an empty last line is dropped. -/
def lines (text : String) : List String :=
  let pieces := text.toList.splitOn '\n'
  (pieces.dropLast.map withoutReturn ++
    (pieces.getLast?.filter (· != [])).toList).map String.ofList

/-- `str::split_whitespace`. -/
def words (text : String) : List String :=
  ((text.toList.splitOnP isWhitespace).filter (· != [])).map String.ofList

/-- `str::trim_start_matches` of one character. -/
def dropStart (character : Char) (text : String) : String :=
  String.ofList (text.toList.dropWhile (· == character))

/-- The number of bytes before the first occurrence of a part. -/
def offsetOf (part : List Char) : List Char → Option Nat
  | [] => if part = [] then some 0 else none
  | head :: tail =>
      if part.isPrefixOf (head :: tail) then some 0
      else (offsetOf part tail).map (· + head.utf8Size)

/-- `str::find`. -/
def find (part text : String) : Option Nat :=
  offsetOf part.toList text.toList

/-- The characters in so many bytes and those after them, if a character ends
there. -/
def splitBytes : List Char → Nat → Option (List Char × List Char)
  | text, 0 => some ([], text)
  | [], _ + 1 => none
  | head :: tail, count + 1 =>
      if head.utf8Size ≤ count + 1 then
        (splitBytes tail (count + 1 - head.utf8Size)).map fun both =>
          (head :: both.1, both.2)
      else none

/-- `&text[position..]`, which panics inside a character or past the end. -/
def sliceFrom (position : Nat) (text : String) : Option String :=
  (splitBytes text.toList position).map fun both => String.ofList both.2

/-- `&text[..position]`. -/
def sliceTo (position : Nat) (text : String) : Option String :=
  (splitBytes text.toList position).map fun both => String.ofList both.1

example : lastPiece '@' "ann@x.org" = "x.org" := by decide

example : splitOnce '.' "ann.b.c" = some ("ann", "b.c") := by decide

example : pieceBeforeLast '@' "a@ann@x.org" = some "ann" := by decide

theorem lastPiece_of_not_contains {separator : Char} {text : String}
    (absent : containsChar separator text = false) :
    lastPiece separator text = text := by
  have keeps : text.toList.rtakeWhile (· != separator) = text.toList := by
    rw [List.rtakeWhile_eq_self_iff]
    intro character member
    have different : character ≠ separator := by
      intro equal
      subst equal
      simp [containsChar, member] at absent
    simpa using different
  rw [lastPiece, keeps, String.ofList_toList]

theorem firstPiece_of_not_contains {separator : Char} {text : String}
    (absent : containsChar separator text = false) :
    firstPiece separator text = text := by
  have keeps : text.toList.takeWhile (· != separator) = text.toList := by
    rw [List.takeWhile_eq_self_iff]
    intro character member
    have different : character ≠ separator := by
      intro equal
      subst equal
      simp [containsChar, member] at absent
    simpa using different
  rw [firstPiece, keeps, String.ofList_toList]

/-! ## Hexadecimal texts -/

theorem digitChar_injective : ∀ first < 16, ∀ second < 16,
    Nat.digitChar first = Nat.digitChar second → first = second := by
  decide

theorem hexEncode_injective {first second : List UInt8}
    (same : hexEncode first = hexEncode second) : first = second := by
  have digits := String.ofList_injective same
  induction first generalizing second with
  | nil =>
      cases second with
      | nil => rfl
      | cons byte rest => simp at digits
  | cons byte rest induction =>
      cases second with
      | nil => simp at digits
      | cons other others =>
          simp only [List.flatMap_cons, List.cons_append, List.nil_append,
            List.cons.injEq] at digits
          rcases digits with ⟨high, low, digits⟩
          have bound := byte.toNat_lt
          have otherBound := other.toNat_lt
          have highs := digitChar_injective _ (by omega) _ (by omega) high
          have lows := digitChar_injective _ (by omega) _ (by omega) low
          have equal : byte = other := UInt8.toNat_inj.mp (by omega)
          have rests := induction (congrArg String.ofList digits) digits
          rw [equal, rests]

theorem not_mem_hexEncode (bytes : List UInt8) :
    '_' ∉ (hexEncode bytes).toList := by
  have digit : ∀ value < 16, Nat.digitChar value ≠ '_' := by decide
  rw [hexEncode, String.toList_ofList, List.mem_flatMap]
  rintro ⟨byte, _, there⟩
  have bound := byte.toNat_lt
  rcases List.mem_pair.mp there with high | low
  · exact digit _ (by omega) high.symm
  · exact digit _ (by omega) low.symm

theorem trim_trim (text : String) : trim (trim text) = trim text := by
  have starts : ((text.toList.dropWhile isWhitespace).rdropWhile
      isWhitespace).dropWhile isWhitespace =
      (text.toList.dropWhile isWhitespace).rdropWhile isWhitespace := by
    have leads := List.rdropWhile_prefix isWhitespace
      (text.toList.dropWhile isWhitespace)
    cases kept : (text.toList.dropWhile isWhitespace).rdropWhile
        isWhitespace with
    | nil => rfl
    | cons head tail =>
        rw [kept] at leads
        rcases leads with ⟨rest, whole⟩
        have plain : ¬ isWhitespace head = true := by
          have idle : (text.toList.dropWhile isWhitespace).dropWhile
              isWhitespace = text.toList.dropWhile isWhitespace :=
            List.dropWhile_idempotent isWhitespace _
          rw [← whole, List.cons_append] at idle
          intro blank
          rw [List.dropWhile_cons_of_pos blank] at idle
          have shorter := (List.dropWhile_suffix isWhitespace
            (l := tail ++ rest)).length_le
          rw [idle] at shorter
          simp only [List.length_cons, List.length_append] at shorter
          omega
        rw [List.dropWhile_cons_of_neg plain]
  rw [trim, trim, String.toList_ofList, starts,
    List.rdropWhile_idempotent isWhitespace]

def asciiTables : CaseTables where
  toLowercase := toAsciiLowercase
  toUppercase := fun text => String.ofList (text.toList.map Char.toUpper)
  foldCase := Char.toLower

end Text

end AimailGateway.Library
