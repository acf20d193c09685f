import AimailGateway.Library.Delimiters
import AimailGateway.Library.Json

/-! # JSON paths of SQLite

`json_set` walks a path of labels and indices through a document and creates
what the path does not find. A quoted label ends at the next quote.
-/

namespace AimailGateway.Library.Json

def setField (key : String) (value : Json) :
    List (String × Json) → List (String × Json)
  | [] => [(key, value)]
  | (other, previous) :: rest =>
      if key = other then (key, value) :: rest
      else (other, previous) :: setField key value rest

theorem lookup_setField (key : String) (value : Json)
    (fields : List (String × Json)) (other : String) :
    (setField key value fields).lookup other =
      if other = key then some value else fields.lookup other := by
  induction fields with
  | nil =>
      rw [setField, List.lookup_cons]
      split <;> simp_all
  | cons field rest induction =>
      rcases field with ⟨head, previous⟩
      rw [setField]
      split
      · next same =>
          subst same
          simp only [List.lookup_cons]
          split <;> simp_all
      · next different =>
          simp only [List.lookup_cons, induction]
          split <;> split <;> simp_all

theorem mem_of_lookup {fields : List (String × Json)} {key : String}
    {value : Json} (found : fields.lookup key = some value) :
    (key, value) ∈ fields := by
  obtain ⟨before, after, parts, -⟩ := List.lookup_eq_some_iff.mp found
  rw [parts]
  exact List.mem_append_right before List.mem_cons_self

theorem mem_setField {key : String} {value : Json}
    {fields : List (String × Json)} {field : String × Json}
    (inside : field ∈ setField key value fields) :
    field = (key, value) ∨ field ∈ fields := by
  induction fields with
  | nil => exact .inl (List.mem_singleton.mp inside)
  | cons head rest induction =>
      rcases head with ⟨name, previous⟩
      rw [setField] at inside
      by_cases same : key = name
      · rw [if_pos same, List.mem_cons] at inside
        exact inside.imp_right (List.mem_cons_of_mem _)
      · rw [if_neg same, List.mem_cons] at inside
        cases inside with
        | inl here => exact .inr (here ▸ List.mem_cons_self)
        | inr later =>
            exact (induction later).imp_right (List.mem_cons_of_mem _)

/-- What the functions read besides the paths: the escapes in a quoted label,
and a text as a document. -/
structure Reader where
  unescape : List Char → String
  parse : String → Option Json

inductive Edit where
  | pathError
  | notFound
  | done (value : Json)

def Edit.map (change : Json → Json) : Edit → Edit
  | pathError => pathError
  | notFound => notFound
  | done value => done (change value)

section Paths

variable (reader : Reader)

def quotedKey (label : List Char) : String :=
  if '\\' ∈ label then reader.unescape label else String.ofList label

/-- A new container for the rest of a path. -/
def emptyFor : List Char → Json
  | '.' :: _ => object []
  | _ => array []

def editField (key : String) (below : Json → Edit) (rest : List Char) :
    Json → Edit
  | object fields =>
      match fields.lookup key with
      | some child => (below child).map fun value =>
          object (setField key value fields)
      | none => (below (emptyFor rest)).map fun value =>
          object (setField key value fields)
  | _ => .notFound

/-- The steps into an array; the position after the last is a new element. -/
def editIndex (position : Nat) (below : Json → Edit) (rest : List Char) :
    Json → Edit
  | array elements =>
      match elements[position]? with
      | some child => (below child).map fun value =>
          array (elements.set position value)
      | none =>
          if position = elements.length then
            (below (emptyFor rest)).map fun value =>
              array (elements ++ [value])
          else .notFound
  | _ => .notFound

def readDigits (text : List Char) : Nat :=
  text.foldl (fun number digit => number * 10 + (digit.toNat - '0'.toNat)) 0

/-- `[N]`, `[#]` and `[#-N]`: the position in so many elements, if it is not
before the first, and the path after it. -/
def readIndex (count : Nat) (text : List Char) :
    Option (Option Nat × List Char) :=
  match text with
  | '#' :: ']' :: rest => some (some count, rest)
  | '#' :: '-' :: text =>
      let digits := text.takeWhile Char.isDigit
      match text.dropWhile Char.isDigit with
      | ']' :: rest =>
          if digits = [] then none
          else if readDigits digits ≤ count then
            some (some (count - readDigits digits), rest)
          else some (none, rest)
      | _ => none
  | text =>
      let digits := text.takeWhile Char.isDigit
      match text.dropWhile Char.isDigit with
      | ']' :: rest =>
          if digits = [] then none
          else some (some (readDigits digits), rest)
      | _ => none

def elementCount : Json → Nat
  | array elements => elements.length
  | _ => 0

def editPath (new : Json) : Nat → List Char → Json → Edit
  | _, [], _ => .done new
  | 0, _ :: _, _ => .pathError
  | fuel + 1, '.' :: '"' :: text, value =>
      match text.dropWhile (· != '"') with
      | [] => .pathError
      | _ :: rest =>
          editField (quotedKey reader (text.takeWhile (· != '"')))
            (editPath new fuel rest) rest value
  | fuel + 1, '.' :: text, value =>
      let label := text.takeWhile fun character =>
        character != '.' && character != '['
      let rest := text.dropWhile fun character =>
        character != '.' && character != '['
      if label = [] then .pathError
      else
        editField (String.ofList label) (editPath new fuel rest) rest value
  | fuel + 1, '[' :: text, value =>
      match readIndex (elementCount value) text with
      | none => .pathError
      | some (none, _) => .notFound
      | some (some position, rest) =>
          editIndex position (editPath new fuel rest) rest value
  | _ + 1, _ :: _, _ => .pathError

/-- `json_set` of one path; a path that leads nowhere changes nothing, and
`none` is the error of a malformed one. A text ends at a zero character. -/
def jsonSet (document : Json) (path : String) (new : Json) : Option Json :=
  match path.toList.takeWhile (· != Char.ofNat 0) with
  | '$' :: steps =>
      match editPath reader new steps.length steps document with
      | .pathError => none
      | .notFound => some document
      | .done value => some value
  | _ => none

theorem jsonSet_of_done {document new value : Json} {path : String}
    {steps : List Char}
    (cut : path.toList.takeWhile (· != Char.ofNat 0) = '$' :: steps)
    (edit : editPath reader new steps.length steps document = .done value) :
    jsonSet reader document path new = some value := by
  simp only [jsonSet, cut, edit]

/-- The rows of `json_each`. -/
def jsonEach : Json → List Json
  | object fields => fields.map (·.2)
  | array elements => elements
  | value => [value]

/-! ## A quoted label without escapes -/

/-- The characters of a label that is read as it is written. -/
def PlainLabel (label : String) : Prop :=
  '"' ∉ label.toList ∧ '\\' ∉ label.toList ∧ Char.ofNat 0 ∉ label.toList

instance (label : String) : Decidable (PlainLabel label) :=
  inferInstanceAs (Decidable (_ ∧ _ ∧ _))

theorem editPath_quoted {new value : Json} {label : String}
    {rest : List Char} {fuel : Nat} (plain : PlainLabel label) :
    editPath reader new (fuel + 1)
        ('.' :: '"' :: (label.toList ++ '"' :: rest)) value =
      editField label (editPath reader new fuel rest) rest value := by
  obtain ⟨noQuote, noEscape, -⟩ := plain
  rw [editPath, Text.takeWhile_cut noQuote, Text.dropWhile_cut noQuote,
    quotedKey, if_neg noEscape, String.ofList_toList]

end Paths

end AimailGateway.Library.Json
