/-! # JSON values -/

namespace AimailGateway.Library

/-- A parsed document. A number keeps its text, an object has each key once. -/
inductive Json where
  | null
  | bool (value : Bool)
  | number (literal : String)
  | string (text : String)
  | array (elements : List Json)
  | object (fields : List (String × Json))

namespace Json

def get? (value : Json) (key : String) : Option Json :=
  match value with
  | object fields => fields.lookup key
  | _ => none

def asStr? : Json → Option String
  | string text => some text
  | _ => none

def asArray? : Json → Option (List Json)
  | array elements => some elements
  | _ => none

/-- The text of a field. -/
def getStr? (value : Json) (key : String) : Option String :=
  (value.get? key).bind asStr?

/-- The elements of a field. -/
def getArray? (value : Json) (key : String) : Option (List Json) :=
  (value.get? key).bind asArray?

/-- The texts among the elements of a field. -/
def getStrs? (value : Json) (key : String) : Option (List String) :=
  (value.getArray? key).map (·.filterMap asStr?)

/-- The texts of a field, if it is an array of nothing else. -/
def getStrList? (value : Json) (key : String) : Option (List String) :=
  (value.getArray? key).bind (·.mapM asStr?)

def ofStr? : Option String → Json
  | some text => string text
  | none => null

/-- Insertion into a map ordered by its keys. -/
def insertField (key : String) (value : Json) :
    List (String × Json) → List (String × Json)
  | [] => [(key, value)]
  | (other, previous) :: rest =>
      if key = other then (key, value) :: rest
      else if key < other then (key, value) :: (other, previous) :: rest
      else (other, previous) :: insertField key value rest

theorem lookup_insertField (key : String) (value : Json)
    (fields : List (String × Json)) (other : String) :
    (insertField key value fields).lookup other =
      if other = key then some value else fields.lookup other := by
  induction fields with
  | nil =>
      rw [insertField, List.lookup_cons]
      split <;> simp_all
  | cons field rest induction =>
      rcases field with ⟨head, previous⟩
      rw [insertField]
      split
      · next same =>
          subst same
          simp only [List.lookup_cons]
          split <;> simp_all
      · next different =>
          split
          · simp only [List.lookup_cons]
            split <;> simp_all
          · simp only [List.lookup_cons, induction]
            split <;> split <;> simp_all

/-- All fields of a map inserted; each key is there once, so the order does not
matter. -/
def insertFields (patch fields : List (String × Json)) :
    List (String × Json) :=
  patch.foldr (fun field merged => insertField field.1 field.2 merged) fields

theorem lookup_insertFields (patch fields : List (String × Json))
    (other : String) :
    (insertFields patch fields).lookup other =
      (patch.lookup other).or (fields.lookup other) := by
  induction patch with
  | nil => rfl
  | cons field rest induction =>
      rcases field with ⟨key, value⟩
      rw [insertFields, List.foldr_cons, ← insertFields, lookup_insertField,
        induction, List.lookup_cons]
      by_cases same : other = key
      · simp [same]
      · rw [if_neg same, beq_false_of_ne same]

end Json

end AimailGateway.Library
