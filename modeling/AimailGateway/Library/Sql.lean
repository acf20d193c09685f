import Mathlib.Logic.Basic

/-! # SQL text functions

`LIKE` and `replace` of SQLite, on lists of characters, and the parameters of
its statements.
-/

namespace AimailGateway.Library.Sql

/-- The test passes on some suffix of a text. -/
def anySuffix (passes : List Char → Bool) : List Char → Bool
  | [] => passes []
  | head :: tail => passes (head :: tail) || anySuffix passes tail

/-- `text LIKE pattern`: `%` stands for any characters, `_` for one, and ASCII
letters match in either case. -/
def like : List Char → List Char → Bool
  | [], text => text.isEmpty
  | '%' :: pattern, text => anySuffix (like pattern) text
  | _ :: _, [] => false
  | '_' :: pattern, _ :: text => like pattern text
  | expected :: pattern, head :: text =>
      expected.toLower == head.toLower && like pattern text

/-- `replace`, with `skip` characters of the last match still to pass over. -/
def replaceFrom (old new : List Char) : Nat → List Char → List Char
  | _, [] => []
  | skip + 1, _ :: rest => replaceFrom old new skip rest
  | 0, head :: rest =>
      if old.isPrefixOf (head :: rest) then
        new ++ replaceFrom old new (old.length - 1) rest
      else
        head :: replaceFrom old new 0 rest

/-- `replace(text, old, new)` for a non-empty `old`. -/
def replace (text old new : String) : String :=
  String.ofList (replaceFrom old.toList new.toList 0 text.toList)

example : replace "profile:a@x:a@x" "a@x" "bob@x" = "profile:bob@x:bob@x" := by
  decide

/-! ## Parameters -/

/-- A value that a parameter of a statement is bound to. -/
inductive Value where
  | integer (value : Int)
  | text (value : String)
  deriving DecidableEq, Repr

/-- What a statement's outcome depends on besides the tables. -/
structure Engine where
  /-- The integer that a text becomes where it is compared with a column of
  integers, if it becomes one. -/
  numeric : String → Option Int
  /-- `SQLITE_MAX_VARIABLE_NUMBER`. -/
  variableLimit : Nat

/-- `column = ?` for a column of integers. -/
def Engine.equalsInteger (engine : Engine) (column : Int) : Value → Bool
  | .integer value => column == value
  | .text value => engine.numeric value == some column

/-- `column = ?` for a column of texts. -/
def equalsText (column : String) : Value → Bool
  | .integer value => column == toString value
  | .text value => column == value

/-- The value of `?number`. -/
def parameter (params : List Value) (number : Nat) : Option Value :=
  if number = 0 then none else params[number - 1]?

/-- Prepare a statement with numbered parameters and bind all of them. -/
def Engine.bind (engine : Engine) (numbers : List Nat) (params : List Value) :
    Except String Unit :=
  let needed := numbers.foldl max 0
  if engine.variableLimit < needed then
    .error ("variable number must be between ?1 and ?" ++
      toString engine.variableLimit)
  else if params.length ≠ needed then
    .error ("Wrong number of parameters passed to query. Got " ++
      toString params.length ++ ", needed " ++ toString needed)
  else
    .ok ()

end AimailGateway.Library.Sql
