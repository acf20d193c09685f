import AimailGateway.Library.Text

/-! # Whitelist patterns

A pattern is a text in which every `*` stands for any characters of one line.
A pattern over 128 bytes matches nothing.
-/

namespace AimailGateway

open Library

def maxPatternLen : Nat := 128

/-- Some rest of a text, reached without crossing a line break, passes. -/
def anyRest (passes : List Char → Bool) : List Char → Bool
  | [] => passes []
  | head :: tail =>
      passes (head :: tail) || (head != '\n' && anyRest passes tail)

/-- The anchored match of a compiled pattern, up to case folding. -/
def matchesPattern (tables : CaseTables) : List Char → List Char → Bool
  | [], text => text.isEmpty
  | '*' :: pattern, text => anyRest (matchesPattern tables pattern) text
  | _ :: _, [] => false
  | expected :: pattern, head :: tail =>
      tables.foldCase expected == tables.foldCase head &&
        matchesPattern tables pattern tail

/-- `is_whitelisted_wildcard`: some pattern compiles and matches. -/
def isWhitelistedWildcard (tables : CaseTables) (values : List String)
    (target : String) : Bool :=
  values.any fun value =>
    Text.byteLength value ≤ maxPatternLen &&
      matchesPattern tables value.toList target.toList

example : isWhitelistedWildcard Text.asciiTables ["*@x.org"] "Ann@X.org" = true := by
  decide

end AimailGateway
