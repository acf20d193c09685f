import AimailGateway.Library.Json
import AimailGateway.Storage.Records

/-! # The recipients column

The JSON of the column as it is written, and what is read from it. The parser
of JSON is a third-party library and a parameter here.
-/

namespace AimailGateway

open Library

/-- One character of a JSON string: `serde_json`. -/
def jsonCharacter (character : Char) : List Char :=
  if character == '"' then ['\\', '"']
  else if character == '\\' then ['\\', '\\']
  else if character == '\n' then ['\\', 'n']
  else if character == '\r' then ['\\', 'r']
  else if character == '\t' then ['\\', 't']
  else if character.toNat == 0x8 then ['\\', 'b']
  else if character.toNat == 0xC then ['\\', 'f']
  else if character.toNat < 0x20 then
    ['\\', 'u', '0', '0', Nat.digitChar (character.toNat / 16),
      Nat.digitChar (character.toNat % 16)]
  else [character]

def jsonString (text : String) : String :=
  "\"" ++ String.ofList (text.toList.flatMap jsonCharacter) ++ "\""

def jsonArray (texts : List String) : String :=
  "[" ++ String.intercalate "," (texts.map jsonString) ++ "]"

namespace Recipients

/-- The fields that are written. `skip_serializing_if`: an empty `cc` or `rcpt`
is left out. -/
def fields (recipients : Recipients) : List (String × List String) :=
  ("to", recipients.toAddrs) ::
    ([("cc", recipients.cc), ("rcpt", recipients.rcpt)].filter
      fun field => !field.2.isEmpty)

/-- `Recipients::to_json`. -/
def toJson (recipients : Recipients) : String :=
  "\x7b" ++ String.intercalate "," (recipients.fields.map fun field =>
    jsonString field.1 ++ ":" ++ jsonArray field.2) ++ "\x7d"

def addressList (addrs : List String) : Json := .array (addrs.map .string)

def document (recipients : Recipients) : Json :=
  .object (recipients.fields.map fun field => (field.1, addressList field.2))

def addresses? (value : Json) : Option (List String) :=
  value.asArray?.bind fun elements => elements.mapM Json.asStr?

/-- `#[serde(default)]`: a field that is missing is the empty list. -/
def fieldOrDefault (value : Json) (key : String) : Option (List String) :=
  match value.get? key with
  | some field => addresses? field
  | none => some []

/-- An object with the fields, or an array of their values in order. -/
def ofDocument? (value : Json) : Option Recipients :=
  match value with
  | .object _ => do
      let toAddrs ← (value.get? "to").bind addresses?
      let cc ← fieldOrDefault value "cc"
      let rcpt ← fieldOrDefault value "rcpt"
      return ⟨toAddrs, cc, rcpt⟩
  | .array [toAddrs] => do return ⟨← addresses? toAddrs, [], []⟩
  | .array [toAddrs, cc] => do
      return ⟨← addresses? toAddrs, ← addresses? cc, []⟩
  | .array [toAddrs, cc, rcpt] => do
      return ⟨← addresses? toAddrs, ← addresses? cc, ← addresses? rcpt⟩
  | _ => none

/-- `Recipients::from_json`: a text that is no such document is one address. -/
def ofJson (parse : String → Option Json) (text : String) : Recipients :=
  ((parse text).bind ofDocument?).getD ⟨[text], [], []⟩

theorem addresses?_addressList (addrs : List String) :
    addresses? (addressList addrs) = some addrs := by
  change (addrs.map Json.string).mapM Json.asStr? = some addrs
  induction addrs with
  | nil => rfl
  | cons addr rest induction =>
      rw [List.map_cons, List.mapM_cons, induction]
      rfl

theorem ofDocument?_document (recipients : Recipients) :
    ofDocument? recipients.document = some recipients := by
  have lists := addresses?_addressList
  rcases recipients with ⟨toAddrs, cc, rcpt⟩
  cases cc <;> cases rcpt <;>
    simp [document, fields, ofDocument?, fieldOrDefault, Json.get?,
      List.lookup_cons, lists]

theorem ofJson_toJson {parse : String → Option Json} {recipients : Recipients}
    (parses : parse recipients.toJson = some recipients.document) :
    ofJson parse recipients.toJson = recipients := by
  rw [ofJson, parses, Option.bind_some, ofDocument?_document]
  rfl

example : toJson ⟨["a@x.org"], [], ["b@x.org"]⟩ =
    "\x7b\"to\":[\"a@x.org\"],\"rcpt\":[\"b@x.org\"]\x7d" := by decide

end Recipients

end AimailGateway
