import AimailGateway.Library.Text

/-! # Board addresses -/

namespace AimailGateway.Board

open Library

/-- A local part that ends in `.a2a`, in any case. -/
def isBoardAddress (addr : String) : Bool :=
  Text.containsText ".a2a@" (Text.toAsciiLowercase addr)

def strangerCommands : List String := ["[WHOAMI]"]

def isStrangerCommand (tables : CaseTables) (subject : String) : Bool :=
  let upper := tables.toUppercase subject
  strangerCommands.any fun command => Text.startsWith command upper

/-- The domain of a well-formed board address. The identifiers that are derived
from the address are left out. -/
def parseBoardEmail (addr : String) : Option String :=
  match Text.splitOnce '@' addr with
  | some (localPart, domain) =>
      if Text.endsWith ".a2a" localPart then some domain else none
  | none => none

/-- The boards of the gateway: the registry and the board databases. -/
structure Boards where
  /-- Per lower-cased address: the owning system, if it is recorded. -/
  registry : String → Option (Option String)
  /-- The orchestrator named in the database of the board. -/
  orchestrator : String → Option String

example : isBoardAddress "b1.A2A@x.org" = true := by decide

end AimailGateway.Board
