import AimailGateway.Errors
import AimailGateway.Library.Text

/-! # The shape of a registered address

`register_address` admits `profile.system@domain` in systems with shared
domains and `profile@domain` in all others.
-/

namespace AimailGateway

open Library

namespace Api

def isAtextNoDot (byte : UInt8) : Bool :=
  (0x41 ≤ byte && byte ≤ 0x5A) || (0x61 ≤ byte && byte ≤ 0x7A) ||
    (0x30 ≤ byte && byte ≤ 0x39) ||
    (Text.bytes "!#$%&'*+-/=?^_\x60\x7b|\x7d~").contains byte

def invalidEmail (detail : String) : HttpError :=
  ⟨.badRequest, "invalid_email", some detail⟩

def hexDigit (digit : Nat) : Char :=
  if digit < 10 then Char.ofNat (48 + digit) else Char.ofNat (55 + digit)

/-- A byte in the `{:02X}` format. -/
def hexByte (byte : UInt8) : String :=
  String.ofList [hexDigit (byte.toNat / 16), hexDigit (byte.toNat % 16)]

def dotCount (text : String) : Nat := text.toList.count '.'

/-- The first byte of a text that is not atext is reported, between two parts
of the message. -/
def checkAtext (before after text : String) : Except HttpError Unit :=
  match (Text.bytes text).find? fun byte => !isAtextNoDot byte with
  | some bad =>
      .error (invalidEmail (before ++
        String.ofList [Char.ofNat bad.toNat] ++ after ++ hexByte bad ++ ")"))
  | none => .ok ()

def isLowercaseByte (byte : UInt8) : Bool := 0x61 ≤ byte && byte ≤ 0x7A

def isSystemIdByte (byte : UInt8) : Bool :=
  isLowercaseByte byte || (0x30 ≤ byte && byte ≤ 0x39) || byte == 0x2D ||
    byte == 0x5F

/-- The naming rules of a shared system, as its activation applies them. -/
def checkSystemSegment (sysId : String) : Except HttpError Unit :=
  let bytes := Text.bytes sysId
  if !(bytes.head?.any isLowercaseByte) || bytes.length < 3 ||
      8 < bytes.length || bytes.any (fun byte => !isSystemIdByte byte) then
    .error (invalidEmail
      "system-id must be 3-8 chars, lowercase letter start, [a-z0-9_-] only")
  else if sysId == "a2a" || Text.containsText ".a2a" sysId then
    .error (invalidEmail "'a2a' is a reserved system-id")
  else
    .ok ()

def checkSharedLocal (localPart : String) : Except HttpError Unit :=
  if dotCount localPart ≠ 1 then
    .error (invalidEmail
      "shared-domain address must use profile.system_id@domain format")
  else
    match Text.splitOnce '.' localPart with
    | none => .ok ()
    | some (profile, sysId) => do
        if profile = "" then
          .error (invalidEmail "profile segment must not be empty")
        else
          checkAtext "illegal char in profile: '" "' (0x" profile
          checkSystemSegment sysId

def checkPlainLocal (localPart : String) : Except HttpError Unit :=
  if Text.endsWith ".a2a" localPart then
    .error (invalidEmail "'.a2a@' is reserved for board addresses")
  else if dotCount localPart ≠ 0 then
    .error (invalidEmail "non-shared address must not contain dots")
  else
    checkAtext "illegal character '" "' in local-part (0x" localPart

/-- A system whose addresses share its domain with other systems. -/
def isShared (systemId : String) : Bool := Text.startsWith "shared-" systemId

def localOf (email : String) : String :=
  (Text.pieceBeforeLast '@' email).getD ""

/-- The registration an address needs its system to have: the bare domain, or
the anchor `system@domain` of a shared system. -/
def anchorKey (systemId localPart bareDomain : String) : String :=
  if isShared systemId then
    Text.lastPiece '.' localPart ++ "@" ++ bareDomain
  else
    bareDomain

/-- The checks of `register_address` on the address alone. -/
def checkAddressShape (systemId email : String) : Except HttpError Unit :=
  if Text.lastPiece '@' email == "" || !Text.containsChar '@' email then
    .error (invalidEmail "email must be a valid agent@domain address")
  else if localOf email == "" || 64 < Text.byteLength (localOf email) then
    .error (invalidEmail "local-part must be 1-64 characters")
  else if isShared systemId then
    checkSharedLocal (localOf email)
  else
    checkPlainLocal (localOf email)

example : checkAddressShape "shared-1" "ann.acme@x.org" = .ok () := by decide

example : checkAddressShape "sys-a" "ann@x.org" = .ok () := by decide

end Api

end AimailGateway
