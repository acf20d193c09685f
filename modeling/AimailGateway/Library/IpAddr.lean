import Mathlib.Data.List.Basic

/-! # Internet addresses

IPv4 and IPv6 addresses with their classes, and the texts that stand for them:
decimal octets without leading zeros, and groups of hexadecimal digits with one
run of zeros left out and an IPv4 address at the end perhaps.
-/

namespace AimailGateway.Library

structure Ipv4Addr where
  a : UInt8
  b : UInt8
  c : UInt8
  d : UInt8
  deriving DecidableEq, Repr

structure Ipv6Addr where
  s0 : UInt16
  s1 : UInt16
  s2 : UInt16
  s3 : UInt16
  s4 : UInt16
  s5 : UInt16
  s6 : UInt16
  s7 : UInt16
  deriving DecidableEq, Repr

inductive IpAddr where
  | v4 (address : Ipv4Addr)
  | v6 (address : Ipv6Addr)
  deriving DecidableEq, Repr

namespace Ipv4Addr

def isUnspecified (address : Ipv4Addr) : Bool :=
  address == ⟨0, 0, 0, 0⟩

/-- 127.0.0.0/8. -/
def isLoopback (address : Ipv4Addr) : Bool :=
  address.a == 127

/-- 10.0.0.0/8, 172.16.0.0/12 and 192.168.0.0/16. -/
def isPrivate (address : Ipv4Addr) : Bool :=
  address.a == 10 ||
    (address.a == 172 && decide (16 ≤ address.b ∧ address.b ≤ 31)) ||
    (address.a == 192 && address.b == 168)

/-- 169.254.0.0/16. -/
def isLinkLocal (address : Ipv4Addr) : Bool :=
  address.a == 169 && address.b == 254

def high (address : Ipv4Addr) : UInt16 :=
  address.a.toUInt16 * 256 + address.b.toUInt16

def low (address : Ipv4Addr) : UInt16 :=
  address.c.toUInt16 * 256 + address.d.toUInt16

def ofHalves (high low : UInt16) : Ipv4Addr where
  a := (high / 256).toUInt8
  b := (high % 256).toUInt8
  c := (low / 256).toUInt8
  d := (low % 256).toUInt8

def toText (address : Ipv4Addr) : String :=
  ".".intercalate
    ([address.a, address.b, address.c, address.d].map fun octet =>
      toString octet.toNat)

end Ipv4Addr

namespace Ipv6Addr

def segments (address : Ipv6Addr) : List UInt16 :=
  [address.s0, address.s1, address.s2, address.s3, address.s4, address.s5,
    address.s6, address.s7]

def ofSegments (segments : List UInt16) : Ipv6Addr where
  s0 := segments.getD 0 0
  s1 := segments.getD 1 0
  s2 := segments.getD 2 0
  s3 := segments.getD 3 0
  s4 := segments.getD 4 0
  s5 := segments.getD 5 0
  s6 := segments.getD 6 0
  s7 := segments.getD 7 0

def isUnspecified (address : Ipv6Addr) : Bool :=
  address == ⟨0, 0, 0, 0, 0, 0, 0, 0⟩

def isLoopback (address : Ipv6Addr) : Bool :=
  address == ⟨0, 0, 0, 0, 0, 0, 0, 1⟩

/-- The IPv4 address behind `::ffff:0:0/96`. -/
def toIpv4Mapped (address : Ipv6Addr) : Option Ipv4Addr :=
  if address.segments.take 6 == [0, 0, 0, 0, 0, 0xffff] then
    some (.ofHalves address.s6 address.s7)
  else none

def hexText (segment : UInt16) : String :=
  String.ofList (Nat.toDigits 16 segment.toNat)

/-- How many segments from an index on are zero. -/
def zerosFrom (segments : List UInt16) (start : Nat) : Nat :=
  ((segments.drop start).takeWhile (· == 0)).length

/-- The first longest run of zero segments, as its start. -/
def longestZeros (segments : List UInt16) : Nat :=
  (List.range segments.length).foldl (fun best start =>
    if zerosFrom segments best < zerosFrom segments start then start
    else best) 0

def toText (address : Ipv6Addr) : String :=
  match address.toIpv4Mapped with
  | some mapped => "::ffff:" ++ mapped.toText
  | none =>
      let segments := address.segments
      let start := longestZeros segments
      let length := zerosFrom segments start
      if 1 < length then
        ":".intercalate ((segments.take start).map hexText) ++ "::" ++
          ":".intercalate ((segments.drop (start + length)).map hexText)
      else
        ":".intercalate (segments.map hexText)

end Ipv6Addr

namespace IpAddr

def isUnspecified : IpAddr → Bool
  | .v4 address => address.isUnspecified
  | .v6 address => address.isUnspecified

def isLoopback : IpAddr → Bool
  | .v4 address => address.isLoopback
  | .v6 address => address.isLoopback

def toText : IpAddr → String
  | .v4 address => address.toText
  | .v6 address => address.toText

/-! ## Parsing -/

def digitValue (radix : Nat) (character : Char) : Option Nat :=
  let value :=
    if '0' ≤ character ∧ character ≤ '9' then
      some (character.toNat - '0'.toNat)
    else if 'a' ≤ character ∧ character ≤ 'z' then
      some (character.toNat - 'a'.toNat + 10)
    else if 'A' ≤ character ∧ character ≤ 'Z' then
      some (character.toNat - 'A'.toNat + 10)
    else none
  value.filter (· < radix)

/-- A number of at most `maxDigits` digits below `limit`, with leading zeros
only where they are allowed. -/
def readNumber (radix maxDigits limit : Nat) (zeroStart : Bool)
    (text : List Char) : Option (Nat × List Char) :=
  let digits := text.takeWhile fun character =>
    (digitValue radix character).isSome
  let value := digits.foldl (fun value digit =>
    radix * value + (digitValue radix digit).getD 0) 0
  if digits.length = 0 ∨ maxDigits < digits.length then none
  else if !zeroStart && digits.head? == some '0' && 1 < digits.length then none
  else if value < limit then some (value, text.drop digits.length)
  else none

/-- Read an item after its separator, unless it is the first one. -/
def readSeparated (separator : Char) (index : Nat)
    (read : List Char → Option (α × List Char)) (text : List Char) :
    Option (α × List Char) :=
  if index = 0 then read text
  else
    match text with
    | character :: rest => if character = separator then read rest else none
    | [] => none

def readOctet (index : Nat) : List Char → Option (Nat × List Char) :=
  readSeparated '.' index (readNumber 10 3 256 false)

def readIpv4 (text : List Char) : Option (Ipv4Addr × List Char) := do
  let a ← readOctet 0 text
  let b ← readOctet 1 a.2
  let c ← readOctet 2 b.2
  let d ← readOctet 3 c.2
  pure (⟨UInt8.ofNat a.1, UInt8.ofNat b.1, UInt8.ofNat c.1, UInt8.ofNat d.1⟩,
    d.2)

/-- Groups read so far, whether they end in an IPv4 address, and the rest. -/
structure Groups where
  groups : List UInt16
  endsInIpv4 : Bool
  rest : List Char

/-- Read up to `remaining` of `limit` groups; the last two may be an IPv4
address. -/
def readGroups (limit : Nat) : Nat → List Char → Groups
  | 0, text => ⟨[], false, text⟩
  | remaining + 1, text =>
      let index := limit - (remaining + 1)
      let ipv4 :=
        if 1 ≤ remaining then readSeparated ':' index readIpv4 text else none
      match ipv4 with
      | some (address, rest) => ⟨[address.high, address.low], true, rest⟩
      | none =>
          match readSeparated ':' index (readNumber 16 4 65536 true) text with
          | none => ⟨[], false, text⟩
          | some (group, rest) =>
              let later := readGroups limit remaining rest
              { later with groups := UInt16.ofNat group :: later.groups }

def readIpv6 (text : List Char) : Option (Ipv6Addr × List Char) :=
  let head := readGroups 8 8 text
  if head.groups.length = 8 then some (.ofSegments head.groups, head.rest)
  else if head.endsInIpv4 then none
  else
    match head.rest with
    | ':' :: ':' :: rest =>
        let limit := 8 - (head.groups.length + 1)
        let tail := readGroups limit limit rest
        let zeros := 8 - head.groups.length - tail.groups.length
        some (.ofSegments (head.groups ++ List.replicate zeros 0 ++
          tail.groups), tail.rest)
    | _ => none

/-- The address that a whole text stands for. -/
@[irreducible] def parse (text : String) : Option IpAddr :=
  match readIpv4 text.toList with
  | some (address, rest) => if rest = [] then some (.v4 address) else none
  | none =>
      match readIpv6 text.toList with
      | some (address, rest) => if rest = [] then some (.v6 address) else none
      | none => none

example : parse "169.254.169.254" = some (.v4 ⟨169, 254, 169, 254⟩) := by
  decide +kernel

example : parse "2606:4700:4700::1111" =
    some (.v6 ⟨0x2606, 0x4700, 0x4700, 0, 0, 0, 0, 0x1111⟩) := by
  decide +kernel

example : parse "127.1" = none := by decide +kernel

end IpAddr

end AimailGateway.Library
