import AimailGateway.Errors
import AimailGateway.Library.Text
import AimailGateway.Storage.Records

/-! # Signed requests

The authentication layer: headers, freshness window, body, signature and the
cache of verified signatures.
-/

namespace AimailGateway.Auth

open Library

/-! ## Texts of the headers -/

def hexDigit (character : Char) : Option Nat :=
  if '0' ≤ character ∧ character ≤ '9' then
    some (character.toNat - '0'.toNat)
  else if 'a' ≤ character ∧ character ≤ 'f' then
    some (character.toNat - 'a'.toNat + 10)
  else if 'A' ≤ character ∧ character ≤ 'F' then
    some (character.toNat - 'A'.toNat + 10)
  else none

/-- `hex::decode`: an even number of digits in either case. -/
def hexDecode : List Char → Option (List UInt8)
  | [] => some []
  | [_] => none
  | high :: low :: rest => do
      let high ← hexDigit high
      let low ← hexDigit low
      let rest ← hexDecode rest
      pure (UInt8.ofNat (16 * high + low) :: rest)

/-- The digits of a number below `2 ^ 64`. -/
def parseDigits : Nat → List Char → Option Nat
  | value, [] => some value
  | value, digit :: rest =>
      if '0' ≤ digit ∧ digit ≤ '9' then
        let next := 10 * value + (digit.toNat - '0'.toNat)
        if next < 2 ^ 64 then parseDigits next rest else none
      else none

/-- `str::parse::<u64>`: digits, after a plus sign perhaps. -/
def parseU64 (text : String) : Option Nat :=
  match text.toList with
  | [] => none
  | ['+'] => none
  | '+' :: digits => parseDigits 0 digits
  | digits => parseDigits 0 digits

/-! ## Signatures -/

/-- The primitives of the signature and the unsealing of stored keys. -/
structure Crypto where
  /-- The hexadecimal SHA-256 of a body. -/
  sha256Hex : List UInt8 → String
  /-- HMAC-SHA256 of a message under a key. -/
  hmac : String → String → List UInt8
  /-- The signing material behind a stored hash. -/
  signingMaterial : String → Except String String

variable (crypto : Crypto)

def signatureBase (method path timestamp : String) (body : List UInt8) :
    String :=
  method ++ "\n" ++ path ++ "\n" ++ timestamp ++ "\n" ++ crypto.sha256Hex body

/-- The first candidate whose signature of the request is the given one. A key
that cannot be unsealed is skipped. -/
def verifyRequestSignature (candidates : List ApiKeyRecord)
    (method path timestamp : String) (body providedSig : List UInt8) :
    Option ApiKeyRecord :=
  candidates.find? fun record =>
    match crypto.signingMaterial record.keyHash with
    | .ok material =>
        crypto.hmac material
          (signatureBase crypto method path timestamp body) == providedSig
    | .error _ => false

/-- Candidate keys by caller identity: those of the address, then those of the
system. `clock` is the moment the query runs, as SQLite writes it. -/
def listApiKeysByIdentity (identity clock : String)
    (apiKeys : List ApiKeyRecord) : List ApiKeyRecord :=
  if identity = "" then []
  else
    let live := apiKeys.filter fun row =>
      row.isActive && row.expiresAt.all fun expiry => decide (clock < expiry)
    live.filter (·.emailAddress == identity) ++
      live.filter (·.systemId == identity)

/-! ## The cache of verified signatures -/

/-- Nonce keys with the moment they were verified, and the order in which they
were inserted. -/
structure SignatureCache where
  cap : Nat
  ttlMs : Nat
  key : List (String × Nat)
  order : List String
  deriving DecidableEq, Repr

namespace SignatureCache

def new (capacity ttlMs : Nat) : SignatureCache where
  cap := capacity
  ttlMs := ttlMs
  key := []
  order := []

def get (key : List (String × Nat)) (nonceKey : String) : Option Nat :=
  (key.find? (·.1 == nonceKey)).map (·.2)

def remove (key : List (String × Nat)) (nonceKey : String) :
    List (String × Nat) :=
  key.filter (·.1 != nonceKey)

/-- Evict the oldest insertions until the map is within capacity. -/
def evict (cap : Nat) (key : List (String × Nat)) :
    List String → List (String × Nat) × List String
  | [] => (key, [])
  | oldest :: order =>
      if key.length ≤ cap then (key, oldest :: order)
      else evict cap (remove key oldest) order

def record (cache : SignatureCache) (nonceKey : String) (now : Nat) :
    SignatureCache :=
  let evicted := evict cache.cap
    ((nonceKey, now) :: remove cache.key nonceKey) (cache.order ++ [nonceKey])
  { cache with key := evicted.1, order := evicted.2 }

/-- When the nonce was already verified within the TTL, that moment; otherwise
it is recorded. -/
def checkAndRecord (cache : SignatureCache) (nonceKey : String) (now : Nat) :
    Option Nat × SignatureCache :=
  match get cache.key nonceKey with
  | some verified =>
      if now - verified ≤ cache.ttlMs then (some verified, cache)
      else (none, cache.record nonceKey now)
  | none => (none, cache.record nonceKey now)

end SignatureCache

/-! ## The layer -/

structure BodyCaps where
  regular : Nat
  attachment : Nat
  deriving DecidableEq, Repr

/-- Only the upload endpoint may exceed the regular cap. -/
def BodyCaps.forPath (caps : BodyCaps) (path : String) : Nat :=
  if Text.startsWith "/api/v1/upload" path then caps.attachment
  else caps.regular

/-- A request as the layer reads it; a header that is missing or no visible
ASCII is `none`. -/
structure SignedRequest where
  identity : Option String
  timestamp : Option String
  signature : Option String
  method : String
  path : String
  frames : List (Except String (List UInt8))

inductive BodyFailure where
  | overCap
  | unreadable
  deriving DecidableEq, Repr

def readBody (cap : Nat) (buffer : List UInt8) :
    List (Except String (List UInt8)) → Except BodyFailure (List UInt8)
  | [] => .ok buffer
  | .ok chunk :: frames =>
      if (buffer ++ chunk).length > cap then .error .overCap
      else readBody cap (buffer ++ chunk) frames
  | .error _ :: _ => .error .unreadable

/-- A signed timestamp too far from the clock, either way. -/
def windowExpired (timestampMs nowMs windowMs : Nat) : Bool :=
  decide (windowMs < (timestampMs - nowMs) + (nowMs - timestampMs))

inductive Verdict where
  | refused (error : HttpError)
  | accepted (record : ApiKeyRecord) (body : List UInt8)
  deriving DecidableEq, Repr

def unauthorized (error : String) : HttpError :=
  ⟨.unauthorized, error, none⟩

def replayed (firstSeenMs : Nat) : HttpError :=
  ⟨.conflict, "replayed", some ("signature already verified at " ++
    toString firstSeenMs ++
    " ms — re-sends inside the window are rejected")⟩

def bodyRefused (cap : Nat) : BodyFailure → HttpError
  | .overCap => ⟨.payloadTooLarge, "payload_too_large",
      some ("body exceeds the " ++ toString cap ++ " byte cap for this route")⟩
  | .unreadable =>
      ⟨.payloadTooLarge, "Payload too large or unreadable", none⟩

/-- Settings of the layer. -/
structure AuthConfig where
  windowMs : Nat
  caps : BodyCaps
  deriving DecidableEq, Repr

/-- What a request passes before the replay check. -/
structure Verified where
  identity : String
  timestamp : String
  timestampMs : Nat
  signature : List UInt8
  body : List UInt8
  record : ApiKeyRecord
  deriving DecidableEq, Repr

/-- A request on its way through the layer: the clock at the window check and
at the replay check, and what the query of the keys sees. -/
structure Arrival where
  request : SignedRequest
  checkedAt : Nat
  recordedAt : Nat
  clock : String
  apiKeys : Except AppError (List ApiKeyRecord)

/-- Headers, window, body and signature. -/
def verify (config : AuthConfig) (arrival : Arrival) :
    Except HttpError Verified :=
  let request := arrival.request
  let identity := request.identity.getD ""
  if identity = "" then
    .error (unauthorized
      "identity_required: X-Api-Identity must name a system or address")
  else
    match request.timestamp, request.signature with
    | some timestamp, some signature =>
        match parseU64 timestamp with
        | none => .error (unauthorized "Invalid X-Api-Timestamp")
        | some timestampMs =>
            if windowExpired timestampMs arrival.checkedAt config.windowMs then
              .error (unauthorized ("Stale X-Api-Timestamp (outside ±" ++
                toString (config.windowMs / 1000) ++ " s window)"))
            else
              match hexDecode signature.toList with
              | none => .error (unauthorized "Invalid X-Api-Signature")
              | some providedSig =>
                  let cap := config.caps.forPath request.path
                  match readBody cap [] request.frames with
                  | .error failure => .error (bodyRefused cap failure)
                  | .ok body =>
                      match arrival.apiKeys with
                      | .error _ =>
                          .error (unauthorized "Authentication error")
                      | .ok apiKeys =>
                          let candidates := listApiKeysByIdentity identity
                            arrival.clock apiKeys
                          match verifyRequestSignature crypto candidates
                            request.method request.path timestamp body
                            providedSig with
                          | none =>
                              .error (unauthorized "Invalid X-Api-Signature")
                          | some record =>
                              .ok ⟨identity, timestamp, timestampMs,
                                providedSig, body, record⟩
    | _, _ =>
        .error (unauthorized
          "Missing X-Api-Timestamp or X-Api-Signature header")

def nonceKey (identity timestamp method path : String) : String :=
  identity ++ "\n" ++ timestamp ++ "\n" ++ method ++ "\n" ++ path

/-- The layer; without a cache there is no replay check. -/
def authLayer (config : AuthConfig) (cache : Option SignatureCache)
    (arrival : Arrival) : Verdict × Option SignatureCache :=
  match verify crypto config arrival with
  | .error error => (.refused error, cache)
  | .ok verified =>
      let nonce := nonceKey verified.identity verified.timestamp
        arrival.request.method arrival.request.path
      match cache with
      | none => (.accepted verified.record verified.body, none)
      | some cache =>
          match cache.checkAndRecord nonce arrival.recordedAt with
          | (some firstSeenMs, later) =>
              (.refused (replayed firstSeenMs), some later)
          | (none, later) =>
              (.accepted verified.record verified.body, some later)

end AimailGateway.Auth
