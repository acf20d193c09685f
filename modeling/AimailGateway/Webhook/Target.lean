import AimailGateway.Errors
import AimailGateway.Library.IpAddr
import AimailGateway.Library.Text

/-! # Webhook targets

Delivery to loopback, private, link-local, ULA or unspecified addresses is
refused at registration and again right before the request.
-/

namespace AimailGateway.Webhook

open Library

/-- The address must never be a target while `allowPrivate` is false. -/
def ipIsBlocked (ip : IpAddr) (allowPrivate : Bool) : Bool :=
  if allowPrivate then false
  else if ip.isUnspecified || ip.isLoopback then true
  else
    match ip with
    | .v4 address => address.isPrivate || address.isLinkLocal
    | .v6 address =>
        (address.s0 &&& 0xfe00) == 0xfc00 || (address.s0 &&& 0xffc0) == 0xfe80

/-- An absolute http(s) URL, by its first characters. -/
def hasWebScheme (url : String) : Bool :=
  Text.startsWith "http://" url || Text.startsWith "https://" url

/-- The characters of a text before the first occurrence of `part`. -/
def charsBefore (part : List Char) : List Char → List Char
  | [] => []
  | character :: rest =>
      if part.isPrefixOf (character :: rest) then []
      else character :: charsBefore part rest

/-- The characters after the first occurrence of `part`. -/
def charsAfter (part : List Char) : List Char → Option (List Char)
  | [] => none
  | character :: rest =>
      if part.isPrefixOf (character :: rest) then
        some ((character :: rest).drop part.length)
      else charsAfter part rest

/-- The text between the first `://` and the second one. -/
def afterScheme (url : String) : Option String :=
  (charsAfter "://".toList url.toList).map fun rest =>
    String.ofList (charsBefore "://".toList rest)

def isAuthorityEnd (character : Char) : Bool :=
  character == '/' || character == '?' || character == '#'

def hostOfAuthority (authority : String) : String :=
  let hostPort := Text.lastPiece '@' authority
  match Text.afterStart "[" hostPort with
  | some stripped => Text.firstPiece ']' stripped
  | none => Text.firstPiece ':' hostPort

/-- The host, cut out of the URL by hand. -/
@[irreducible] def guardHost (url : String) : String :=
  match afterScheme url with
  | some rest => hostOfAuthority
      (String.ofList (rest.toList.takeWhile (!isAuthorityEnd ·)))
  | none => ""

def targetError (url ip : String) : AppError :=
  .validation ("webhook_target_not_allowed: '" ++ url ++
    "' resolves to blocked address " ++ ip ++
    " (loopback/private/link-local/ULA/unspecified). Set " ++
    "[webhook] allow_private_targets = true for a private deployment")

/-- The answers of the resolver to one lookup of each name. -/
abbrev Resolver := String → Except String (List IpAddr)

/-- The check at registration. A name that does not resolve is stored. -/
def validateWebhookTarget (resolver : Resolver) (url : String)
    (allowPrivate : Bool) : Except AppError Unit :=
  let u := Text.trim url
  let host := guardHost u
  if !hasWebScheme u then
    .error (.validation ("webhook_url must be an absolute http(s) URL (got '" ++
      u ++ "')"))
  else if host = "" then
    .error (.validation ("webhook_url has no host: '" ++ u ++ "'"))
  else
    match IpAddr.parse host with
    | some ip =>
        if ipIsBlocked ip allowPrivate then
          .error (targetError u ip.toText)
        else .ok ()
    | none =>
        match resolver host with
        | .ok addresses =>
            match addresses.find? (ipIsBlocked · allowPrivate) with
            | some ip => .error (targetError u ip.toText)
            | none => .ok ()
        | .error _ => .ok ()

/-- The client a request is sent with: the shared one, or one that connects to
a pinned address for one name. -/
inductive Client where
  | base
  | pinned (host : String) (ip : IpAddr)
  deriving DecidableEq, Repr

/-- The client for a delivery. `build` is the error of the client builder. -/
def pinnedClient (resolver : Resolver) (build : Option String) (url : String)
    (allowPrivate : Bool) : Except String Client :=
  let u := Text.trim url
  let host := guardHost u
  if !hasWebScheme u then
    .error ("webhook_target_not_allowed: '" ++ u ++
      "' is not an absolute http(s) URL")
  else if host = "" then
    .error ("webhook_target_not_allowed: '" ++ u ++ "' has no host")
  else
    match IpAddr.parse host with
    | some ip =>
        if ipIsBlocked ip allowPrivate then
          .error ("webhook_target_not_allowed: blocked address " ++ ip.toText ++
            " (set [webhook] allow_private_targets = true to permit)")
        else .ok .base
    | none =>
        match resolver host with
        | .error error =>
            .error ("webhook_target_not_allowed: host '" ++ host ++
              "' does not resolve (" ++ error ++ ")")
        | .ok [] =>
            .error ("webhook_target_not_allowed: host '" ++ host ++
              "' resolved to no addresses")
        | .ok (pinned :: _) =>
            if ipIsBlocked pinned allowPrivate then
              .error ("webhook_target_not_allowed: host '" ++ host ++
                "' resolved to blocked address " ++ pinned.toText ++
                " (possible DNS rebinding; set [webhook] " ++
                "allow_private_targets = true to permit)")
            else
              match build with
              | some error =>
                  .error ("webhook_target_not_allowed: pinned client build " ++
                    "failed: " ++ error)
              | none => .ok (.pinned host pinned)

/-! ## The HTTP client -/

/-- A host as the HTTP client reads it out of a URL. -/
inductive UrlHost where
  | address (ip : IpAddr)
  | domain (name : String)
  deriving DecidableEq, Repr

/-- The HTTP client: how it parses the host of a URL, `none` for a URL it
refuses, and what it resolves a name to at the moment of the connection. -/
structure HttpClient where
  hostOf : String → Option UrlHost
  lookup : String → List IpAddr

/-- The addresses a request may be sent to. A pinned name is compared in lower
case and never looked up. -/
def HttpClient.destinations (http : HttpClient) (client : Client)
    (url : String) : List IpAddr :=
  match http.hostOf url with
  | none => []
  | some (.address ip) => [ip]
  | some (.domain name) =>
      match client with
      | .base => http.lookup name
      | .pinned host ip =>
          if Text.toAsciiLowercase host = name then [ip] else http.lookup name

/-- The address is blocked, or is the IPv4-mapped form of a blocked one. -/
def reachesInside (ip : IpAddr) : Bool :=
  ipIsBlocked ip false ||
    match ip with
    | .v4 _ => false
    | .v6 address =>
        address.toIpv4Mapped.any fun mapped => ipIsBlocked (.v4 mapped) false

end AimailGateway.Webhook
