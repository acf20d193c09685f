import AimailGateway.Storage.Call
import AimailGateway.Webhook.Target

/-! # Where an accepted webhook URL leads

The guard classifies the host that it cuts out of the URL; the HTTP client goes
to the host that it parses. An accepted URL stays outside when the two agree and
the classified address is no IPv4-mapped form of a blocked one.
-/

namespace AimailGateway.Webhook

open Library

/-- The address that the guard classifies last: a literal, or the first answer
at delivery. -/
def classified (delivery : Resolver) (url : String) : Option IpAddr :=
  match IpAddr.parse (guardHost url) with
  | some ip => some ip
  | none =>
      match delivery (guardHost url) with
      | .ok (pinned :: _) => some pinned
      | _ => none

/-- The guard lets the URL pass at registration and at delivery. -/
structure Admitted (registration delivery : Resolver) (build : Option String)
    (url : String) (ip : IpAddr) : Prop where
  scheme : hasWebScheme (Text.trim url) = true
  host : guardHost (Text.trim url) ≠ ""
  address : classified delivery (Text.trim url) = some ip
  allowed : ipIsBlocked ip false = false
  named : IpAddr.parse (guardHost (Text.trim url)) = none →
    build = none ∧
      ∀ addresses, registration (guardHost (Text.trim url)) = .ok addresses →
        ∀ other ∈ addresses, ipIsBlocked other false = false

def admittedClient (url : String) (ip : IpAddr) : Client :=
  match IpAddr.parse (guardHost (Text.trim url)) with
  | some _ => .base
  | none => .pinned (guardHost (Text.trim url)) ip

/-- The HTTP client reads the host that the guard has classified. -/
def Agree (http : HttpClient) (url : String) : Prop :=
  http.hostOf url = some
    (match IpAddr.parse (guardHost (Text.trim url)) with
    | some ip => .address ip
    | none => .domain (Text.toAsciiLowercase (guardHost (Text.trim url))))

def HttpClient.ownDestinations (http : HttpClient) (url : String) :
    List IpAddr :=
  match http.hostOf url with
  | none => []
  | some (.address ip) => [ip]
  | some (.domain name) => http.lookup name

/-- The IPv4-mapped form of a blocked address. -/
def mapsInside : IpAddr → Bool
  | .v4 _ => false
  | .v6 address =>
      address.toIpv4Mapped.any fun mapped => ipIsBlocked (.v4 mapped) false

section Guard

variable {registration delivery : Resolver} {build : Option String}
variable {url : String} {ip : IpAddr} {client : Client} {http : HttpClient}

theorem reachesInside_of_allowed (allowed : ipIsBlocked ip false = false) :
    reachesInside ip = mapsInside ip := by
  unfold reachesInside
  rw [allowed, Bool.false_or]
  cases ip with
  | v4 address => rfl
  | v6 address => rfl

theorem admitted_of_ok
    (registered : validateWebhookTarget registration url false = .ok ())
    (delivered : pinnedClient delivery build url false = .ok client) :
    ∃ ip, Admitted registration delivery build url ip ∧
      client = admittedClient url ip := by
  unfold validateWebhookTarget at registered
  unfold pinnedClient at delivered
  simp only at registered delivered
  cases scheme : hasWebScheme (Text.trim url) with
  | false =>
      rw [scheme] at delivered
      cases delivered
  | true =>
  rw [scheme] at registered delivered
  simp only [Bool.not_true, Bool.false_eq_true, if_false] at registered delivered
  by_cases host : guardHost (Text.trim url) = ""
  · rw [if_pos host] at delivered
    cases delivered
  rw [if_neg host] at registered delivered
  cases literal : IpAddr.parse (guardHost (Text.trim url)) with
  | some ip =>
      rw [literal] at delivered
      simp only at delivered
      split at delivered
      · cases delivered
      · rename_i allowed
        cases delivered
        refine ⟨ip, ⟨scheme, host, ?_, by simpa using allowed, ?_⟩, ?_⟩
        · simp only [classified, literal]
        · intro none
          rw [literal] at none
          cases none
        · simp only [admittedClient, literal]
  | none =>
      rw [literal] at registered delivered
      simp only at registered delivered
      split at delivered
      · cases delivered
      · cases delivered
      · rename_i pinned rest answer
        split at delivered
        · cases delivered
        · rename_i allowed
          split at delivered
          · cases delivered
          · cases delivered
            refine ⟨pinned, ⟨scheme, host, ?_, by simpa using allowed, ?_⟩, ?_⟩
            · simp only [classified, literal, answer]
            · refine fun _ => ⟨rfl, fun addresses found => ?_⟩
              rw [found] at registered
              simp only at registered
              split at registered
              · cases registered
              · rename_i clear
                intro other member
                simpa using List.find?_eq_none.mp clear other member
            · simp only [admittedClient, literal]

theorem ok_of_admitted
    (admitted : Admitted registration delivery build url ip) :
    validateWebhookTarget registration url false = .ok () ∧
      pinnedClient delivery build url false =
        .ok (admittedClient url ip) := by
  have address := admitted.address
  unfold validateWebhookTarget pinnedClient
  simp only [admitted.scheme, Bool.not_true, Bool.false_eq_true, if_false]
  rw [if_neg admitted.host, if_neg admitted.host]
  cases literal : IpAddr.parse (guardHost (Text.trim url)) with
  | some own =>
      simp only [classified, literal, Option.some.injEq] at address
      subst address
      simp only [admitted.allowed, admittedClient, literal, Bool.false_eq_true,
        if_false, and_self]
  | none =>
      have named := admitted.named literal
      simp only [classified, literal] at address
      split at address
      · rename_i pinned rest answer
        simp only [Option.some.injEq] at address
        subst address
        constructor
        · cases found : registration (guardHost (Text.trim url)) with
          | error error => rfl
          | ok addresses =>
              have clear : addresses.find? (ipIsBlocked · false) = none := by
                rw [List.find?_eq_none]
                intro other member
                rw [named.2 addresses found other member]
                exact Bool.false_ne_true
              simp only [clear]
        · simp only [answer, admitted.allowed, named.1, admittedClient, literal,
            Bool.false_eq_true, if_false]
      · cases address

theorem destinations_agree
    (admitted : Admitted registration delivery build url ip)
    (agree : Agree http url) :
    http.destinations (admittedClient url ip) url = [ip] := by
  have address := admitted.address
  unfold Agree at agree
  unfold HttpClient.destinations admittedClient
  cases literal : IpAddr.parse (guardHost (Text.trim url)) with
  | some own =>
      simp only [classified, literal, Option.some.injEq] at address
      rw [literal] at agree
      simp only [agree, address]
  | none =>
      rw [literal] at agree
      simp only [agree, if_true]

theorem destinations_disagree (disagree : ¬ Agree http url) :
    http.destinations (admittedClient url ip) url =
      http.ownDestinations url := by
  unfold Agree at disagree
  unfold HttpClient.destinations HttpClient.ownDestinations admittedClient
  cases parsed : http.hostOf url with
  | none => rfl
  | some own =>
      cases own with
      | address other => rfl
      | domain name =>
          cases literal : IpAddr.parse (guardHost (Text.trim url)) with
          | some other => rfl
          | none =>
              rw [literal, parsed] at disagree
              have different : Text.toAsciiLowercase
                  (guardHost (Text.trim url)) ≠ name := by
                intro same
                exact disagree (congrArg _ (congrArg _ same.symm))
              simp only [if_neg different]

/-! ## The check of a registration -/

/-- The surroundings in which the guard checks the URLs, with the resolver of
the step. -/
def guarded (env : Surroundings) (resolver : Nat → Resolver)
    (allowPrivate : Bool) : Surroundings :=
  { env with
    webhookTarget := fun tick url =>
      match validateWebhookTarget (resolver tick) url allowPrivate with
      | .error (.validation reason) => some reason
      | _ => none }

theorem validateWebhookTarget_refused {error : AppError} {allowPrivate : Bool}
    (refused : validateWebhookTarget registration url allowPrivate =
      .error error) : ∃ reason, error = .validation reason := by
  unfold validateWebhookTarget at refused
  simp only at refused
  repeat' split at refused
  all_goals cases refused
  all_goals exact ⟨_, rfl⟩

theorem webhookCheck_guarded (env : Surroundings) (resolver : Nat → Resolver)
    (allowPrivate : Bool) (world : World) :
    webhookCheck (guarded env resolver allowPrivate) url world =
      (validateWebhookTarget (resolver world.tick) url allowPrivate,
        world.later) := by
  cases checked : validateWebhookTarget (resolver world.tick) url
      allowPrivate with
  | ok value => simp only [webhookCheck, guarded, checked]
  | error error =>
      rcases validateWebhookTarget_refused checked with ⟨reason, rfl⟩
      simp only [webhookCheck, guarded, checked]

theorem admitted_of_checked (env : Surroundings) (resolver : Nat → Resolver)
    (world : World)
    (registered : (webhookCheck (guarded env resolver false) url world).1 =
      .ok ())
    (delivered : pinnedClient delivery build url false = .ok client) :
    ∃ ip, Admitted (resolver world.tick) delivery build url ip ∧
      client = admittedClient url ip := by
  simp only [webhookCheck_guarded] at registered
  exact admitted_of_ok registered delivered

end Guard

/-- No accepted URL leads to a blocked address exactly when the guard refuses
the URL, or classifies the host the client goes to and no mapped form slips
through, or the client itself goes outside. -/
theorem target_outside_iff (http : HttpClient)
    (registration delivery : Resolver) (build : Option String) (url : String) :
    (∀ client, validateWebhookTarget registration url false = .ok () →
      pinnedClient delivery build url false = .ok client →
      ∀ ip ∈ http.destinations client url, reachesInside ip = false) ↔
    ((∀ ip, ¬ Admitted registration delivery build url ip) ∨
      (Agree http url ∧ ∀ ip, classified delivery (Text.trim url) = some ip →
        mapsInside ip = false) ∨
      (¬ Agree http url ∧ ∀ ip ∈ http.ownDestinations url,
        reachesInside ip = false)) := by
  constructor
  · intro outside
    by_cases refuses : ∀ ip, ¬ Admitted registration delivery build url ip
    · exact .inl refuses
    · rw [not_forall] at refuses
      rcases refuses with ⟨ip, admitted⟩
      have admitted := not_not.mp admitted
      have passes := ok_of_admitted admitted
      have stays := outside _ passes.1 passes.2
      right
      by_cases agree : Agree http url
      · left
        refine ⟨agree, fun other address => ?_⟩
        rw [admitted.address, Option.some.injEq] at address
        subst address
        rw [destinations_agree admitted agree] at stays
        rw [← reachesInside_of_allowed admitted.allowed]
        exact stays _ List.mem_cons_self
      · right
        rw [destinations_disagree agree] at stays
        exact ⟨agree, stays⟩
  · intro condition client registered delivered destination member
    rcases admitted_of_ok registered delivered with ⟨ip, admitted, rfl⟩
    rcases condition with refuses | ⟨agree, unmapped⟩ | ⟨disagree, outside⟩
    · exact absurd admitted (refuses ip)
    · rw [destinations_agree admitted agree, List.mem_singleton] at member
      subst member
      rw [reachesInside_of_allowed admitted.allowed]
      exact unmapped _ admitted.address
    · rw [destinations_disagree disagree] at member
      exact outside _ member

def loopback : Ipv4Addr := ⟨127, 0, 0, 1⟩

def mappedLoopback : Ipv6Addr := ⟨0, 0, 0, 0, 0, 0xffff, 0x7f00, 1⟩

def mappedUrl : String := "http://[::ffff:127.0.0.1]/hook"

/-- For the HTTP client the backslash ends the authority. -/
def backslashUrl : String := "http://127.0.0.1\\@mail.example/hook"

/-- How an HTTP client reads the two URLs. -/
def sampleHttp : HttpClient where
  hostOf url :=
    if url = mappedUrl then some (.address (.v6 mappedLoopback))
    else if url = backslashUrl then some (.address (.v4 loopback))
    else none
  lookup _ := []

def sampleResolver : Resolver := fun _ => .ok [.v4 ⟨93, 184, 216, 34⟩]

/-- Both URLs are accepted, and both lead to the loopback. -/
theorem accepted_urls_reach_loopback :
    (validateWebhookTarget sampleResolver mappedUrl false = .ok () ∧
      pinnedClient sampleResolver none mappedUrl false = .ok .base ∧
      sampleHttp.destinations .base mappedUrl = [.v6 mappedLoopback] ∧
      reachesInside (.v6 mappedLoopback) = true) ∧
    (validateWebhookTarget sampleResolver backslashUrl false = .ok () ∧
      pinnedClient sampleResolver none backslashUrl false =
        .ok (.pinned "mail.example" (.v4 ⟨93, 184, 216, 34⟩)) ∧
      sampleHttp.destinations
        (.pinned "mail.example" (.v4 ⟨93, 184, 216, 34⟩)) backslashUrl =
          [.v4 loopback] ∧
      reachesInside (.v4 loopback) = true) := by
  decide +kernel

end AimailGateway.Webhook
