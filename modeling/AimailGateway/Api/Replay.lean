import AimailGateway.Api.Signature
import AimailGateway.Library.Execution

/-! # Replays of signed requests

The nonce of a request is its identity header, timestamp, method and path; what
is signed is method, path, timestamp and body. A run of the layer in which the
two agree, and in which no timestamp is ahead of the clock, accepts no request
twice and refuses none as a replay that was not accepted before.
-/

namespace AimailGateway.Auth

open Library

/-! ## The cache -/

namespace SignatureCache

variable {key : List (String × Nat)} {nonceKey other : String} {now : Nat}

theorem get_cons_self : get ((nonceKey, now) :: key) nonceKey = some now := by
  simp [get]

theorem get_remove_other (different : other ≠ nonceKey) :
    get (remove key nonceKey) other = get key other := by
  unfold get remove
  rw [List.find?_filter]
  congr 1
  congr 1
  funext entry
  by_cases same : entry.1 = other
  · simp [same, different]
  · simp [same]

theorem get_cons_remove_other (different : other ≠ nonceKey) :
    get ((nonceKey, now) :: remove key nonceKey) other = get key other := by
  have apart : (nonceKey == other) = false :=
    beq_eq_false_iff_ne.mpr (Ne.symm different)
  have kept : get (remove key nonceKey) other = get key other :=
    get_remove_other different
  rw [← kept]
  simp only [get, List.find?_cons, apart]

theorem mem_of_get (found : get key nonceKey = some now) :
    (nonceKey, now) ∈ key := by
  unfold get at found
  rcases Option.map_eq_some_iff.mp found with ⟨entry, search, value⟩
  have same : entry.1 = nonceKey := by
    simpa using List.find?_some search
  have member := List.mem_of_find?_eq_some search
  rwa [← same, ← value]

theorem length_remove_le : (remove key nonceKey).length ≤ key.length :=
  List.length_filter_le _ _

theorem record_key {cache : SignatureCache} (nonceKey : String) (now : Nat)
    (room : cache.key.length < cache.cap) :
    (cache.record nonceKey now).key =
      (nonceKey, now) :: remove cache.key nonceKey := by
  have fits : ((nonceKey, now) :: remove cache.key nonceKey).length ≤
      cache.cap :=
    Nat.le_trans (Nat.succ_le_succ length_remove_le) room
  unfold record
  cases cache.order ++ [nonceKey] with
  | nil => rfl
  | cons oldest order =>
      simp only [evict]
      rw [if_pos fits]

theorem checkAndRecord_cases (cache : SignatureCache) (nonceKey : String)
    (now : Nat) :
    (∃ verified, get cache.key nonceKey = some verified ∧
      cache.checkAndRecord nonceKey now = (some verified, cache)) ∨
    (cache.checkAndRecord nonceKey now = (none, cache.record nonceKey now) ∧
      ∀ verified, get cache.key nonceKey = some verified →
        cache.ttlMs < now - verified) := by
  unfold checkAndRecord
  cases found : get cache.key nonceKey with
  | none =>
      right
      exact ⟨rfl, fun _ impossible => by cases impossible⟩
  | some verified =>
      by_cases live : now - verified ≤ cache.ttlMs
      · left
        exact ⟨verified, rfl, if_pos live⟩
      · right
        refine ⟨if_neg live, fun other same => ?_⟩
        cases same
        exact Nat.lt_of_not_le live

end SignatureCache

/-! ## What is signed -/

/-- What the signature of a request covers, with the signature. -/
structure Content where
  method : String
  path : String
  timestamp : String
  body : List UInt8
  signature : List UInt8
  deriving DecidableEq, Repr

variable (crypto : Crypto) (config : AuthConfig)

def content (request : SignedRequest) : Option Content :=
  match request.timestamp, request.signature.bind (hexDecode ·.toList),
    readBody (config.caps.forPath request.path) [] request.frames with
  | some timestamp, some signature, .ok body =>
      some ⟨request.method, request.path, timestamp, body, signature⟩
  | _, _, _ => none

def SignedRequest.nonce (request : SignedRequest) : String :=
  nonceKey (request.identity.getD "") (request.timestamp.getD "")
    request.method request.path

def SignedRequest.timestampMs (request : SignedRequest) : Option Nat :=
  request.timestamp.bind parseU64

variable {crypto config}
  {arrival : Arrival} {verified : Verified}

theorem verify_ok (passed : verify crypto config arrival = .ok verified) :
    arrival.request.identity.getD "" = verified.identity ∧
      arrival.request.timestamp = some verified.timestamp ∧
      arrival.request.timestampMs = some verified.timestampMs ∧
      content config arrival.request =
        some ⟨arrival.request.method, arrival.request.path,
          verified.timestamp, verified.body, verified.signature⟩ := by
  unfold verify at passed
  simp only at passed
  by_cases named : arrival.request.identity.getD "" = ""
  · rw [if_pos named] at passed
    cases passed
  rw [if_neg named] at passed
  cases stamped : arrival.request.timestamp with
  | none =>
      rw [stamped] at passed
      cases passed
  | some timestamp =>
  cases signed : arrival.request.signature with
  | none =>
      rw [stamped, signed] at passed
      cases passed
  | some signature =>
  rw [stamped, signed] at passed
  simp only at passed
  cases parsed : parseU64 timestamp with
  | none =>
      rw [parsed] at passed
      cases passed
  | some timestampMs =>
  rw [parsed] at passed
  simp only at passed
  split at passed
  · cases passed
  cases decoded : hexDecode signature.toList with
  | none =>
      rw [decoded] at passed
      cases passed
  | some providedSig =>
  rw [decoded] at passed
  simp only at passed
  cases read : readBody (config.caps.forPath arrival.request.path) []
      arrival.request.frames with
  | error failure =>
      rw [read] at passed
      cases passed
  | ok body =>
  rw [read] at passed
  simp only at passed
  cases keys : arrival.apiKeys with
  | error failure =>
      rw [keys] at passed
      cases passed
  | ok apiKeys =>
  rw [keys] at passed
  simp only at passed
  split at passed
  · cases passed
  · cases passed
    refine ⟨rfl, rfl, ?_, ?_⟩
    · rw [SignedRequest.timestampMs, stamped]
      exact parsed
    · have bound : arrival.request.signature.bind (hexDecode ·.toList) =
          some providedSig := by
        rw [signed]
        exact decoded
      simp only [content, stamped, bound, read]

theorem verify_nonce (passed : verify crypto config arrival = .ok verified) :
    nonceKey verified.identity verified.timestamp arrival.request.method
      arrival.request.path = arrival.request.nonce := by
  have known := verify_ok passed
  rw [SignedRequest.nonce, known.1, known.2.1, Option.getD_some]

/-! ## Runs of the layer -/

def signatureCacheCapacity : Nat := 10000

/-- The layer between two requests, with the requests it has accepted. -/
structure Gateway where
  cache : SignatureCache
  accepted : List Arrival

def Gateway.start (config : AuthConfig) : Gateway where
  cache := .new signatureCacheCapacity config.windowMs
  accepted := []

variable (crypto config) in
/-- One request. -/
def Gateway.next (state : Gateway) (arrival : Arrival) : Gateway :=
  match authLayer crypto config (some state.cache) arrival with
  | (.accepted _ _, later) =>
      { cache := later.getD state.cache,
        accepted := state.accepted ++ [arrival] }
  | (.refused _, later) =>
      { state with cache := later.getD state.cache }

variable (crypto config) in
def Step (state : Gateway) (arrival : Arrival) (next : Gateway) : Prop :=
  next = state.next crypto config arrival

variable (config) in
/-- The cache has room, and nonce, signature and identity agree about whether
the request is a copy; a new timestamp is not ahead of the clock. -/
structure Honest (state : Gateway) (arrival : Arrival) : Prop where
  room : state.cache.key.length < state.cache.cap
  notAhead : (∀ past ∈ state.accepted,
      past.request.nonce ≠ arrival.request.nonce) →
    ∀ timestampMs, arrival.request.timestampMs = some timestampMs →
      timestampMs ≤ arrival.recordedAt
  sameIdentity : ∀ past ∈ state.accepted,
    content config past.request = content config arrival.request →
    past.request.identity.getD "" = arrival.request.identity.getD ""
  sameContent : ∀ past ∈ state.accepted,
    past.request.nonce = arrival.request.nonce →
    content config past.request = content config arrival.request

variable (crypto config) in
/-- The cache knows exactly the accepted requests, at moments not before their
timestamps. -/
structure Remembers (state : Gateway) : Prop where
  ttl : state.cache.ttlMs = config.windowMs
  passed : ∀ past ∈ state.accepted, ∃ verified,
    verify crypto config past = .ok verified
  recorded : ∀ past ∈ state.accepted, ∃ timestampMs verifiedAt,
    past.request.timestampMs = some timestampMs ∧
      SignatureCache.get state.cache.key past.request.nonce =
        some verifiedAt ∧ timestampMs ≤ verifiedAt
  known : ∀ entry ∈ state.cache.key, ∃ past ∈ state.accepted,
    past.request.nonce = entry.1

theorem start_remembers : Remembers crypto config (.start config) where
  ttl := rfl
  passed _ member := by cases member
  recorded _ member := by cases member
  known _ member := by cases member

variable (crypto config) in
theorem authLayer_cases (cache : SignatureCache) (arrival : Arrival) :
    (∃ error, verify crypto config arrival = .error error ∧
      authLayer crypto config (some cache) arrival =
        (.refused error, some cache)) ∨
    (∃ verified, verify crypto config arrival = .ok verified ∧
      ((∃ firstSeenMs,
        SignatureCache.get cache.key arrival.request.nonce =
          some firstSeenMs ∧
        authLayer crypto config (some cache) arrival =
          (.refused (replayed firstSeenMs), some cache)) ∨
      ((∀ firstSeenMs, SignatureCache.get cache.key arrival.request.nonce =
          some firstSeenMs → cache.ttlMs < arrival.recordedAt - firstSeenMs) ∧
        authLayer crypto config (some cache) arrival =
          (.accepted verified.record verified.body,
            some (cache.record arrival.request.nonce
              arrival.recordedAt))))) := by
  cases outcome : verify crypto config arrival with
  | error error =>
      left
      refine ⟨error, rfl, ?_⟩
      simp only [authLayer, outcome]
  | ok verified =>
      right
      refine ⟨verified, rfl, ?_⟩
      have nonce := verify_nonce outcome
      rcases cache.checkAndRecord_cases arrival.request.nonce
          arrival.recordedAt with ⟨firstSeenMs, found, hit⟩ | ⟨missed, stale⟩
      · left
        refine ⟨firstSeenMs, found, ?_⟩
        simp only [authLayer, outcome, nonce, hit]
      · right
        refine ⟨stale, ?_⟩
        simp only [authLayer, outcome, nonce, missed]

theorem timestampMs_of_content {first second : Arrival}
    {left right : Verified} (passed : verify crypto config first = .ok left)
    (also : verify crypto config second = .ok right)
    (same : content config first.request = content config second.request) :
    first.request.timestampMs = second.request.timestampMs ∧
      first.request.timestamp = second.request.timestamp ∧
      first.request.method = second.request.method ∧
      first.request.path = second.request.path ∧
      left.signature = right.signature := by
  have one := verify_ok passed
  have two := verify_ok also
  rw [one.2.2.2, two.2.2.2, Option.some.injEq, Content.mk.injEq] at same
  rcases same with ⟨method, path, timestamp, _, signature⟩
  have stamps : first.request.timestamp = second.request.timestamp := by
    rw [one.2.1, two.2.1, timestamp]
  refine ⟨?_, stamps, method, path, signature⟩
  rw [SignedRequest.timestampMs, stamps, SignedRequest.timestampMs]

theorem notAhead_recorded {state : Gateway}
    (remembers : Remembers crypto config state)
    (honest : Honest config state arrival)
    (passed : verify crypto config arrival = .ok verified)
    (stale : ∀ firstSeenMs, SignatureCache.get state.cache.key
        arrival.request.nonce = some firstSeenMs →
      state.cache.ttlMs < arrival.recordedAt - firstSeenMs) :
    verified.timestampMs ≤ arrival.recordedAt := by
  have stamp := (verify_ok passed).2.2.1
  by_cases seen : ∃ past ∈ state.accepted,
      past.request.nonce = arrival.request.nonce
  · rcases seen with ⟨past, member, nonce⟩
    rcases remembers.passed past member with ⟨before, already⟩
    rcases remembers.recorded past member with
      ⟨timestampMs, verifiedAt, own, found, after⟩
    have same := (timestampMs_of_content already passed
      (honest.sameContent past member nonce)).1
    rw [own, stamp] at same
    cases same
    rw [nonce] at found
    have older := stale verifiedAt found
    omega
  · refine honest.notAhead (fun past member nonce => seen ?_) _ stamp
    exact ⟨past, member, nonce⟩

theorem next_remembers {state : Gateway}
    (remembers : Remembers crypto config state)
    (honest : Honest config state arrival) :
    Remembers crypto config (state.next crypto config arrival) := by
  rcases authLayer_cases crypto config state.cache arrival with
    ⟨error, _, refused⟩ | ⟨verified, passed, hit | ⟨stale, accepted⟩⟩
  · simp only [Gateway.next, refused]
    exact remembers
  · rcases hit with ⟨firstSeenMs, _, refused⟩
    simp only [Gateway.next, refused]
    exact remembers
  · have recorded := SignatureCache.record_key arrival.request.nonce
      arrival.recordedAt honest.room
    have moment := notAhead_recorded remembers honest passed stale
    simp only [Gateway.next, accepted, Option.getD_some]
    constructor
    · exact remembers.ttl
    · intro past member
      rcases List.mem_append.mp member with before | now
      · exact remembers.passed past before
      · rw [List.mem_singleton.mp now]
        exact ⟨verified, passed⟩
    · intro past member
      rw [recorded]
      rcases List.mem_append.mp member with before | now
      · rcases remembers.recorded past before with
          ⟨timestampMs, verifiedAt, own, found, after⟩
        by_cases nonce : past.request.nonce = arrival.request.nonce
        · rw [nonce] at found ⊢
          have older := stale verifiedAt found
          exact ⟨timestampMs, arrival.recordedAt, own,
            SignatureCache.get_cons_self, by omega⟩
        · exact ⟨timestampMs, verifiedAt, own,
            (SignatureCache.get_cons_remove_other nonce).trans found, after⟩
      · rw [List.mem_singleton.mp now]
        exact ⟨verified.timestampMs, arrival.recordedAt,
          (verify_ok passed).2.2.1, SignatureCache.get_cons_self, moment⟩
    · intro entry member
      rw [recorded] at member
      rcases List.mem_cons.mp member with now | before
      · exact ⟨arrival, List.mem_append_right _ List.mem_cons_self, by rw [now]⟩
      · rcases remembers.known entry (List.mem_of_mem_filter before) with
          ⟨past, earlier, nonce⟩
        exact ⟨past, List.mem_append_left _ earlier, nonce⟩

theorem run_remembers {arrivals : List Arrival} {last : Gateway}
    (run : Run (Guarded (Honest config) (Step crypto config)) (.start config)
      arrivals last) : Remembers crypto config last := by
  have preserved : ∀ state arrival next, Remembers crypto config state →
      Guarded (Honest config) (Step crypto config) state arrival next →
      Remembers crypto config next := by
    intro state arrival next remembers moved
    rw [moved.2]
    exact next_remembers remembers moved.1
  exact run.invariant preserved start_remembers

theorem copy_refused {state : Gateway} {arrival past : Arrival}
    (remembers : Remembers crypto config state)
    (honest : Honest config state arrival) (member : past ∈ state.accepted)
    (same : content config past.request = content config arrival.request)
    (fresh : ∀ timestampMs, arrival.request.timestampMs = some timestampMs →
      windowExpired timestampMs arrival.recordedAt config.windowMs = false)
    (record : ApiKeyRecord) (body : List UInt8) :
    (authLayer crypto config (some state.cache) arrival).1 ≠
      .accepted record body := by
  rcases authLayer_cases crypto config state.cache arrival with
    ⟨error, _, refused⟩ | ⟨verified, passed, hit | ⟨stale, accepted⟩⟩
  · rw [refused]
    exact fun impossible => by cases impossible
  · rcases hit with ⟨firstSeenMs, _, refused⟩
    rw [refused]
    exact fun impossible => by cases impossible
  · exfalso
    rcases remembers.passed past member with ⟨before, already⟩
    rcases remembers.recorded past member with
      ⟨timestampMs, verifiedAt, own, found, after⟩
    have copies := timestampMs_of_content already passed same
    have nonce : past.request.nonce = arrival.request.nonce := by
      rw [SignedRequest.nonce, honest.sameIdentity past member same,
        copies.2.1, copies.2.2.1, copies.2.2.2.1, SignedRequest.nonce]
    have older := stale verifiedAt (nonce ▸ found)
    have window := fresh timestampMs (copies.1 ▸ own)
    rw [windowExpired, decide_eq_false_iff_not] at window
    rw [remembers.ttl] at older
    omega

theorem fresh_not_replayed {state : Gateway}
    (remembers : Remembers crypto config state)
    (honest : Honest config state arrival)
    (passed : verify crypto config arrival = .ok verified)
    (unseen : ∀ past ∈ state.accepted, ∀ signed,
      content config past.request = some signed →
      signed.signature ≠ verified.signature) (firstSeenMs : Nat) :
    (authLayer crypto config (some state.cache) arrival).1 ≠
      .refused (replayed firstSeenMs) := by
  rcases authLayer_cases crypto config state.cache arrival with
    ⟨error, failed, _⟩ | ⟨_, _, hit | ⟨_, accepted⟩⟩
  · rw [failed] at passed
    cases passed
  · rcases hit with ⟨verifiedAt, found, _⟩
    rcases remembers.known _ (SignatureCache.mem_of_get found) with
      ⟨past, member, nonce⟩
    have same := honest.sameContent past member nonce
    rw [(verify_ok passed).2.2.2] at same
    exact absurd rfl (unseen past member _ same)
  · rw [accepted]
    exact fun impossible => by cases impossible

/-- In every run of honest requests nothing accepted is accepted again within
the window, and no valid new request is answered as a replay. -/
theorem replays_rejected {arrivals : List Arrival} {last : Gateway}
    (run : Run (Guarded (Honest config) (Step crypto config)) (.start config)
      arrivals last) (arrival : Arrival)
    (honest : Honest config last arrival) :
    (∀ past ∈ last.accepted,
      content config past.request = content config arrival.request →
      (∀ timestampMs, arrival.request.timestampMs = some timestampMs →
        windowExpired timestampMs arrival.recordedAt config.windowMs =
          false) →
      ∀ record body,
        (authLayer crypto config (some last.cache) arrival).1 ≠
          .accepted record body) ∧
    ∀ verified, verify crypto config arrival = .ok verified →
      (∀ past ∈ last.accepted, ∀ signed,
        content config past.request = some signed →
        signed.signature ≠ verified.signature) →
      ∀ firstSeenMs,
        (authLayer crypto config (some last.cache) arrival).1 ≠
          .refused (replayed firstSeenMs) := by
  have remembers := run_remembers run
  exact ⟨fun past member same fresh =>
      copy_refused remembers honest member same fresh,
    fun verified passed unseen =>
      fresh_not_replayed remembers honest passed unseen⟩

/-! ## Sample requests -/

section Samples

/-- Primitives without collisions. -/
def sampleCrypto : Crypto where
  sha256Hex := Text.hexEncode
  hmac key message := Text.bytes (key ++ message)
  signingMaterial := .ok

def sampleConfig : AuthConfig where
  windowMs := 120000
  caps := ⟨1048576, 31457280⟩

def sampleKey : ApiKeyRecord where
  id := 1
  systemId := "s"
  emailAddress := "a@x.test"
  keyHash := "k"
  keyPrefix := "k"
  scopes := ["agent"]
  isActive := true
  createdAt := 0
  expiresAt := none
  lastUsedAt := none
  category := "agent"

/-- A request signed with the sample key. -/
def sampleArrival (identity timestamp : String) (body : List UInt8)
    (clock : Nat) : Arrival where
  request :=
    { identity := some identity
      timestamp := some timestamp
      signature := some (Text.hexEncode (sampleCrypto.hmac "k"
        (signatureBase sampleCrypto "POST" "/p" timestamp body)))
      method := "POST"
      path := "/p"
      frames := [.ok body] }
  checkedAt := clock
  recordedAt := clock
  clock := "2026-01-01T00:00:00Z"
  apiKeys := .ok [sampleKey]

def sampleLayer (cache : SignatureCache) (arrival : Arrival) :
    Verdict × Option SignatureCache :=
  authLayer sampleCrypto sampleConfig (some cache) arrival

def emptyCache : SignatureCache := .new signatureCacheCapacity 120000

/-- A copy of an accepted request is refused a moment later. -/
theorem replays_rejected_sample :
    ∃ last : Gateway, last.accepted = [sampleArrival "s" "120000" [] 120000] ∧
      (sampleLayer last.cache (sampleArrival "s" "120000" [] 120001)).1 ≠
        .accepted sampleKey [] := by
  have layered : authLayer sampleCrypto sampleConfig (some emptyCache)
      (sampleArrival "s" "120000" [] 120000) =
      (.accepted sampleKey [], some (emptyCache.record
        (sampleArrival "s" "120000" [] 120000).request.nonce 120000)) := by
    decide +kernel
  have moved : (Gateway.start sampleConfig).next sampleCrypto sampleConfig
      (sampleArrival "s" "120000" [] 120000) =
      ⟨emptyCache.record
        (sampleArrival "s" "120000" [] 120000).request.nonce 120000,
        [sampleArrival "s" "120000" [] 120000]⟩ := by
    have start : (Gateway.start sampleConfig).cache = emptyCache := rfl
    simp only [Gateway.next, start, layered]
    rfl
  have run : Run (Guarded (Honest sampleConfig)
      (Step sampleCrypto sampleConfig)) (.start sampleConfig)
      [sampleArrival "s" "120000" [] 120000] ⟨emptyCache.record
        (sampleArrival "s" "120000" [] 120000).request.nonce 120000,
        [sampleArrival "s" "120000" [] 120000]⟩ := by
    refine .cons ⟨⟨by decide, ?_, ?_, ?_⟩, moved.symm⟩ (.nil _)
    · intro _ timestampMs parsed
      have value : timestampMs = 120000 :=
        Option.some.inj (parsed.symm.trans (by decide +kernel))
      exact Nat.le_of_eq value
    · exact fun past member => by cases member
    · exact fun past member => by cases member
  have honest : Honest sampleConfig ⟨emptyCache.record
        (sampleArrival "s" "120000" [] 120000).request.nonce 120000,
        [sampleArrival "s" "120000" [] 120000]⟩
      (sampleArrival "s" "120000" [] 120001) := by
    refine ⟨by decide +kernel, ?_, ?_, ?_⟩
    · intro unseen
      exact absurd rfl (unseen (sampleArrival "s" "120000" [] 120000)
        List.mem_cons_self)
    · intro past member same
      rw [List.mem_singleton.mp member]
      rfl
    · intro past member nonce
      rw [List.mem_singleton.mp member]
      rfl
  refine ⟨⟨_, _⟩, rfl,
    (replays_rejected run _ honest).1 _ List.mem_cons_self rfl ?_ _ _⟩
  intro timestampMs parsed
  have value : timestampMs = 120000 :=
    Option.some.inj (parsed.symm.trans (by decide +kernel))
  rw [value]
  decide

def cacheAfter (arrival : Arrival) : SignatureCache :=
  (sampleLayer emptyCache arrival).2.getD emptyCache

/-- A copy is accepted again when the timestamp was ahead of the clock, or under
another identity of the key; another body in the same millisecond is refused as
a replay. -/
theorem copies_accepted_again :
    ((sampleLayer emptyCache (sampleArrival "s" "240000" [] 120000)).1 =
        .accepted sampleKey [] ∧
      windowExpired 240000 240001 sampleConfig.windowMs = false ∧
      (sampleLayer (cacheAfter (sampleArrival "s" "240000" [] 120000))
        (sampleArrival "s" "240000" [] 240001)).1 = .accepted sampleKey []) ∧
    ((sampleLayer emptyCache (sampleArrival "s" "120000" [] 120000)).1 =
        .accepted sampleKey [] ∧
      (sampleLayer (cacheAfter (sampleArrival "s" "120000" [] 120000))
        (sampleArrival "a@x.test" "120000" [] 120001)).1 =
          .accepted sampleKey []) ∧
    (sampleLayer (cacheAfter (sampleArrival "s" "120000" [] 120000))
      (sampleArrival "s" "120000" [1] 120000)).1 =
        .refused (replayed 120000) := by
  decide +kernel

end Samples

end AimailGateway.Auth
