import AimailGateway.Api.SendRecords

/-! # Direct delivery to the mail exchangers

The recipients of a record are grouped by domain and each group is handed to an
exchanger of its domain in one transaction. The endpoints of the record note
which recipients are done, so that a later attempt leaves them out. Envelopes
with recipients are always built, and notes of success are always stored.
-/

namespace AimailGateway.MxDelivery

open Library

structure Address where
  user : String
  domain : String
  deriving DecidableEq, Repr

def Address.text (addr : Address) : String :=
  addr.user ++ "@" ++ addr.domain

/-! ## Endpoints -/

/-- The status of each key of the JSON column. -/
abbrev Endpoints := List (String × String)

/-- `json_set` of the status of a key. -/
def setStatus : Endpoints → String → String → Endpoints
  | [], key, status => [(key, status)]
  | entry :: rest, key, status =>
      if entry.1 == key then (key, status) :: rest
      else entry :: setStatus rest key status

/-- `check_all_endpoints_completed`. -/
def allCompleted (endpoints : Endpoints) : Bool :=
  !endpoints.isEmpty && endpoints.all (·.2 == "success")

section Deliverer

variable (toLowercase : String → String)

/-- The endpoints of a new record: every external recipient is pending. -/
def newEndpoints (external : List String) : Endpoints :=
  external.foldl (fun endpoints addr =>
    setStatus endpoints (toLowercase addr) "pending") []

def key (addr : Address) : String :=
  toLowercase addr.text

/-! ## One domain -/

structure DomainNet where
  /-- The exchangers of the first and the second lookup, in order. -/
  resolve : Nat → Except String (List String)
  /-- Whether the exchanger at a place of a lookup takes the message. -/
  accepts : Nat → Nat → Bool

/-- The first exchanger that takes the message. -/
def tryMxHosts (accepts : Nat → Bool) (place : Nat) : List String → Option String
  | [] => none
  | host :: hosts =>
      if accepts place then some host else tryMxHosts accepts (place + 1) hosts

/-- Look up the exchangers and try them all, twice at most. -/
def tryDeliverDomain (net : DomainNet) : Option String :=
  match net.resolve 0 with
  | .error _ | .ok [] => none
  | .ok (host :: hosts) =>
      match tryMxHosts (net.accepts 0) 0 (host :: hosts) with
      | some taken => some taken
      | none =>
          match net.resolve 1 with
          | .error _ | .ok [] => none
          | .ok (host :: hosts) => tryMxHosts (net.accepts 1) 0 (host :: hosts)

/-! ## One attempt -/

structure Attempt where
  net : String → DomainNet
  /-- Why the message cannot be built, if so. -/
  unbuilt : Option AppError
  /-- The order in which the groups are iterated. -/
  order : List (String × List Address) → List (String × List Address)
  order_perm : ∀ groups, (order groups).Perm groups

def pending (endpoints : Endpoints) (recipients : List Address) : List Address :=
  recipients.filter fun addr =>
    endpoints.lookup (key toLowercase addr) != some "success"

def domainGroups (addrs : List Address) : List (String × List Address) :=
  ((addrs.map fun addr => toLowercase addr.domain).eraseDups).map fun domain =>
    (domain, addrs.filter fun addr => toLowercase addr.domain == domain)

/-- The endpoints, whether a group failed, and the envelopes an exchanger took,
latest first. -/
structure Progress where
  endpoints : Endpoints
  anyFailed : Bool
  taken : List (List Address)

def markAll (endpoints : Endpoints) (addrs : List Address) : Endpoints :=
  addrs.foldl (fun endpoints addr =>
    setStatus endpoints (key toLowercase addr) "success") endpoints

def deliverGroup (attempt : Attempt) (progress : Progress)
    (group : String × List Address) : Progress :=
  match tryDeliverDomain (attempt.net group.1) with
  | some _ => { progress with
      endpoints := markAll toLowercase progress.endpoints group.2
      taken := group.2 :: progress.taken }
  | none => { progress with anyFailed := true }

/-- The endpoints of the record and the envelopes taken so far. -/
structure Mail where
  endpoints : Endpoints
  taken : List (List Address)

/-- `deliver_via_mx`. -/
def deliverViaMx (recipients : List Address) (mail : Mail) (attempt : Attempt) :
    Except AppError Unit × Mail :=
  let groups := attempt.order
    (domainGroups toLowercase (pending toLowercase mail.endpoints recipients))
  if groups.isEmpty then (.ok (), mail)
  else
    match attempt.unbuilt with
    | some error => (.error error, mail)
    | none =>
        let progress := groups.foldl (deliverGroup toLowercase attempt)
          ⟨mail.endpoints, false, mail.taken⟩
        (if progress.anyFailed then
          .error (.smtp "partial MX delivery failure") else .ok (),
          ⟨progress.endpoints, progress.taken⟩)

/-- Attempts one after the other. -/
def deliverAll (recipients : List Address) (mail : Mail)
    (attempts : List Attempt) : Mail :=
  attempts.foldl (fun mail attempt =>
    (deliverViaMx toLowercase recipients mail attempt).2) mail

/-- A record as `send_email_core` creates it. -/
def newMail (external : List String) : Mail :=
  ⟨newEndpoints toLowercase external, []⟩

end Deliverer

/-! ## Endpoints -/

variable {toLowercase : String → String} {endpoints : Endpoints}
  {recipients addrs : List Address}

theorem lookup_setStatus {name status other : String} :
    (setStatus endpoints name status).lookup other =
      if other = name then some status else endpoints.lookup other := by
  induction endpoints with
  | nil =>
      rw [setStatus, List.lookup_singleton, List.lookup_nil]
      simp only [beq_iff_eq]
  | cons entry rest induction =>
      rw [setStatus]
      by_cases own : entry.1 = name
      · rw [if_pos (beq_iff_eq.mpr own), List.lookup_cons, List.lookup_cons, own]
        by_cases same : other = name
        · rw [if_pos same, same, beq_self_eq_true]
        · rw [if_neg same, beq_eq_false_iff_ne.mpr same]
      · rw [if_neg (mt beq_iff_eq.mp own), List.lookup_cons, List.lookup_cons,
          induction]
        by_cases same : other = name
        · rw [if_pos same, same, beq_eq_false_iff_ne.mpr (Ne.symm own)]
          exact (if_pos rfl).symm
        · rw [if_neg same, if_neg same]

theorem lookup_markAll {other : String} :
    (markAll toLowercase endpoints addrs).lookup other =
      if other ∈ addrs.map (key toLowercase) then some "success"
      else endpoints.lookup other := by
  induction addrs generalizing endpoints with
  | nil => rfl
  | cons addr addrs induction =>
      have marked : markAll toLowercase endpoints (addr :: addrs) =
          markAll toLowercase (setStatus endpoints (key toLowercase addr) "success")
            addrs :=
        rfl
      rw [marked, induction, lookup_setStatus]
      simp only [List.map_cons, List.mem_cons]
      split <;> split <;> simp_all

def keys (endpoints : Endpoints) : List String :=
  endpoints.map (·.1)

theorem mem_keys_setStatus {name status other : String} :
    other ∈ keys (setStatus endpoints name status) ↔
      other = name ∨ other ∈ keys endpoints := by
  induction endpoints with
  | nil => simp [setStatus, keys]
  | cons entry rest induction =>
      rw [setStatus]
      split
      · rename_i own
        rw [beq_iff_eq] at own
        simp [keys, own]
      · simp only [keys, List.map_cons, List.mem_cons] at induction ⊢
        rw [induction]
        constructor
        · rintro (first | same | later)
          · exact .inr (.inl first)
          · exact .inl same
          · exact .inr (.inr later)
        · rintro (same | first | later)
          · exact .inr (.inl same)
          · exact .inl first
          · exact .inr (.inr later)

theorem nodup_keys_setStatus {name status : String}
    (nodup : (keys endpoints).Nodup) :
    (keys (setStatus endpoints name status)).Nodup := by
  induction endpoints with
  | nil => exact List.nodup_singleton name
  | cons entry rest induction =>
      rw [keys, List.map_cons, List.nodup_cons] at nodup
      rw [setStatus]
      split
      · rename_i own
        rw [beq_iff_eq] at own
        rw [keys, List.map_cons, List.nodup_cons, ← own]
        exact nodup
      · rename_i other
        rw [keys, List.map_cons, List.nodup_cons]
        refine ⟨?_, induction nodup.2⟩
        intro member
        rcases mem_keys_setStatus.mp member with same | later
        · exact other (beq_iff_eq.mpr same)
        · exact nodup.1 later

theorem keys_markAll {other : String} :
    other ∈ keys (markAll toLowercase endpoints addrs) ↔
      other ∈ addrs.map (key toLowercase) ∨ other ∈ keys endpoints := by
  induction addrs generalizing endpoints with
  | nil => simp [markAll]
  | cons addr addrs induction =>
      have marked : markAll toLowercase endpoints (addr :: addrs) =
          markAll toLowercase (setStatus endpoints (key toLowercase addr) "success")
            addrs :=
        rfl
      rw [marked, induction, mem_keys_setStatus, List.map_cons, List.mem_cons,
        or_assoc, or_left_comm]

theorem nodup_keys_markAll (nodup : (keys endpoints).Nodup) :
    (keys (markAll toLowercase endpoints addrs)).Nodup := by
  induction addrs generalizing endpoints with
  | nil => exact nodup
  | cons addr addrs induction => exact induction (nodup_keys_setStatus nodup)

theorem lookup_of_mem {entry : String × String} (nodup : (keys endpoints).Nodup)
    (member : entry ∈ endpoints) : endpoints.lookup entry.1 = some entry.2 := by
  induction endpoints with
  | nil => cases member
  | cons first rest induction =>
      rw [keys, List.map_cons, List.nodup_cons] at nodup
      rw [List.lookup_cons]
      rcases List.mem_cons.mp member with same | later
      · rw [same, beq_self_eq_true]
      · have other : entry.1 ≠ first.1 := by
          intro same
          exact nodup.1 (same ▸ List.mem_map_of_mem later)
        rw [beq_eq_false_iff_ne.mpr other]
        exact induction nodup.2 later

/-! ## A round over the groups -/

/-- An exchanger of the domain takes the message. -/
def Delivers (attempt : Attempt) (domain : String) : Bool :=
  (tryDeliverDomain (attempt.net domain)).isSome

theorem foldl_deliverGroup {attempt : Attempt} {progress : Progress}
    {groups : List (String × List Address)} :
    groups.foldl (deliverGroup toLowercase attempt) progress =
      { endpoints := markAll toLowercase progress.endpoints
          ((groups.filter fun group => Delivers attempt group.1).flatMap (·.2))
        anyFailed := progress.anyFailed ||
          groups.any fun group => !Delivers attempt group.1
        taken := ((groups.filter fun group => Delivers attempt group.1).map
          (·.2)).reverse ++ progress.taken } := by
  induction groups generalizing progress with
  | nil => simp [markAll]
  | cons group groups induction =>
      rw [List.foldl_cons, induction, deliverGroup, List.filter_cons, List.any_cons]
      cases taken : tryDeliverDomain (attempt.net group.1) with
      | none => simp [Delivers, taken]
      | some host =>
          simp [Delivers, taken, markAll, List.flatMap_cons, List.foldl_append]

theorem mem_domainGroups {group : String × List Address} :
    group ∈ domainGroups toLowercase addrs ↔
      ∃ addr ∈ addrs, group = (toLowercase addr.domain,
        addrs.filter fun other => toLowercase other.domain ==
          toLowercase addr.domain) := by
  rw [domainGroups, List.mem_map]
  constructor
  · rintro ⟨domain, member, rfl⟩
    rw [List.mem_eraseDups, List.mem_map] at member
    rcases member with ⟨addr, inside, rfl⟩
    exact ⟨addr, inside, rfl⟩
  · rintro ⟨addr, inside, rfl⟩
    refine ⟨toLowercase addr.domain, ?_, rfl⟩
    rw [List.mem_eraseDups]
    exact List.mem_map_of_mem inside

theorem domainGroups_eq_nil : domainGroups toLowercase addrs = [] ↔ addrs = [] := by
  constructor
  · intro none
    rw [List.eq_nil_iff_forall_not_mem]
    intro addr member
    have group : _ ∈ domainGroups toLowercase addrs :=
      mem_domainGroups.mpr ⟨addr, member, rfl⟩
    rw [none] at group
    cases group
  · rintro rfl
    rfl

theorem countP_domainGroups (addr : Address) :
    (domainGroups toLowercase addrs).countP (fun group =>
      decide (addr ∈ group.2)) ≤ 1 := by
  have only : ∀ domain ∈ ((addrs.map fun addr =>
      toLowercase addr.domain).eraseDups),
      decide (addr ∈ addrs.filter fun other => toLowercase other.domain == domain) =
        true → (domain == toLowercase addr.domain) = true := by
    intro domain _ inside
    rw [decide_eq_true_eq, List.mem_filter, beq_iff_eq] at inside
    exact beq_iff_eq.mpr inside.2.symm
  rw [domainGroups, List.countP_map]
  refine (List.countP_mono_left only).trans ?_
  exact List.nodup_iff_count_le_one.mp (nodup_eraseDups _) _

section Round

variable {attempt : Attempt} {groups : List (String × List Address)}
  (perm : groups.Perm (domainGroups toLowercase addrs))

include perm

theorem mem_delivered {addr : Address} :
    addr ∈ (groups.filter fun group => Delivers attempt group.1).flatMap (·.2) ↔
      addr ∈ addrs ∧ Delivers attempt (toLowercase addr.domain) = true := by
  rw [List.mem_flatMap]
  constructor
  · rintro ⟨group, inside, member⟩
    rw [List.mem_filter, perm.mem_iff, mem_domainGroups] at inside
    rcases inside with ⟨⟨first, -, rfl⟩, delivers⟩
    rw [List.mem_filter, beq_iff_eq] at member
    exact ⟨member.1, member.2 ▸ delivers⟩
  · rintro ⟨member, delivers⟩
    refine ⟨_, List.mem_filter.mpr ⟨perm.mem_iff.mpr
      (mem_domainGroups.mpr ⟨addr, member, rfl⟩), delivers⟩, ?_⟩
    exact List.mem_filter.mpr ⟨member, beq_self_eq_true _⟩

theorem countP_taken (addr : Address) :
    (((groups.filter fun group => Delivers attempt group.1).map
      (·.2)).reverse).countP (fun envelope => decide (addr ∈ envelope)) ≤ 1 := by
  rw [List.countP_reverse, List.countP_map]
  refine (List.filter_sublist.countP_le).trans ?_
  refine Nat.le_trans (Nat.le_of_eq (perm.countP_eq _)) ?_
  exact countP_domainGroups addr

theorem countP_taken_pos {addr : Address} :
    0 < (((groups.filter fun group => Delivers attempt group.1).map
      (·.2)).reverse).countP (fun envelope => decide (addr ∈ envelope)) ↔
      addr ∈ addrs ∧ Delivers attempt (toLowercase addr.domain) = true := by
  rw [← mem_delivered perm, List.countP_pos_iff, List.mem_flatMap]
  constructor
  · rintro ⟨envelope, member, holds⟩
    rw [List.mem_reverse, List.mem_map] at member
    rcases member with ⟨group, inside, rfl⟩
    exact ⟨group, inside, of_decide_eq_true holds⟩
  · rintro ⟨group, inside, member⟩
    refine ⟨group.2, ?_, decide_eq_true member⟩
    rw [List.mem_reverse]
    exact List.mem_map_of_mem inside

theorem any_failed :
    (groups.any fun group => !Delivers attempt group.1) = false ↔
      ∀ addr ∈ addrs, Delivers attempt (toLowercase addr.domain) = true := by
  rw [List.any_eq_false]
  constructor
  · intro none addr member
    have group := none _ (perm.mem_iff.mpr
      (mem_domainGroups.mpr ⟨addr, member, rfl⟩))
    simpa using group
  · intro all group inside
    rw [perm.mem_iff, mem_domainGroups] at inside
    rcases inside with ⟨addr, member, rfl⟩
    simp [all addr member]

end Round

/-! ## Over the attempts -/

/-- How many of the envelopes that were taken hold an address. -/
def handedTo (mail : Mail) (addr : Address) : Nat :=
  mail.taken.countP fun envelope => decide (addr ∈ envelope)

/-- Lowercase tells the domains of the recipients apart wherever it tells
their keys apart. -/
def KeepsDomain (toLowercase : String → String) (recipients : List Address) :
    Prop :=
  ∀ first ∈ recipients, ∀ second ∈ recipients,
    key toLowercase first = key toLowercase second →
      toLowercase first.domain = toLowercase second.domain

def SameKeys (toLowercase : String → String) (external : List String)
    (recipients : List Address) : Prop :=
  ∀ name, name ∈ external.map toLowercase ↔
    name ∈ recipients.map (key toLowercase)

/-- After some attempts, and in the next one. -/
structure Exact (toLowercase : String → String) (external : List String)
    (recipients : List Address) (attempts : List Attempt) (next : Attempt) :
    Prop where
  once : ∀ addr ∈ recipients, handedTo (deliverAll toLowercase recipients
    (newMail toLowercase external) attempts) addr ≤ 1
  answered : (deliverViaMx toLowercase recipients (deliverAll toLowercase recipients
      (newMail toLowercase external) attempts) next).1 = .ok () ↔
    ∀ addr ∈ recipients, 0 < handedTo (deliverViaMx toLowercase recipients
      (deliverAll toLowercase recipients (newMail toLowercase external)
        attempts) next).2 addr
  keys : SameKeys toLowercase external recipients
  completed : (deliverViaMx toLowercase recipients (deliverAll toLowercase recipients
      (newMail toLowercase external) attempts) next).1 = .ok () →
    ∀ entry ∈ (deliverViaMx toLowercase recipients (deliverAll toLowercase
      recipients (newMail toLowercase external) attempts) next).2.endpoints,
      entry.2 = "success"

/-- What the endpoints and the envelopes say of each other. -/
structure Tracks (toLowercase : String → String) (external : List String)
    (recipients : List Address) (mail : Mail) : Prop where
  nodup : (keys mail.endpoints).Nodup
  marked : ∀ addr ∈ recipients,
    mail.endpoints.lookup (key toLowercase addr) = some "success" ↔
      0 < handedTo mail addr
  once : ∀ addr ∈ recipients, handedTo mail addr ≤ 1
  known : ∀ name ∈ keys mail.endpoints, name ∈ external.map toLowercase ∨
    name ∈ recipients.map (key toLowercase)

variable {external : List String} {mail : Mail} {attempt : Attempt}

theorem mem_pending {addr : Address} :
    addr ∈ pending toLowercase endpoints recipients ↔ addr ∈ recipients ∧
      endpoints.lookup (key toLowercase addr) ≠ some "success" := by
  rw [pending, List.mem_filter, bne_iff_ne]

theorem Tracks.pending_iff (tracks : Tracks toLowercase external recipients mail)
    {addr : Address} :
    addr ∈ pending toLowercase mail.endpoints recipients ↔
      addr ∈ recipients ∧ handedTo mail addr = 0 := by
  rw [mem_pending]
  refine and_congr_right fun member => ?_
  rw [Ne, tracks.marked addr member]
  omega

theorem deliverViaMx_cases :
    (pending toLowercase mail.endpoints recipients = [] ∧
      deliverViaMx toLowercase recipients mail attempt = (.ok (), mail)) ∨
    (pending toLowercase mail.endpoints recipients ≠ [] ∧ ∃ error,
      deliverViaMx toLowercase recipients mail attempt = (.error error, mail)) ∨
    ∃ groups : List (String × List Address), groups.Perm
        (domainGroups toLowercase (pending toLowercase mail.endpoints recipients)) ∧
      deliverViaMx toLowercase recipients mail attempt =
        (if groups.any fun group => !Delivers attempt group.1 then
          .error (.smtp "partial MX delivery failure") else .ok (),
        ⟨markAll toLowercase mail.endpoints
          ((groups.filter fun group => Delivers attempt group.1).flatMap (·.2)),
          ((groups.filter fun group => Delivers attempt group.1).map
            (·.2)).reverse ++ mail.taken⟩) := by
  have perm := attempt.order_perm
    (domainGroups toLowercase (pending toLowercase mail.endpoints recipients))
  unfold deliverViaMx
  dsimp only
  split
  · rename_i none
    rw [List.isEmpty_iff] at none
    rw [none] at perm
    exact .inl ⟨domainGroups_eq_nil.mp perm.nil_eq.symm, rfl⟩
  · rename_i some
    cases attempt.unbuilt with
    | some error =>
        refine .inr (.inl ⟨?_, error, rfl⟩)
        intro none
        have empty := perm.length_eq
        rw [domainGroups_eq_nil.mpr none] at empty
        rw [none] at some
        exact some (List.isEmpty_iff.mpr (List.length_eq_zero_iff.mp empty))
    | none =>
        refine .inr (.inr ⟨_, perm, ?_⟩)
        dsimp only
        rw [foldl_deliverGroup]
        rfl

theorem Tracks.handed (tracks : Tracks toLowercase external recipients mail) :
    pending toLowercase mail.endpoints recipients = [] ↔
      ∀ addr ∈ recipients, 0 < handedTo mail addr := by
  rw [List.eq_nil_iff_forall_not_mem]
  constructor
  · intro none addr member
    by_contra some
    exact none addr (tracks.pending_iff.mpr ⟨member, by omega⟩)
  · intro all addr member
    rw [tracks.pending_iff] at member
    exact absurd member.2 (all addr member.1).ne'

theorem Tracks.round (tracks : Tracks toLowercase external recipients mail)
    (keepsDomain : KeepsDomain toLowercase recipients)
    {groups : List (String × List Address)} (perm : groups.Perm (domainGroups
      toLowercase (pending toLowercase mail.endpoints recipients))) :
    Tracks toLowercase external recipients
      ⟨markAll toLowercase mail.endpoints
        ((groups.filter fun group => Delivers attempt group.1).flatMap (·.2)),
        ((groups.filter fun group => Delivers attempt group.1).map
          (·.2)).reverse ++ mail.taken⟩ ∧
    ((groups.any fun group => !Delivers attempt group.1) = false ↔
      ∀ addr ∈ recipients, 0 < handedTo
        ⟨markAll toLowercase mail.endpoints
          ((groups.filter fun group => Delivers attempt group.1).flatMap (·.2)),
          ((groups.filter fun group => Delivers attempt group.1).map
            (·.2)).reverse ++ mail.taken⟩ addr) := by
  have handed : ∀ addr, handedTo
      ⟨markAll toLowercase mail.endpoints
        ((groups.filter fun group => Delivers attempt group.1).flatMap (·.2)),
        ((groups.filter fun group => Delivers attempt group.1).map
          (·.2)).reverse ++ mail.taken⟩ addr =
      (((groups.filter fun group => Delivers attempt group.1).map
        (·.2)).reverse).countP (fun envelope => decide (addr ∈ envelope)) +
          handedTo mail addr :=
    fun addr => List.countP_append
  have positive : ∀ addr, 0 < handedTo
      ⟨markAll toLowercase mail.endpoints
        ((groups.filter fun group => Delivers attempt group.1).flatMap (·.2)),
        ((groups.filter fun group => Delivers attempt group.1).map
          (·.2)).reverse ++ mail.taken⟩ addr ↔
      (addr ∈ pending toLowercase mail.endpoints recipients ∧
        Delivers attempt (toLowercase addr.domain) = true) ∨
          0 < handedTo mail addr := by
    intro addr
    rw [handed, ← countP_taken_pos perm]
    omega
  refine ⟨⟨nodup_keys_markAll tracks.nodup, ?_, ?_, ?_⟩, ?_⟩
  · intro addr member
    rw [positive, lookup_markAll, ← tracks.marked addr member]
    by_cases named : key toLowercase addr ∈
        ((groups.filter fun group => Delivers attempt group.1).flatMap
          (·.2)).map (key toLowercase)
    · rw [if_pos named]
      refine iff_of_true rfl (.inl ?_)
      rcases List.mem_map.mp named with ⟨other, inside, same⟩
      rw [mem_delivered perm, mem_pending] at inside
      have domains := keepsDomain other inside.1.1 addr member same
      rw [same, domains] at inside
      exact ⟨mem_pending.mpr ⟨member, inside.1.2⟩, inside.2⟩
    · rw [if_neg named, or_iff_right]
      intro delivered
      exact named (List.mem_map_of_mem ((mem_delivered perm).mpr delivered))
  · intro addr member
    have few := @countP_taken _ _ attempt _ perm addr
    have once := tracks.once addr member
    rw [handed]
    by_cases before : handedTo mail addr = 0
    · omega
    · have none : ¬(addr ∈ pending toLowercase mail.endpoints recipients ∧
          Delivers attempt (toLowercase addr.domain) = true) :=
        fun both => before (tracks.pending_iff.mp both.1).2
      rw [← countP_taken_pos perm] at none
      omega
  · intro name member
    rcases keys_markAll.mp member with marked | old
    · rcases List.mem_map.mp marked with ⟨addr, inside, rfl⟩
      rw [mem_delivered perm, mem_pending] at inside
      exact .inr (List.mem_map_of_mem inside.1.1)
    · exact tracks.known name old
  · rw [any_failed perm]
    constructor
    · intro all addr member
      rw [positive]
      by_cases before : handedTo mail addr = 0
      · have waits := tracks.pending_iff.mpr ⟨member, before⟩
        exact .inl ⟨waits, all addr waits⟩
      · exact .inr (Nat.pos_of_ne_zero before)
    · intro all addr waits
      have member := tracks.pending_iff.mp waits
      rcases (positive addr).mp (all addr member.1) with delivered | before
      · exact delivered.2
      · exact absurd member.2 before.ne'

theorem Tracks.attempted (tracks : Tracks toLowercase external recipients mail)
    (keepsDomain : KeepsDomain toLowercase recipients) :
    Tracks toLowercase external recipients
        (deliverViaMx toLowercase recipients mail attempt).2 ∧
      ((deliverViaMx toLowercase recipients mail attempt).1 = .ok () ↔
        ∀ addr ∈ recipients,
          0 < handedTo (deliverViaMx toLowercase recipients mail attempt).2 addr) := by
  rcases @deliverViaMx_cases toLowercase recipients mail attempt with
    ⟨none, ran⟩ | ⟨some, error, ran⟩ | ⟨groups, perm, ran⟩
  · rw [ran]
    exact ⟨tracks, iff_of_true rfl (tracks.handed.mp none)⟩
  · rw [ran]
    refine ⟨tracks, iff_of_false (fun same => nomatch same) fun all => ?_⟩
    exact some (tracks.handed.mpr all)
  · rw [ran]
    have round := @Tracks.round _ _ _ _ attempt tracks keepsDomain _ perm
    refine ⟨round.1, ?_⟩
    rw [← round.2]
    cases groups.any fun group => !Delivers attempt group.1 with
    | true => exact iff_of_false (fun same => nomatch same) nofun
    | false => exact iff_of_true rfl rfl

theorem lookup_newEndpoints {name status : String}
    (found : (newEndpoints toLowercase external).lookup name = some status) :
    status = "pending" := by
  have pends : ∀ (addrs : List String) (endpoints : Endpoints),
      (∀ name status, endpoints.lookup name = some status → status = "pending") →
      ∀ name status, (addrs.foldl (fun endpoints addr =>
        setStatus endpoints (toLowercase addr) "pending") endpoints).lookup name =
          some status → status = "pending" := by
    intro addrs
    induction addrs with
    | nil => exact fun _ start => start
    | cons addr addrs induction =>
        intro endpoints start
        apply induction
        intro name status found
        rw [lookup_setStatus] at found
        split at found
        · exact (Option.some.inj found).symm
        · exact start name status found
  exact pends external [] (fun _ _ found => nomatch found) name status found

theorem nodup_newEndpoints :
    (keys (newEndpoints toLowercase external)).Nodup := by
  have keeps : ∀ (addrs : List String) (endpoints : Endpoints),
      (keys endpoints).Nodup → (keys (addrs.foldl (fun endpoints addr =>
        setStatus endpoints (toLowercase addr) "pending") endpoints)).Nodup := by
    intro addrs
    induction addrs with
    | nil => exact fun _ start => start
    | cons addr addrs induction =>
        exact fun endpoints start => induction _ (nodup_keys_setStatus start)
  exact keeps external [] List.nodup_nil

theorem keys_newEndpoints {name : String} :
    name ∈ keys (newEndpoints toLowercase external) ↔
      name ∈ external.map toLowercase := by
  have grow : ∀ (addrs : List String) (endpoints : Endpoints),
      name ∈ keys (addrs.foldl (fun endpoints addr =>
        setStatus endpoints (toLowercase addr) "pending") endpoints) ↔
      name ∈ addrs.map toLowercase ∨ name ∈ keys endpoints := by
    intro addrs
    induction addrs with
    | nil => simp
    | cons addr addrs induction =>
        intro endpoints
        rw [List.foldl_cons, induction, mem_keys_setStatus, List.map_cons,
          List.mem_cons, or_assoc, or_left_comm]
  exact (grow external []).trans (by simp [keys])

theorem Tracks.start : Tracks toLowercase external recipients
    (newMail toLowercase external) where
  nodup := nodup_newEndpoints
  marked addr member := by
    refine iff_of_false (fun found => ?_) (Nat.lt_irrefl 0)
    exact absurd (lookup_newEndpoints found) (by decide)
  once addr member := Nat.zero_le 1
  known name member := .inl (keys_newEndpoints.mp member)

theorem Tracks.all (keepsDomain : KeepsDomain toLowercase recipients)
    (attempts : List Attempt) : Tracks toLowercase external recipients
      (deliverAll toLowercase recipients (newMail toLowercase external)
        attempts) := by
  have keeps : ∀ (attempts : List Attempt) (mail : Mail),
      Tracks toLowercase external recipients mail →
      Tracks toLowercase external recipients
        (deliverAll toLowercase recipients mail attempts) := by
    intro attempts
    induction attempts with
    | nil => exact fun _ tracks => tracks
    | cons attempt attempts induction =>
        exact fun mail tracks => induction _ (tracks.attempted keepsDomain).1
  exact keeps attempts _ Tracks.start

def takenByFirst : DomainNet where
  resolve := fun _ => .ok ["mx.x.com"]
  accepts := fun _ _ => true

def reachable : Attempt :=
  ⟨fun _ => takenByFirst, none, fun groups => groups, fun _ => .refl _⟩

/-- One domain is down and the first exchanger of the other one refuses. -/
def halfDown : Attempt where
  net := fun domain =>
    if domain = "x.com" then
      ⟨fun _ => .ok ["mx1.x.com", "mx2.x.com"], fun _ place => place = 1⟩
    else ⟨fun _ => .ok [], fun _ _ => false⟩
  unbuilt := none
  order := List.reverse
  order_perm := List.reverse_perm

def twoDomains : List Address :=
  [⟨"bob", "x.com"⟩, ⟨"Eve", "Y.com"⟩, ⟨"mia", "X.com"⟩]

def twoDomainEndpoints : List String := ["bob@x.com", "eve@y.com", "mia@x.com"]

end AimailGateway.MxDelivery
