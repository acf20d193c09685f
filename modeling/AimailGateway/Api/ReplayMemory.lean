import AimailGateway.Api.Replay
import Mathlib.Data.List.Dedup
import Mathlib.Data.List.Perm.Subperm

/-! # What the signature cache remembers

The cache as the log of its recordings, latest first: as long as no key is
recorded again while an expired entry of it is held, the map holds the latest
recordings up to the capacity and the queue holds their keys. A key recorded
over an expired entry leaves a second place in the queue, and the first of the
two places evicts it.
-/

namespace AimailGateway.Auth

open Library

/-- A call of `check_and_record`. -/
structure Check where
  nonceKey : String
  now : Nat
  deriving DecidableEq, Repr

namespace SignatureCache

def answer (cache : SignatureCache) (call : Check) : Option Nat :=
  (cache.checkAndRecord call.nonceKey call.now).1

def after (cache : SignatureCache) (call : Check) : SignatureCache :=
  (cache.checkAndRecord call.nonceKey call.now).2

def afterAll (cache : SignatureCache) (calls : List Check) : SignatureCache :=
  calls.foldl after cache

def recordedKeys (cache : SignatureCache) : List Check → List String
  | [] => []
  | call :: calls =>
      (if cache.answer call = none then [call.nonceKey] else []) ++
        recordedKeys (cache.after call) calls

/-- A key that a call of the run recorded is reported as seen for `ttlMs`, as
long as no more than `cap` keys, itself included, were recorded from that call
on. -/
def Remembers (cap ttlMs : Nat) (calls : List Check) : Prop :=
  ∀ earlier call later, calls = earlier ++ call :: later →
    ((new cap ttlMs).afterAll earlier).answer call = none →
    (((new cap ttlMs).afterAll earlier).recordedKeys
      (call :: later)).dedup.length ≤ cap →
    ∀ now, now ≤ call.now + ttlMs →
      ((new cap ttlMs).afterAll calls).answer ⟨call.nonceKey, now⟩ ≠ none

/-- The map does not hold an entry of the key that the call finds expired. -/
def NotExpired (cache : SignatureCache) (call : Check) : Prop :=
  ∀ verified, get cache.key call.nonceKey = some verified →
    call.now - verified ≤ cache.ttlMs

def Moves (cache : SignatureCache) (call : Check) (next : SignatureCache) :
    Prop :=
  next = cache.after call

theorem afterAll_append (cache : SignatureCache) (earlier later : List Check) :
    cache.afterAll (earlier ++ later) =
      (cache.afterAll earlier).afterAll later :=
  List.foldl_append

theorem run_afterAll {first last : SignatureCache} {calls : List Check}
    (run : Run Moves first calls last) : last = first.afterAll calls := by
  induction run with
  | nil state => rfl
  | cons moved rest induction =>
      rw [induction, moved]
      rfl

/-! ## The log of recordings -/

/-- What a call adds to the log. -/
def entry (cache : SignatureCache) (call : Check) : List (String × Nat) :=
  if cache.answer call = none then [(call.nonceKey, call.now)] else []

/-- The recordings of the calls on top of a log. -/
def logged (cache : SignatureCache) (log : List (String × Nat)) :
    List Check → List (String × Nat)
  | [] => log
  | call :: calls => logged (cache.after call) (cache.entry call ++ log) calls

theorem logged_append (cache : SignatureCache) (log : List (String × Nat))
    (earlier later : List Check) :
    cache.logged log (earlier ++ later) =
      (cache.afterAll earlier).logged (cache.logged log earlier) later := by
  induction earlier generalizing cache log with
  | nil => rfl
  | cons call earlier induction => exact induction (cache.after call) _

theorem logged_grows (cache : SignatureCache) (log : List (String × Nat))
    (calls : List Check) :
    ∃ newer, cache.logged log calls = newer ++ log ∧
      newer.map (·.1) = (cache.recordedKeys calls).reverse := by
  induction calls generalizing cache log with
  | nil => exact ⟨[], rfl, rfl⟩
  | cons call calls induction =>
      rcases induction (cache.after call) (cache.entry call ++ log) with
        ⟨newer, grown, keys⟩
      refine ⟨newer ++ cache.entry call, ?_, ?_⟩
      · rw [logged, grown, List.append_assoc]
      · rw [List.map_append, keys, recordedKeys, List.reverse_append, entry]
        split <;> rfl

/-! ## The invariant -/

/-- The cache holds the latest recordings, and among any `cap + 1` recordings
in a row no key is repeated. -/
structure Mirrors (cap ttlMs : Nat) (log : List (String × Nat))
    (cache : SignatureCache) : Prop where
  cap_eq : cache.cap = cap
  ttlMs_eq : cache.ttlMs = ttlMs
  key_eq : cache.key = log.take cap
  order_eq : cache.order = (cache.key.map (·.1)).reverse
  apart : ∀ newer older, log = newer ++ older →
    ((older.take (cap + 1)).map (·.1)).Nodup

variable {cap ttlMs : Nat} {log : List (String × Nat)} {cache : SignatureCache}
  {call : Check}
  {nonceKey : String} {key : List (String × Nat)}

theorem mirrors_new (cap ttlMs : Nat) : Mirrors cap ttlMs [] (new cap ttlMs) where
  cap_eq := rfl
  ttlMs_eq := rfl
  key_eq := List.take_nil.symm
  order_eq := rfl
  apart := by
    intro newer older split
    rw [(List.append_eq_nil_iff.mp split.symm).2]
    exact List.nodup_nil

theorem Mirrors.key_nodup (mirrors : Mirrors cap ttlMs log cache) :
    (cache.key.map (·.1)).Nodup := by
  have window := mirrors.apart [] log rfl
  rw [mirrors.key_eq]
  exact window.sublist ((List.take_sublist_take_left (by omega)).map _)

theorem get_eq_none :
    get key nonceKey = none ↔ nonceKey ∉ key.map (·.1) := by
  rw [get, Option.map_eq_none_iff, List.find?_eq_none]
  simp only [List.mem_map, not_exists, not_and, beq_iff_eq]

theorem get_of_mem {verified : Nat} (nodup : (key.map (·.1)).Nodup)
    (member : (nonceKey, verified) ∈ key) :
    get key nonceKey = some verified := by
  induction key with
  | nil => cases member
  | cons head key induction =>
      rw [List.map_cons, List.nodup_cons] at nodup
      rcases List.mem_cons.mp member with same | member
      · rw [← same]
        exact get_cons_self
      · have different : head.1 ≠ nonceKey := fun same =>
          nodup.1 (same ▸ List.mem_map_of_mem member)
        rw [get, List.find?_cons_of_neg (by simpa using different)]
        exact induction nodup.2 member

theorem remove_eq_self
    (absent : nonceKey ∉ key.map (·.1)) : remove key nonceKey = key := by
  rw [remove, List.filter_eq_self]
  intro entry member
  have different : entry.1 ≠ nonceKey := fun same =>
    absent (same ▸ List.mem_map_of_mem member)
  simpa using different

theorem evict_reverse (key : List (String × Nat))
    (nodup : (key.map (·.1)).Nodup) (length : key.length ≤ cap + 1) :
    evict cap key (key.map (·.1)).reverse =
      (key.take cap, ((key.take cap).map (·.1)).reverse) := by
  by_cases fits : key.length ≤ cap
  · rw [List.take_of_length_le fits]
    cases (key.map (·.1)).reverse with
    | nil => rfl
    | cons oldest order => rw [evict, if_pos fits]
  · rcases List.eq_nil_or_concat key with none | ⟨kept, last, whole⟩
    · subst none
      exact absurd (Nat.zero_le cap) fits
    · rw [List.concat_eq_append] at whole
      subst whole
      have size : kept.length = cap := by
        rw [List.length_append, List.length_singleton] at fits length
        omega
      rw [List.map_append, List.nodup_append] at nodup
      have absent : last.1 ∉ kept.map (·.1) := fun member =>
        nodup.2.2 _ member _ (by simp) rfl
      have removed : remove (kept ++ [last]) last.1 = kept := by
        have kept_same := remove_eq_self absent
        rw [remove] at kept_same ⊢
        rw [List.filter_append, kept_same]
        simp
      have cut : (kept ++ [last]).take cap = kept := by
        rw [← size, List.take_left]
      rw [cut, List.map_append, List.reverse_append, List.map_singleton,
        List.reverse_singleton, List.singleton_append, evict, if_neg fits,
        removed]
      cases (kept.map (·.1)).reverse with
      | nil => rfl
      | cons oldest order => rw [evict, if_pos (Nat.le_of_eq size)]

theorem Mirrors.record (mirrors : Mirrors cap ttlMs log cache)
    (absent : call.nonceKey ∉ cache.key.map (·.1)) :
    Mirrors cap ttlMs ((call.nonceKey, call.now) :: log)
      (cache.record call.nonceKey call.now) := by
  have keys : (((call.nonceKey, call.now) :: cache.key).map (·.1)).Nodup := by
    rw [List.map_cons]
    exact List.nodup_cons.mpr ⟨absent, mirrors.key_nodup⟩
  have length : ((call.nonceKey, call.now) :: cache.key).length ≤ cap + 1 := by
    rw [List.length_cons, mirrors.key_eq]
    exact Nat.succ_le_succ (List.length_take_le cap log)
  have evicted := evict_reverse _ keys length
  have held : ((call.nonceKey, call.now) :: cache.key).take cap =
      ((call.nonceKey, call.now) :: log).take cap := by
    rw [mirrors.key_eq]
    cases cap with
    | zero => rfl
    | succ cap =>
        rw [List.take_succ_cons, List.take_succ_cons, List.take_take,
          Nat.min_eq_left (Nat.le_succ cap)]
  have recorded : cache.record call.nonceKey call.now =
      { cache with
        key := ((call.nonceKey, call.now) :: log).take cap
        order :=
          ((((call.nonceKey, call.now) :: log).take cap).map (·.1)).reverse } := by
    rw [List.map_cons, List.reverse_cons, ← mirrors.order_eq, held] at evicted
    rw [SignatureCache.record, remove_eq_self absent, mirrors.cap_eq, evicted]
  constructor
  · rw [recorded]
    exact mirrors.cap_eq
  · rw [recorded]
    exact mirrors.ttlMs_eq
  · rw [recorded]
  · rw [recorded]
  · intro newer older split
    cases newer with
    | nil =>
        rw [List.nil_append] at split
        rw [← split, List.take_succ_cons, ← mirrors.key_eq]
        exact keys
    | cons head newer =>
        exact mirrors.apart newer older (List.cons.inj split).2

theorem Mirrors.after (mirrors : Mirrors cap ttlMs log cache)
    (notExpired : cache.NotExpired call) :
    Mirrors cap ttlMs (cache.entry call ++ log) (cache.after call) := by
  unfold SignatureCache.after entry answer
  rcases cache.checkAndRecord_cases call.nonceKey call.now with
    ⟨verified, found, hit⟩ | ⟨recorded, expired⟩
  · rw [hit]
    exact mirrors
  · rw [recorded]
    apply mirrors.record
    cases found : get cache.key call.nonceKey with
    | none => exact get_eq_none.mp found
    | some verified =>
        have late := expired verified found
        have early := notExpired verified found
        omega

theorem Mirrors.run {calls : List Check} {last : SignatureCache}
    (mirrors : Mirrors cap ttlMs log cache)
    (run : Run (Guarded NotExpired Moves) cache calls last) :
    Mirrors cap ttlMs (cache.logged log calls) last := by
  induction run generalizing log with
  | nil state => exact mirrors
  | cons moved rest induction =>
      rcases moved with ⟨notExpired, same⟩
      rw [same] at induction
      exact induction (mirrors.after notExpired)

/-- A recording with fewer than `cap` others on top of it is held. -/
theorem Mirrors.held {newer older : List (String × Nat)}
    {verified : Nat} (mirrors : Mirrors cap ttlMs log cache)
    (place : log = newer ++ (nonceKey, verified) :: older)
    (recent : newer.length < cap) :
    get cache.key nonceKey = some verified := by
  apply get_of_mem mirrors.key_nodup
  rw [mirrors.key_eq, place, List.take_append]
  apply List.mem_append_right
  obtain ⟨room, size⟩ : ∃ room, cap - newer.length = room + 1 :=
    ⟨cap - newer.length - 1, by omega⟩
  rw [size, List.take_succ_cons]
  exact List.mem_cons_self

/-- `cap` recordings on top of another have `cap + 1` keys with it. -/
theorem Mirrors.crowd {newer older : List (String × Nat)}
    {oldest : String × Nat} (mirrors : Mirrors cap ttlMs log cache)
    (place : log = newer ++ oldest :: older) (many : cap ≤ newer.length) :
    cap < ((newer ++ [oldest]).map (·.1)).dedup.length := by
  have parts : newer = newer.take (newer.length - cap) ++
      newer.drop (newer.length - cap) := (List.take_append_drop _ _).symm
  have size : (newer.drop (newer.length - cap)).length = cap := by
    rw [List.length_drop]
    omega
  have window := mirrors.apart (newer.take (newer.length - cap))
    (newer.drop (newer.length - cap) ++ oldest :: older) (by
      rw [← List.append_assoc, ← parts]
      exact place)
  have exactly : (newer.drop (newer.length - cap) ++ oldest :: older).take
      (cap + 1) = newer.drop (newer.length - cap) ++ [oldest] := by
    rw [List.take_append, List.take_of_length_le (by omega), size,
      Nat.add_sub_cancel_left, List.take_succ_cons, List.take_zero]
  rw [exactly] at window
  have inside : (newer.drop (newer.length - cap) ++ [oldest]).map (·.1) ⊆
      ((newer ++ [oldest]).map (·.1)).dedup := by
    intro key member
    rw [List.mem_dedup]
    apply List.map_subset _ _ member
    intro entry inside
    rcases List.mem_append.mp inside with recent | last
    · exact List.mem_append_left _ (List.mem_of_mem_drop recent)
    · exact List.mem_append_right _ last
  have count := (window.subperm inside).length_le
  rw [List.length_map, List.length_append, size, List.length_singleton] at count
  exact count

/-- In every run in which no call finds an expired entry of its key, the cache
remembers what it recorded and the queue holds no more than `cap` keys. -/
theorem remembers_of_notExpired {cap ttlMs : Nat} {calls : List Check}
    {last : SignatureCache}
    (run : Run (Guarded NotExpired Moves) (new cap ttlMs) calls last) :
    Remembers cap ttlMs calls ∧ last.order.length ≤ cap := by
  have mirrors := (mirrors_new cap ttlMs).run run
  have reached := run_afterAll run.of_guarded
  constructor
  · intro earlier call later whole recorded few now early
    let middle := (new cap ttlMs).afterAll earlier
    have log : (new cap ttlMs).logged [] calls =
        (middle.after call).logged
          ((call.nonceKey, call.now) :: (new cap ttlMs).logged [] earlier)
          later := by
      rw [whole, logged_append, logged, entry, if_pos recorded]
      rfl
    rcases (middle.after call).logged_grows
      ((call.nonceKey, call.now) :: (new cap ttlMs).logged [] earlier) later
      with ⟨newer, grown, keys⟩
    have since : middle.recordedKeys (call :: later) =
        ((newer ++ [(call.nonceKey, call.now)]).map (·.1)).reverse := by
      rw [recordedKeys, if_pos recorded, List.map_append, keys,
        List.reverse_append, List.reverse_reverse]
      rfl
    have recent : newer.length < cap := by
      by_contra many
      have crowd := mirrors.crowd (log.trans grown) (Nat.le_of_not_lt many)
      rw [since] at few
      have same := (List.reverse_perm
        ((newer ++ [(call.nonceKey, call.now)]).map (·.1))).dedup.length_eq
      omega
    have found := mirrors.held (log.trans grown) recent
    rw [← reached]
    unfold answer checkAndRecord
    rw [found]
    have live : now - call.now ≤ last.ttlMs := by
      rw [mirrors.ttlMs_eq]
      omega
    simp only [if_pos live]
    exact Option.some_ne_none _
  · rw [mirrors.order_eq, List.length_reverse, List.length_map, mirrors.key_eq]
    exact List.length_take_le cap _

theorem remembers_two_keys :
    Remembers 2 10 [⟨"a", 0⟩, ⟨"b", 3⟩, ⟨"a", 5⟩, ⟨"c", 30⟩] ∧
      ((new 2 10).afterAll
        [⟨"a", 0⟩, ⟨"b", 3⟩, ⟨"a", 5⟩, ⟨"c", 30⟩]).order.length ≤ 2 := by
  have first : NotExpired (new 2 10) ⟨"a", 0⟩ := by
    intro verified found
    cases found
  have second : NotExpired ((new 2 10).afterAll [⟨"a", 0⟩]) ⟨"b", 3⟩ := by
    intro verified found
    cases found
  have third : NotExpired ((new 2 10).afterAll [⟨"a", 0⟩, ⟨"b", 3⟩])
      ⟨"a", 5⟩ := by
    intro verified found
    cases found
    decide
  have fourth : NotExpired
      ((new 2 10).afterAll [⟨"a", 0⟩, ⟨"b", 3⟩, ⟨"a", 5⟩]) ⟨"c", 30⟩ := by
    intro verified found
    cases found
  exact remembers_of_notExpired (.cons ⟨first, rfl⟩ (.cons ⟨second, rfl⟩
    (.cons ⟨third, rfl⟩ (.cons ⟨fourth, rfl⟩ (.nil _)))))

theorem order_grows (count : Nat) :
    ∃ calls, (new 1 0).afterAll calls =
      ⟨1, 0, [("a", count)], List.replicate (count + 1) "a"⟩ := by
  induction count with
  | zero => exact ⟨[⟨"a", 0⟩], rfl⟩
  | succ count induction =>
      rcases induction with ⟨calls, reached⟩
      have expired : ¬ count + 1 - count ≤ 0 := by omega
      have grown : List.replicate (count + 1) "a" ++ ["a"] =
          List.replicate (count + 2) "a" := List.replicate_succ'.symm
      refine ⟨calls ++ [⟨"a", count + 1⟩], ?_⟩
      rw [afterAll_append, reached, afterAll, List.foldl_cons, List.foldl_nil,
        after, checkAndRecord]
      have found : get [("a", count)] "a" = some count := rfl
      simp only [found, if_neg expired, record, grown]
      rfl

/-- The place that `a` left in the queue when it expired evicts the fresh entry
of `a`, and nothing bounds the queue of a cache for one key. -/
theorem stale_place_evicts :
    ¬ Remembers 2 10 [⟨"a", 0⟩, ⟨"b", 0⟩, ⟨"a", 20⟩, ⟨"c", 21⟩] ∧
      ∀ bound, ∃ calls, bound < ((new 1 0).afterAll calls).order.length := by
  constructor
  · intro remembers
    exact remembers [⟨"a", 0⟩, ⟨"b", 0⟩] ⟨"a", 20⟩ [⟨"c", 21⟩] rfl (by decide)
      (by decide) 22 (by decide) (by decide)
  · intro bound
    rcases order_grows bound with ⟨calls, reached⟩
    refine ⟨calls, ?_⟩
    rw [reached, List.length_replicate]
    exact Nat.lt_succ_self bound

end SignatureCache

end AimailGateway.Auth
