import AimailGateway.Api.Send
import Mathlib.Data.Fintype.Pigeonhole
import Mathlib.Data.List.Perm.Subperm
import Mathlib.Data.String.Basic

/-! # The duplicate-send detector

The detector against the list of the latest marks, one for each key and in
their order: what the table holds is always the end of that list. A key that
is marked again while the table is full makes the table one shorter than it
needs to be; without such a mark the table holds every live mark behind which
there are fewer than `capacity` others.
-/

namespace AimailGateway.Api

open Library

namespace SendDeduper

/-! ## The key -/

/-- One step of FNV-1a. -/
def mixByte (hash : UInt64) (byte : UInt8) : UInt64 :=
  (hash ^^^ byte.toUInt64) * 0x100000001b3

def mix (hash : UInt64) (bytes : List UInt8) : UInt64 :=
  bytes.foldl mixByte hash

def sorted (addrs : List String) : List String :=
  addrs.mergeSort fun left right => decide (left ≤ right)

/-- A list of addresses, sorted, each with a zero behind it, and one more. -/
def encodeList (addrs : List String) : List UInt8 :=
  (sorted addrs).flatMap (fun addr => Text.bytes addr ++ [0]) ++ [0]

/-- The parts of a mail that tell it from another. -/
structure Content where
  sender : String
  toAddrs : List String
  cc : List String
  subject : String
  body : String
  deriving DecidableEq, Repr

/-- The bytes that go into the hash; `sha256` is the digest of the body. -/
def encode (sha256 : String → List UInt8) (content : Content) : List UInt8 :=
  Text.bytes content.sender ++ [0] ++ encodeList content.toAddrs ++
    encodeList content.cc ++ Text.bytes content.subject ++ [0] ++
    sha256 content.body

def hashKey (sha256 : String → List UInt8) (content : Content) : UInt64 :=
  mix 0xcbf29ce484222325 (encode sha256 content)

theorem sorted_eq_of_perm {left right : List String} (same : left.Perm right) :
    sorted left = sorted right := by
  have ordered : ∀ addrs, (sorted addrs).Pairwise
      fun one two => decide (one ≤ two) = true := by
    intro addrs
    apply List.pairwise_mergeSort
    · intro one two three first second
      rw [decide_eq_true_eq] at first second ⊢
      exact le_trans first second
    · intro one two
      rw [Bool.or_eq_true, decide_eq_true_eq, decide_eq_true_eq]
      exact le_total one two
  have perm : (sorted left).Perm (sorted right) :=
    (List.mergeSort_perm left _).trans
      (same.trans (List.mergeSort_perm right _).symm)
  refine perm.eq_of_pairwise ?_ (ordered left) (ordered right)
  intro one two _ _ first second
  rw [decide_eq_true_eq] at first second
  exact le_antisymm first second

theorem hashKey_perm (sha256 : String → List UInt8) {one two : Content}
    (sender : one.sender = two.sender) (toAddrs : one.toAddrs.Perm two.toAddrs)
    (cc : one.cc.Perm two.cc) (subject : one.subject = two.subject)
    (body : one.body = two.body) :
    hashKey sha256 one = hashKey sha256 two := by
  unfold hashKey encode encodeList
  rw [sender, sorted_eq_of_perm toAddrs, sorted_eq_of_perm cc, subject, body]

/-- The send API with the key of its detector. -/
def hashing (sha256 : String → List UInt8) (state : SendState) : SendState :=
  { state with
    dedupeKey := fun sender toAddrs cc subject body =>
      hashKey sha256 ⟨sender, toAddrs, cc, subject, body⟩ }

/-- Requests that list the same addresses in another order have one key. -/
theorem requestKey_perm (sha256 : String → List UInt8) (state : SendState)
    {one two : SendEmailRequest} (sender body : String)
    (toAddrs : (dedupeTo state one).Perm (dedupeTo state two))
    (cc : (dedupeCc state one).Perm (dedupeCc state two))
    (subject : one.subject = two.subject) :
    requestKey (hashing sha256 state) one sender body =
      requestKey (hashing sha256 state) two sender body :=
  hashKey_perm sha256 rfl toAddrs cc (congrArg (·.getD "") subject) rfl

theorem mixByte_injective {left right : UInt64} {byte : UInt8}
    (same : mixByte left byte = mixByte right byte) : left = right := by
  have unit : (0x100000001b3 : UInt64) * 0xce965057aff6957b = 1 := by decide
  have cleared := congrArg (· * (0xce965057aff6957b : UInt64)) same
  simp only [mixByte, UInt64.mul_assoc, unit, UInt64.mul_one] at cleared
  exact (UInt64.xor_left_inj _).mp cleared

theorem mixByte_byte_injective {hash : UInt64} {left right : UInt8}
    (same : mixByte hash left = mixByte hash right) : left = right := by
  have unit : (0x100000001b3 : UInt64) * 0xce965057aff6957b = 1 := by decide
  have cleared := congrArg (· * (0xce965057aff6957b : UInt64)) same
  simp only [mixByte, UInt64.mul_assoc, unit, UInt64.mul_one] at cleared
  exact UInt8.toUInt64_inj.mp ((UInt64.xor_right_inj _).mp cleared)

theorem mix_injective {left right : UInt64} (bytes : List UInt8)
    (same : mix left bytes = mix right bytes) : left = right := by
  induction bytes generalizing left right with
  | nil => exact same
  | cons byte bytes induction => exact mixByte_injective (induction same)

theorem hashKey_ne_of_one_byte (sha256 : String → List UInt8)
    {one two : Content} {before behind : List UInt8} {left right : UInt8}
    (first : encode sha256 one = before ++ left :: behind)
    (second : encode sha256 two = before ++ right :: behind)
    (different : left ≠ right) : hashKey sha256 one ≠ hashKey sha256 two := by
  intro same
  rw [hashKey, hashKey, first, second] at same
  simp only [mix, List.foldl_append, List.foldl_cons] at same
  exact different (mixByte_byte_injective (mix_injective behind same))

/-- Two recipients, and one text that joins them by the zero between them. -/
def twoRecipients : Content :=
  ⟨"agent@a.test", ["bob@b.test", "pal@c.test"], [], "Hello", "Hi"⟩

def joinedRecipients : Content :=
  ⟨"agent@a.test", ["bob@b.test\x00pal@c.test"], [], "Hello", "Hi"⟩

/-- A zero inside a recipient looks like the end of one, and there are more
subjects than keys. -/
theorem hashKey_collides :
    (∀ sha256 : String → List UInt8,
      hashKey sha256 twoRecipients = hashKey sha256 joinedRecipients) ∧
    ¬ twoRecipients.toAddrs.Perm joinedRecipients.toAddrs ∧
    ¬ ∃ sha256 : String → List UInt8, ∀ one two : Content,
      hashKey sha256 one = hashKey sha256 two → one.subject = two.subject := by
  refine ⟨fun sha256 => ?_, fun same => absurd same.length_eq (by decide), ?_⟩
  · have two : sorted twoRecipients.toAddrs = twoRecipients.toAddrs :=
      List.mergeSort_of_pairwise (by decide +kernel)
    have one : sorted joinedRecipients.toAddrs = joinedRecipients.toAddrs :=
      List.mergeSort_of_pairwise (by decide +kernel)
    have lists : encodeList twoRecipients.toAddrs =
        encodeList joinedRecipients.toAddrs := by
      rw [encodeList, encodeList, two, one]
      decide +kernel
    rw [hashKey, hashKey, encode, encode, lists]
    rfl
  · rintro ⟨sha256, separates⟩
    let subject (count : Nat) : Content :=
      ⟨"agent@a.test", ["bob@b.test"], [],
        String.ofList (List.replicate count 'a'), ""⟩
    let key (count : Nat) : Fin UInt64.size :=
      (hashKey sha256 (subject count)).toFin
    rcases Finite.exists_ne_map_eq_of_infinite key with
      ⟨one, two, different, same⟩
    have texts := separates (subject one) (subject two) (UInt64.toFin_inj.mp same)
    have lengths := congrArg String.length texts
    simp only [subject, String.length_ofList, List.length_replicate] at lengths
    exact different lengths

/-! ## Runs -/

/-- A call of the detector, for the key of a mail. -/
inductive DedupeCall where
  | isDuplicate (key : UInt64) (time : Timestamp)
  | mark (key : UInt64) (time : Timestamp)
  deriving DecidableEq, Repr

namespace DedupeCall

def time : DedupeCall → Timestamp
  | isDuplicate _ time => time
  | mark _ time => time

def marked? : DedupeCall → Option UInt64
  | isDuplicate _ _ => none
  | mark key _ => some key

end DedupeCall

/-- `SendDeduper::new`. -/
def start : SendDeduper := ⟨[], 0⟩

def after (window capacity : Nat) (deduper : SendDeduper) :
    DedupeCall → SendDeduper
  | .isDuplicate _ time => deduper.purge window time
  | .mark key time => deduper.mark capacity key time

def afterAll (window capacity : Nat) (calls : List DedupeCall) : SendDeduper :=
  calls.foldl (after window capacity) start

/-- What `is_duplicate` answers. -/
def answers (window : Nat) (deduper : SendDeduper) (key : UInt64)
    (time : Timestamp) : Bool :=
  (deduper.purge window time).entries.any (·.1 == key)

def markedKeys (calls : List DedupeCall) : List UInt64 :=
  calls.filterMap DedupeCall.marked?

/-- The last mark of the key is less than the window ago, and fewer than
`capacity` other keys were marked since. -/
def RecentlyMarked (window capacity : Nat) (calls : List DedupeCall)
    (key : UInt64) (now : Timestamp) : Prop :=
  ∃ earlier time later, calls = earlier ++ .mark key time :: later ∧
    key ∉ markedKeys later ∧ now - time < window ∧
    (markedKeys later).dedup.length < capacity

def MarksAgainWhenFull (capacity : Nat) (deduper : SendDeduper) :
    DedupeCall → Prop
  | .isDuplicate _ _ => False
  | .mark key _ =>
      capacity ≤ deduper.entries.length ∧ ∃ entry ∈ deduper.entries, entry.1 = key

/-! ## The latest marks -/

def noted (log : List (UInt64 × Timestamp)) :
    DedupeCall → List (UInt64 × Timestamp)
  | .isDuplicate _ _ => log
  | .mark key time => log.filter (·.1 != key) ++ [(key, time)]

/-- The last mark of each key, in order. -/
def latest (calls : List DedupeCall) : List (UInt64 × Timestamp) :=
  calls.foldl noted []

theorem latest_concat (past : List DedupeCall) (call : DedupeCall) :
    latest (past ++ [call]) = noted (latest past) call := by
  rw [latest, List.foldl_append]
  rfl

theorem markedKeys_append (earlier later : List DedupeCall) :
    markedKeys (earlier ++ later) = markedKeys earlier ++ markedKeys later :=
  List.filterMap_append

theorem markedKeys_concat (past : List DedupeCall) (call : DedupeCall) :
    markedKeys (past ++ [call]) = markedKeys past ++ call.marked?.toList := by
  rw [markedKeys_append]
  cases call <;> rfl

theorem noted_nodup {log : List (UInt64 × Timestamp)} (call : DedupeCall)
    (nodup : (log.map (·.1)).Nodup) : ((noted log call).map (·.1)).Nodup := by
  cases call with
  | isDuplicate key time => exact nodup
  | mark key time =>
      rw [noted, List.map_append, List.nodup_append]
      refine ⟨nodup.sublist (List.filter_sublist.map _), List.nodup_singleton _, ?_⟩
      intro one first two second same
      rcases List.mem_map.mp first with ⟨entry, kept, rfl⟩
      rw [List.map_singleton, List.mem_singleton] at second
      rw [List.mem_filter, bne_iff_ne] at kept
      exact kept.2 (same.trans second)

theorem latest_nodup (calls : List DedupeCall) :
    ((latest calls).map (·.1)).Nodup := by
  induction calls using List.reverseRecOn with
  | nil => exact List.nodup_nil
  | append_singleton past call induction =>
      rw [latest_concat]
      exact noted_nodup call induction

theorem latest_split (earlier : List DedupeCall) (key : UInt64)
    (time : Timestamp) (later : List DedupeCall) (last : key ∉ markedKeys later) :
    ∃ older newer,
      latest (earlier ++ .mark key time :: later) =
        older ++ (key, time) :: newer ∧
      (newer.map (·.1)).Perm (markedKeys later).dedup := by
  induction later using List.reverseRecOn with
  | nil =>
      refine ⟨(latest earlier).filter (·.1 != key), [], ?_, List.Perm.refl _⟩
      exact latest_concat earlier (.mark key time)
  | append_singleton later call induction =>
      rw [markedKeys_concat, List.mem_append, not_or] at last
      rcases induction last.1 with ⟨older, newer, split, perm⟩
      rw [← List.cons_append, ← List.append_assoc, latest_concat, split,
        markedKeys_concat]
      cases call with
      | isDuplicate other moment =>
          refine ⟨older, newer, rfl, ?_⟩
          rw [DedupeCall.marked?, Option.toList_none, List.append_nil]
          exact perm
      | mark other moment =>
          have different : key ≠ other := fun same =>
            last.2 (same ▸ List.mem_singleton_self key)
          refine ⟨older.filter (·.1 != other), noted newer (.mark other moment),
            ?_, ?_⟩
          · simp only [noted, List.filter_append, List.append_assoc]
            rw [List.filter_cons_of_pos (by simpa using different),
              List.cons_append]
          · have nodup : (newer.map (·.1)).Nodup :=
              perm.nodup_iff.mpr (List.nodup_dedup _)
            rw [List.perm_ext_iff_of_nodup (noted_nodup _ nodup)
              (List.nodup_dedup _)]
            intro one
            have before := perm.mem_iff (a := one)
            simp only [List.mem_dedup, List.mem_map] at before
            simp only [noted, DedupeCall.marked?, Option.toList_some,
              List.mem_dedup, List.mem_append, ← before, List.map_append,
              List.mem_map, List.mem_filter, bne_iff_ne, List.mem_singleton,
              List.map_singleton]
            by_cases same : one = other
            · simp only [same, or_true]
            · simp only [same, or_false]
              constructor
              · rintro ⟨entry, kept, rfl⟩
                exact ⟨entry, kept.1, rfl⟩
              · rintro ⟨entry, kept, rfl⟩
                exact ⟨entry, ⟨kept, same⟩, rfl⟩

variable {calls : List DedupeCall}

theorem marked_of_mem_latest {key : UInt64}
    {time : Timestamp} (member : (key, time) ∈ latest calls) :
    ∃ earlier later, calls = earlier ++ .mark key time :: later ∧
      key ∉ markedKeys later := by
  induction calls using List.reverseRecOn with
  | nil => cases member
  | append_singleton past call induction =>
      rw [latest_concat] at member
      cases call with
      | isDuplicate other moment =>
          rcases induction member with ⟨earlier, later, whole, last⟩
          refine ⟨earlier, later ++ [.isDuplicate other moment], ?_, ?_⟩
          · rw [whole, List.append_assoc, List.cons_append]
          · rw [markedKeys_concat, DedupeCall.marked?, Option.toList_none,
              List.append_nil]
            exact last
      | mark other moment =>
          rcases List.mem_append.mp member with kept | new
          · rw [List.mem_filter, bne_iff_ne] at kept
            rcases induction kept.1 with ⟨earlier, later, whole, last⟩
            refine ⟨earlier, later ++ [.mark other moment], ?_, ?_⟩
            · rw [whole, List.append_assoc, List.cons_append]
            · rw [markedKeys_concat, List.mem_append, not_or]
              exact ⟨last, fun same => kept.2 (List.mem_singleton.mp same)⟩
          · rw [List.mem_singleton, Prod.mk.injEq] at new
            exact ⟨past, [], by rw [new.1, new.2], List.not_mem_nil⟩

/-! ## The table -/

/-- What a table knows of an entry: its key and the moment of its mark. -/
def held (deduper : SendDeduper) : List (UInt64 × Timestamp) :=
  deduper.entries.map fun entry => (entry.1, entry.2.1)

/-- The table is the end of the list of the latest marks. -/
structure Tracks (capacity : Nat) (past : List DedupeCall)
    (deduper : SendDeduper) : Prop where
  ends : deduper.held <:+ latest past
  fits : deduper.entries.length ≤ capacity
  placed : deduper.entries.Pairwise (·.2.2.toNat < ·.2.2.toNat)
  below : ∀ entry ∈ deduper.entries, entry.2.2.toNat ≤ deduper.seq.toNat
  counted : deduper.seq.toNat = (markedKeys past).length

/-- No call is before an earlier one. -/
def Ordered (calls : List DedupeCall) : Prop :=
  calls.Pairwise fun first second => first.time ≤ second.time

theorem filter_suffix {entries : List (UInt64 × Timestamp)}
    {keeps : UInt64 × Timestamp → Bool}
    (later : entries.Pairwise fun first second =>
      keeps first = true → keeps second = true) :
    entries.filter keeps <:+ entries := by
  induction entries with
  | nil => exact List.suffix_rfl
  | cons entry entries induction =>
      rw [List.pairwise_cons] at later
      cases kept : keeps entry with
      | true =>
          have all : (entry :: entries).filter keeps = entry :: entries := by
            rw [List.filter_eq_self]
            intro other member
            rcases List.mem_cons.mp member with same | member
            · rw [same]
              exact kept
            · exact later.1 other member kept
          rw [all]
      | false =>
          rw [List.filter_cons_of_neg (by rw [kept]; exact Bool.false_ne_true)]
          exact (induction later.2).trans (List.suffix_cons entry entries)

theorem time_le_of_mem_latest {now : Timestamp}
    (late : ∀ call ∈ calls, call.time ≤ now) {entry : UInt64 × Timestamp}
    (member : entry ∈ latest calls) : entry.2 ≤ now := by
  rcases marked_of_mem_latest member with ⟨earlier, later, whole, -⟩
  exact late (.mark entry.1 entry.2) (whole ▸ List.mem_append_right _ List.mem_cons_self)

theorem ordered_concat {past : List DedupeCall} {call : DedupeCall}
    (ordered : Ordered (past ++ [call])) :
    Ordered past ∧ ∀ earlier ∈ past, earlier.time ≤ call.time := by
  rw [Ordered, List.pairwise_append] at ordered
  exact ⟨ordered.1, fun earlier member =>
    ordered.2.2 earlier member call (List.mem_singleton_self call)⟩

theorem latest_ordered (ordered : Ordered calls) :
    (latest calls).Pairwise fun first second => first.2 ≤ second.2 := by
  induction calls using List.reverseRecOn with
  | nil => exact List.Pairwise.nil
  | append_singleton past call induction =>
      rcases ordered_concat ordered with ⟨before, late⟩
      rw [latest_concat]
      cases call with
      | isDuplicate key time => exact induction before
      | mark key time =>
          rw [noted, List.pairwise_append]
          refine ⟨(induction before).sublist List.filter_sublist,
            List.pairwise_singleton _ _, ?_⟩
          intro first member second new
          rw [List.mem_singleton] at new
          rw [new]
          exact time_le_of_mem_latest late (List.mem_of_mem_filter member)

section Table

variable {window capacity : Nat} {past : List DedupeCall} {deduper : SendDeduper}
  {key : UInt64} {time : Timestamp}

theorem Tracks.held_nodup (tracks : Tracks capacity past deduper) :
    (deduper.entries.map (·.1)).Nodup := by
  have nodup := (latest_nodup past).sublist (tracks.ends.sublist.map _)
  rw [held, List.map_map] at nodup
  exact nodup

theorem Tracks.dropOldest (tracks : Tracks capacity past deduper) :
    (deduper.entries.filter fun entry => some entry.1 != deduper.oldest) =
      deduper.entries.tail := by
  have nodup := tracks.held_nodup
  have placed := tracks.placed
  unfold oldest
  cases entries : deduper.entries with
  | nil => rfl
  | cons head entries' =>
      rw [entries, List.map_cons, List.nodup_cons] at nodup
      rw [entries, List.pairwise_cons] at placed
      have first : (head :: entries').minOn? (fun entry => entry.2.2.toNat) =
          some head := by
        rw [List.minOn?_cons_eq_some_minOn, List.minOn_eq_head]
        · rfl
        · intro entry member
          rcases List.mem_cons.mp member with same | member
          · exact Nat.le_of_eq (by rw [same]; rfl)
          · exact Nat.le_of_lt (placed.1 entry member)
      rw [first, Option.map_some, List.filter_cons_of_neg (by simp),
        List.tail_cons, List.filter_eq_self]
      intro entry member
      have different : entry.1 ≠ head.1 := fun same =>
        nodup.1 (same ▸ List.mem_map_of_mem member)
      simpa using different

/-- What a mark keeps of the table. -/
def survivors (capacity : Nat) (deduper : SendDeduper) :
    List (UInt64 × Timestamp × UInt64) :=
  if capacity ≤ deduper.entries.length then deduper.entries.tail
  else deduper.entries

theorem Tracks.mark_eq (tracks : Tracks capacity past deduper) :
    deduper.mark capacity key time =
      { entries := (deduper.survivors capacity).filter (·.1 != key) ++
          [(key, time, deduper.seq + 1)]
        seq := deduper.seq + 1 } := by
  rw [mark, tracks.dropOldest]
  rfl

theorem survivors_suffix : deduper.survivors capacity <:+ deduper.entries := by
  rw [survivors]
  split
  · exact List.tail_suffix _
  · exact List.suffix_rfl

theorem Tracks.start (capacity : Nat) : Tracks capacity [] start where
  ends := List.suffix_rfl
  fits := Nat.zero_le capacity
  placed := List.Pairwise.nil
  below := fun entry member => by cases member
  counted := rfl

theorem Tracks.purge (tracks : Tracks capacity past deduper)
    (ordered : Ordered past) :
    Tracks capacity (past ++ [.isDuplicate key time])
      (deduper.purge window time) := by
  have suffix : (deduper.purge window time).held <:+ deduper.held := by
    have later := (latest_ordered ordered).sublist tracks.ends.sublist
    have filtered : (deduper.purge window time).held =
        deduper.held.filter fun entry => time - entry.2 < window := by
      rw [held, held, SendDeduper.purge, List.filter_map]
      rfl
    rw [filtered]
    apply filter_suffix
    apply later.imp
    intro first second earlier live
    rw [decide_eq_true_eq] at live ⊢
    exact Nat.lt_of_le_of_lt (Nat.sub_le_sub_left earlier time) live
  constructor
  · rw [latest_concat]
    exact suffix.trans tracks.ends
  · exact Nat.le_trans (List.length_filter_le _ _) tracks.fits
  · exact tracks.placed.sublist List.filter_sublist
  · intro entry member
    exact tracks.below entry (List.mem_of_mem_filter member)
  · rw [markedKeys_concat, DedupeCall.marked?, Option.toList_none,
      List.append_nil]
    exact tracks.counted

theorem Tracks.mark (tracks : Tracks capacity past deduper)
    (positive : 0 < capacity)
    (few : (markedKeys past).length + 1 < UInt64.size) :
    Tracks capacity (past ++ [.mark key time])
      (deduper.mark capacity key time) := by
  have next : (deduper.seq + 1).toNat = deduper.seq.toNat + 1 := by
    rw [UInt64.toNat_add, UInt64.toNat_one, Nat.mod_eq_of_lt]
    rw [tracks.counted]
    exact few
  rw [tracks.mark_eq]
  have suffix := @survivors_suffix capacity deduper
  constructor
  · rw [latest_concat, noted, held, List.map_append]
    have kept : ((deduper.survivors capacity).filter (·.1 != key)).map
        (fun entry => (entry.1, entry.2.1)) <:+
          (latest past).filter (·.1 != key) := by
      have part : (deduper.survivors capacity).map
          (fun entry => (entry.1, entry.2.1)) <:+ deduper.held :=
        suffix.map _
      have whole := (part.trans tracks.ends).filter (·.1 != key)
      rw [List.filter_map] at whole
      exact whole
    rcases kept with ⟨older, split⟩
    exact ⟨older, by rw [← split, List.append_assoc]; rfl⟩
  · have room : (deduper.survivors capacity).length + 1 ≤ capacity := by
      have fits := tracks.fits
      rw [survivors]
      split
      · rw [List.length_tail]
        omega
      · omega
    rw [List.length_append, List.length_singleton]
    exact Nat.le_trans (Nat.succ_le_succ (List.length_filter_le _ _)) room
  · rw [List.pairwise_append]
    refine ⟨(tracks.placed.sublist suffix.sublist).sublist List.filter_sublist,
      List.pairwise_singleton _ _, ?_⟩
    intro entry member new same
    rw [List.mem_singleton] at same
    have below := tracks.below entry
      (suffix.subset (List.mem_of_mem_filter member))
    rw [same]
    exact Nat.lt_of_le_of_lt below (by rw [next]; exact Nat.lt_succ_self _)
  · intro entry member
    rw [List.mem_append, List.mem_singleton] at member
    rcases member with old | new
    · have below := tracks.below entry
        (suffix.subset (List.mem_of_mem_filter old))
      rw [next]
      exact Nat.le_succ_of_le below
    · rw [new]
  · rw [markedKeys_concat, next, tracks.counted, List.length_append]
    rfl

theorem length_le_filter_succ {entries : List (UInt64 × Timestamp)}
    (nodup : (entries.map (·.1)).Nodup) :
    entries.length ≤ (entries.filter (·.1 != key)).length + 1 := by
  induction entries with
  | nil => exact Nat.zero_le _
  | cons head entries induction =>
      rw [List.map_cons, List.nodup_cons] at nodup
      by_cases same : head.1 = key
      · have others : entries.filter (·.1 != key) = entries := by
          rw [List.filter_eq_self]
          intro entry member
          have different : entry.1 ≠ key := fun equal =>
            nodup.1 (same ▸ equal ▸ List.mem_map_of_mem member)
          simpa using different
        rw [List.filter_cons_of_neg (by simpa using same), others,
          List.length_cons]
      · rw [List.filter_cons_of_pos (by simpa using same), List.length_cons,
          List.length_cons]
        exact Nat.succ_le_succ (induction nodup.2)

theorem mem_tail_of_mem {entries : List (UInt64 × Timestamp)}
    {entry : UInt64 × Timestamp} (member : entry ∈ entries)
    (notFirst : ∀ rest, entries ≠ entry :: rest) : entry ∈ entries.tail := by
  cases entries with
  | nil => cases member
  | cons head entries =>
      rcases List.mem_cons.mp member with same | member
      · exact absurd (same ▸ rfl) (notFirst entries)
      · exact member

/-- Every live mark with fewer than `capacity` others behind it is held. -/
def Complete (window capacity : Nat) (past : List DedupeCall)
    (deduper : SendDeduper) : Prop :=
  ∀ now, (∀ call ∈ past, call.time ≤ now) →
    ∀ older entry newer, latest past = older ++ entry :: newer →
      newer.length < capacity → now - entry.2 < window → entry ∈ deduper.held

theorem Complete.purge (complete : Complete window capacity past deduper) :
    Complete window capacity (past ++ [.isDuplicate key time])
      (deduper.purge window time) := by
  intro now late older entry newer place few live
  have before : entry ∈ deduper.held := by
    rw [latest_concat] at place
    exact complete now (fun call member => late call (List.mem_append_left _ member))
      older entry newer place few live
  have present : time ≤ now :=
    late (.isDuplicate key time) (List.mem_append_right _ (List.mem_singleton_self _))
  rcases List.mem_map.mp before with ⟨row, member, same⟩
  apply List.mem_map.mpr
  refine ⟨row, List.mem_filter.mpr ⟨member, ?_⟩, same⟩
  rw [decide_eq_true_eq]
  have moment : row.2.1 = entry.2 := congrArg Prod.snd same
  rw [moment]
  exact Nat.lt_of_le_of_lt (Nat.sub_le_sub_right present _) live

/-- A mark that a full table does not hold pushes out only what has `capacity`
others behind it. -/
theorem Complete.mark (complete : Complete window capacity past deduper)
    (tracks : Tracks capacity past deduper)
    (fresh : ¬ MarksAgainWhenFull capacity deduper (.mark key time)) :
    Complete window capacity (past ++ [.mark key time])
      (deduper.mark capacity key time) := by
  intro now late older entry newer place few live
  rw [tracks.mark_eq, held, List.map_append]
  rw [latest_concat, noted] at place
  rcases List.eq_nil_or_concat newer with none | ⟨others, last, whole⟩
  · rw [none] at place
    have new := (List.append_inj' place rfl).2
    rw [← (List.cons.inj new).1]
    exact List.mem_append_right _ (List.mem_singleton_self _)
  · rw [List.concat_eq_append] at whole
    rw [whole, ← List.cons_append, ← List.append_assoc] at place
    have kept := (List.append_inj' place rfl).1
    rcases List.filter_eq_append_iff.mp kept with ⟨front, back, parts, -, rest⟩
    rcases List.filter_eq_cons_iff.mp rest with
      ⟨between, behind, split, -, different, remaining⟩
    have before : latest past = (front ++ between) ++ entry :: behind := by
      rw [parts, split, List.append_assoc]
    have nodup : ((entry :: behind).map (·.1)).Nodup :=
      (latest_nodup past).sublist
        (before ▸ (List.sublist_append_right _ _).map _)
    have grown : others.length < newer.length := by
      rw [whole, List.length_append, List.length_singleton]
      exact Nat.lt_succ_self _
    have behindFew : behind.length ≤ others.length + 1 := by
      rw [← remaining]
      exact length_le_filter_succ (List.nodup_cons.mp nodup).2
    have member : entry ∈ deduper.held :=
      complete now (fun call member => late call (List.mem_append_left _ member))
        _ entry behind before (by omega) live
    have survives : entry ∈ (deduper.survivors capacity).map
        fun row => (row.1, row.2.1) := by
      rw [survivors]
      split
      · rename_i full
        rw [List.map_tail, ← held]
        apply mem_tail_of_mem member
        intro rows first
        -- As the oldest of a full table the entry has too many behind it.
        rcases tracks.ends with ⟨ahead, table⟩
        rw [first] at table
        have unique : (ahead ++ entry :: rows).Nodup := by
          rw [table]
          exact (latest_nodup past).of_map
        rw [List.nodup_append, List.nodup_cons] at unique
        have same : rows = behind :=
          ((List.append_cons_inj_of_notMem
            (fun inside => unique.2.2 entry inside entry List.mem_cons_self rfl)
            unique.2.1.1).mp (table.trans before)).2.2
        have untouched : behind.filter (·.1 != key) = behind := by
          rw [List.filter_eq_self]
          intro other inside
          rw [bne_iff_ne]
          intro equal
          have among : other ∈ deduper.held := by
            rw [first, same]
            exact List.mem_cons_of_mem _ inside
          rcases List.mem_map.mp among with ⟨row, stored, made⟩
          exact fresh ⟨full, row, stored, (congrArg Prod.fst made).trans equal⟩
        have size : deduper.entries.length = behind.length + 1 := by
          have mapped := congrArg List.length first
          rw [held, List.length_map, same, List.length_cons] at mapped
          exact mapped
        rw [untouched] at remaining
        rw [← remaining] at grown
        omega
      · exact member
    rcases List.mem_map.mp survives with ⟨row, inside, same⟩
    apply List.mem_append_left
    refine List.mem_map.mpr ⟨row, List.mem_filter.mpr ⟨inside, ?_⟩, same⟩
    rw [← same] at different
    exact different

theorem Complete.start (window capacity : Nat) :
    Complete window capacity [] start := by
  intro now late older entry newer place
  exact absurd place.symm (List.append_ne_nil_of_right_ne_nil _
    (List.cons_ne_nil _ _))

theorem tracks_afterAll {calls : List DedupeCall} (positive : 0 < capacity)
    (ordered : Ordered calls)
    (few : (markedKeys calls).length < UInt64.size) :
    Tracks capacity calls (afterAll window capacity calls) := by
  induction calls using List.reverseRecOn with
  | nil => exact Tracks.start capacity
  | append_singleton past call induction =>
      rw [markedKeys_concat, List.length_append] at few
      have tracks := induction (ordered_concat ordered).1 (by omega)
      rw [afterAll, List.foldl_append]
      cases call with
      | isDuplicate key time => exact tracks.purge (ordered_concat ordered).1
      | mark key time => exact tracks.mark positive few

theorem complete_afterAll {calls : List DedupeCall} (positive : 0 < capacity)
    (ordered : Ordered calls)
    (few : (markedKeys calls).length < UInt64.size)
    (fresh : ∀ earlier call later, calls = earlier ++ call :: later →
      ¬ MarksAgainWhenFull capacity (afterAll window capacity earlier) call) :
    Complete window capacity calls (afterAll window capacity calls) := by
  induction calls using List.reverseRecOn with
  | nil => exact Complete.start window capacity
  | append_singleton past call induction =>
      rw [markedKeys_concat, List.length_append] at few
      have before := (ordered_concat ordered).1
      have tracks := @tracks_afterAll window _ _ positive before (by omega)
      have complete := induction before (by omega) fun earlier call later whole =>
        fresh earlier call (later ++ [_])
          (by rw [whole, List.append_assoc, List.cons_append])
      rw [afterAll, List.foldl_append]
      cases call with
      | isDuplicate key time => exact complete.purge
      | mark key time => exact complete.mark tracks (fresh past _ [] rfl)

/-- What is reported was marked less than the window ago, with fewer than
`capacity` others since. -/
theorem Tracks.recentlyMarked (tracks : Tracks capacity past deduper)
    {now : Timestamp} (reported : deduper.answers window key now = true) :
    RecentlyMarked window capacity past key now := by
  rw [answers, List.any_eq_true] at reported
  rcases reported with ⟨row, member, same⟩
  rw [SendDeduper.purge, List.mem_filter, decide_eq_true_eq] at member
  rw [beq_iff_eq] at same
  have held : (row.1, row.2.1) ∈ deduper.held := List.mem_map_of_mem member.1
  rcases marked_of_mem_latest (tracks.ends.subset held) with
    ⟨earlier, later, whole, last⟩
  refine ⟨earlier, row.2.1, later, same ▸ whole, same ▸ last, member.2, ?_⟩
  rcases latest_split earlier row.1 row.2.1 later last with
    ⟨older, newer, split, perm⟩
  rw [← perm.length_eq, List.length_map]
  rcases List.mem_iff_append.mp held with ⟨front, back, table⟩
  rcases tracks.ends with ⟨ahead, place⟩
  have unique : ((ahead ++ front) ++ (row.1, row.2.1) :: back).Nodup := by
    rw [List.append_assoc, ← table, place]
    exact (latest_nodup past).of_map
  rw [List.nodup_append, List.nodup_cons] at unique
  have meets : (ahead ++ front) ++ (row.1, row.2.1) :: back =
      older ++ (row.1, row.2.1) :: newer := by
    rw [List.append_assoc, ← table, place, whole, split]
  have behind : back = newer :=
    ((List.append_cons_inj_of_notMem
      (fun inside => unique.2.2 _ inside _ List.mem_cons_self rfl)
      unique.2.1.1).mp meets).2.2
  have size : deduper.held.length = front.length + (newer.length + 1) := by
    rw [table, List.length_append, List.length_cons, behind]
  have fits := tracks.fits
  rw [SendDeduper.held, List.length_map] at size
  omega

theorem Complete.reports {now : Timestamp}
    (complete : Complete window capacity past deduper)
    (late : ∀ call ∈ past, call.time ≤ now)
    (recent : RecentlyMarked window capacity past key now) :
    deduper.answers window key now = true := by
  rcases recent with ⟨earlier, time, later, whole, last, live, few⟩
  rcases latest_split earlier key time later last with
    ⟨older, newer, split, perm⟩
  rw [← perm.length_eq, List.length_map] at few
  have held := complete now late older (key, time) newer (whole ▸ split) few live
  rcases List.mem_map.mp held with ⟨row, member, same⟩
  rw [answers, List.any_eq_true]
  rw [Prod.mk.injEq] at same
  refine ⟨row, List.mem_filter.mpr ⟨member, ?_⟩, ?_⟩
  · rw [decide_eq_true_eq, same.2]
    exact live
  · rw [beq_iff_eq]
    exact same.1

theorem Tracks.displaced_live (tracks : Tracks capacity past deduper)
    (ordered : Ordered past) {entry : UInt64 × Timestamp × UInt64}
    (stored : entry ∈ deduper.entries) (live : time - entry.2.1 < window)
    (other : entry.1 ≠ key)
    (displaced : entry ∉ (deduper.mark capacity key time).entries) :
    ∀ row ∈ deduper.entries, time - row.2.1 < window := by
  have sorted := (latest_ordered ordered).sublist tracks.ends.sublist
  rw [held, List.pairwise_map] at sorted
  rw [tracks.mark_eq] at displaced
  have gone : entry ∉ deduper.survivors capacity := fun kept =>
    displaced (List.mem_append_left _
      (List.mem_filter.mpr ⟨kept, by simpa using other⟩))
  rw [survivors] at gone
  split at gone
  · cases entries : deduper.entries with
    | nil =>
        intro row member
        cases member
    | cons head rest =>
        rw [entries] at stored gone sorted
        have first : entry = head := by
          rcases List.mem_cons.mp stored with same | inside
          · exact same
          · exact absurd inside gone
        rw [List.pairwise_cons] at sorted
        intro row member
        rcases List.mem_cons.mp member with same | inside
        · rw [same, ← first]
          exact live
        · have earlier := sorted.1 row inside
          rw [← first] at earlier
          exact Nat.lt_of_le_of_lt (Nat.sub_le_sub_left earlier time) live
  · exact absurd stored gone

end Table

/-- The detector reports only live marks with fewer than `capacity` other keys
behind them, and all of them where no key is marked again while a full table
holds it. Expired entries go first; keys do not depend on the order of the
recipients. -/
theorem dedupe_window {window capacity : Nat} {calls : List DedupeCall}
    (positive : 0 < capacity) (ordered : Ordered calls)
    (few : (markedKeys calls).length < UInt64.size) :
    (∀ key now, (∀ call ∈ calls, call.time ≤ now) →
      ((afterAll window capacity calls).answers window key now = true →
        RecentlyMarked window capacity calls key now) ∧
      ((∀ earlier call later, calls = earlier ++ call :: later →
          ¬ MarksAgainWhenFull capacity (afterAll window capacity earlier) call) →
        RecentlyMarked window capacity calls key now →
        (afterAll window capacity calls).answers window key now = true)) ∧
    (∀ key time, ∀ entry ∈ (afterAll window capacity calls).entries,
      time - entry.2.1 < window → entry.1 ≠ key →
      entry ∉ ((afterAll window capacity calls).mark capacity key time).entries →
      ∀ row ∈ (afterAll window capacity calls).entries,
        time - row.2.1 < window) ∧
    (∀ (sha256 : String → List UInt8) (one two : Content),
      one.sender = two.sender → one.toAddrs.Perm two.toAddrs →
      one.cc.Perm two.cc → one.subject = two.subject → one.body = two.body →
      hashKey sha256 one = hashKey sha256 two) ∧
    ∀ (sha256 : String → List UInt8) (one two : Content)
      (before behind : List UInt8) (left right : UInt8),
      encode sha256 one = before ++ left :: behind →
      encode sha256 two = before ++ right :: behind → left ≠ right →
      hashKey sha256 one ≠ hashKey sha256 two := by
  have tracks := @tracks_afterAll window _ _ positive ordered few
  refine ⟨fun key now late => ⟨tracks.recentlyMarked, ?_⟩, ?_, ?_, ?_⟩
  · intro fresh recent
    exact (complete_afterAll positive ordered few fresh).reports late recent
  · intro key time entry stored live other displaced
    exact tracks.displaced_live ordered stored live other displaced
  · intro sha256 one two sender toAddrs cc subject body
    exact hashKey_perm sha256 sender toAddrs cc subject body
  · intro sha256 one two before behind left right first second different
    exact hashKey_ne_of_one_byte sha256 first second different

theorem dedupe_window_three_marks :
    RecentlyMarked 10 2 [.mark 1 0, .mark 2 5, .mark 3 6] 2 9 :=
  ((dedupe_window (by decide) (by unfold Ordered; decide) (by decide)).1
    2 9 (by decide)).1 (by decide)

end SendDeduper

end AimailGateway.Api
