import AimailGateway.Api.Seal
import AimailGateway.Api.Signature
import AimailGateway.Library.Calendar
import AimailGateway.Storage.ActivationCodes
import AimailGateway.Storage.PendingDeliveries
import Mathlib.Algebra.Order.Field.Rat
import Mathlib.Tactic.Linarith
import Mathlib.Tactic.Positivity

/-! # Timestamps compared as texts

The statements that clean up deliveries and accept keys and codes compare
timestamps as texts. Where the spellings of the two sides differ, the first
differing character decides and not the instant.
-/

namespace AimailGateway.Timestamps

open Library Calendar

/-! ## The present -/

structure Moment where
  date : Date
  time : Time
  regular : time.second < 60

namespace Moment

/-- The seconds since the start of year 0. -/
def seconds (moment : Moment) : Nat :=
  86400 * moment.date.number + moment.time.seconds

theorem time_lt (moment : Moment) : moment.time.seconds < 86400 :=
  Time.seconds_lt moment.regular

def hoursBefore (hours : Nat) (moment : Moment) : Option Moment :=
  let target := moment.seconds - 3600 * hours
  if 3600 * hours ≤ moment.seconds then
    (Date.back (moment.date.number - target / 86400) moment.date).map
      fun date => {
        date
        time := Time.ofSeconds (target % 86400) (Nat.mod_lt _ (by omega))
        regular := Nat.mod_lt _ (by omega) }
  else
    none

variable {hours : Nat} {moment cutoff : Moment}

theorem seconds_hoursBefore (found : hoursBefore hours moment = some cutoff) :
    cutoff.seconds + 3600 * hours = moment.seconds := by
  by_cases late : 3600 * hours ≤ moment.seconds
  · simp only [hoursBefore, if_pos late] at found
    rcases Option.map_eq_some_iff.mp found with ⟨date, back, rfl⟩
    have days := Date.number_back back
    have within := moment.time_lt
    simp only [seconds, Time.seconds_ofSeconds] at late days ⊢
    omega
  · simp only [hoursBefore, if_neg late] at found
    cases found

theorem seconds_of_no_hoursBefore (missing : hoursBefore hours moment = none) :
    moment.seconds < 3600 * hours := by
  by_cases late : 3600 * hours ≤ moment.seconds
  · simp only [hoursBefore, if_pos late] at missing
    have days := Date.number_of_no_back (Option.map_eq_none_iff.mp missing)
    omega
  · omega

end Moment

/-- `strftime('%Y-%m-%dT%H:%M:%SZ', ..)`. -/
def strftime (moment : Moment) : String :=
  String.ofList (moment.date.text ++ 'T' :: (moment.time.text ++ ['Z']))

/-- `datetime(..)`. -/
def datetime (moment : Moment) : String :=
  String.ofList (moment.date.text ++ ' ' :: moment.time.text)

/-! ## Pending deliveries -/

/-- The row was created before the text of the cutoff. A cutoff before year 0
and a modifier that is none come before every row. -/
def olderThan (row : PendingDeliveryRecord) : Option Moment → Bool
  | some cutoff => decide (row.createdAt < datetime cutoff)
  | none => false

/-- `datetime('now', '-{ttl} hours')`; the number of hours is signed, and two
minus signs make no modifier. -/
def staleCutoff (now : Moment) (ttlHours : UInt64) : Option Moment :=
  if 0 ≤ ttlHours.toInt64.toInt then
    now.hoursBefore ttlHours.toInt64.toInt.toNat
  else
    none

def deliveredAuditRetentionDays : Nat := 7

def cleanupDeliveries (now : Moment) (ttlHours : UInt64)
    (table : PendingTable) : PendingTable :=
  let kept := table.delete fun row => row.status == "delivered" &&
    olderThan row (now.hoursBefore (24 * deliveredAuditRetentionDays))
  kept.delete fun row =>
    row.status == "pending" && olderThan row (staleCutoff now ttlHours)

section Deliveries

variable {now created cutoff : Moment} {ttlHours : UInt64}
  {row : PendingDeliveryRecord} {table : PendingTable}

/-- A `T` sorts after a blank, so that the dates decide. -/
theorem strftime_lt_datetime_iff : strftime created < datetime cutoff ↔
    created.date.number < cutoff.date.number := by
  have blank : ¬ ('T' :: (created.time.text ++ ['Z']) <
      ' ' :: cutoff.time.text) :=
    not_cons_lt_cons (by decide)
  rw [String.lt_iff, strftime, datetime, String.toList_ofList,
    String.toList_ofList, append_lt_append_iff (by rfl), Date.text_lt_iff]
  simp only [blank, and_false, or_false]

theorem toNat_toInt (positive : 0 ≤ ttlHours.toInt64.toInt) :
    ttlHours.toInt64.toInt.toNat = ttlHours.toNat := by
  have value : ttlHours.toInt64.toInt = ttlHours.toBitVec.toInt := rfl
  have size : ttlHours.toBitVec.toNat = ttlHours.toNat := rfl
  rw [value, BitVec.toInt_eq_toNat_cond] at positive ⊢
  by_cases small : 2 * ttlHours.toBitVec.toNat < 2 ^ 64
  · rw [if_pos small, Int.toNat_natCast, size]
  · rw [if_neg small] at positive
    have fits := ttlHours.toBitVec.isLt
    omega

theorem le_toNat (negative : ¬ 0 ≤ ttlHours.toInt64.toInt) :
    9223372036854775808 ≤ ttlHours.toNat := by
  have value : ttlHours.toInt64.toInt = ttlHours.toBitVec.toInt := rfl
  have size : ttlHours.toBitVec.toNat = ttlHours.toNat := rfl
  rw [value, BitVec.toInt_eq_toNat_cond] at negative
  by_cases small : 2 * ttlHours.toBitVec.toNat < 2 ^ 64
  · rw [if_pos small] at negative
    omega
  · omega

theorem seconds_staleCutoff (found : staleCutoff now ttlHours = some cutoff) :
    cutoff.seconds + 3600 * ttlHours.toNat = now.seconds := by
  by_cases positive : 0 ≤ ttlHours.toInt64.toInt
  · rw [staleCutoff, if_pos positive, toNat_toInt positive] at found
    exact Moment.seconds_hoursBefore found
  · rw [staleCutoff, if_neg positive] at found
    cases found

theorem seconds_of_no_staleCutoff (missing : staleCutoff now ttlHours = none) :
    now.seconds < 3600 * ttlHours.toNat := by
  by_cases positive : 0 ≤ ttlHours.toInt64.toInt
  · rw [staleCutoff, if_pos positive, toNat_toInt positive] at missing
    exact Moment.seconds_of_no_hoursBefore missing
  · have huge := le_toNat positive
    have days := now.date.number_lt
    have within := now.time_lt
    rw [Moment.seconds]
    omega

theorem deleted_iff (listed : row ∈ table) (pending : row.status = "pending")
    (stamped : row.createdAt = strftime created) :
    row ∉ cleanupDeliveries now ttlHours table ↔
      86400 * (created.date.number + 1) + 3600 * ttlHours.toNat ≤
        now.seconds := by
  have gone : row ∉ cleanupDeliveries now ttlHours table ↔
      olderThan row (staleCutoff now ttlHours) = true := by
    have other : ("pending" == "delivered") = false := by decide
    rw [cleanupDeliveries, Table.mem_delete, Table.mem_delete, pending, other]
    simp [listed]
  rw [gone]
  cases found : staleCutoff now ttlHours with
  | none =>
      have early := seconds_of_no_staleCutoff found
      simp only [olderThan, Bool.false_eq_true, false_iff]
      omega
  | some cutoff =>
      have counted := seconds_staleCutoff found
      have within := cutoff.time_lt
      rw [olderThan, decide_eq_true_iff, stamped, strftime_lt_datetime_iff]
      rw [Moment.seconds] at counted
      omega

end Deliveries

/-! ## Expiries -/

inductive Separator where
  | upper
  | lower
  | blank
  deriving DecidableEq

def Separator.char : Separator → Char
  | upper => 'T'
  | lower => 't'
  | blank => ' '

inductive Zone where
  | upper
  | lower
  | east (hour : Fin 24) (minute : Fin 60)
  | west (hour : Fin 24) (minute : Fin 60)
  deriving DecidableEq

namespace Zone

/-- The minutes by which local time is ahead of UTC. -/
def minutes : Zone → Int
  | upper => 0
  | lower => 0
  | east hour minute => 60 * hour.val + minute.val
  | west hour minute => -(60 * hour.val + minute.val)

def text : Zone → List Char
  | upper => ['Z']
  | lower => ['z']
  | east hour minute => '+' :: (two hour.val ++ ':' :: two minute.val)
  | west hour minute => '-' :: (two hour.val ++ ':' :: two minute.val)

end Zone

/-- The fraction of a second that the digits stand for. -/
def fractionValue : List (Fin 10) → ℚ
  | [] => 0
  | first :: rest => (first.val + fractionValue rest) / 10

def fractionText : List (Fin 10) → List Char
  | [] => []
  | digits => '.' :: digits.map fun value => digit value.val

/-- A timestamp as RFC 3339 allows to spell it. -/
structure Spelling where
  date : Date
  separator : Separator
  time : Time
  fraction : List (Fin 10)
  zone : Zone

namespace Spelling

def text (spelling : Spelling) : String :=
  String.ofList (spelling.date.text ++ spelling.separator.char ::
    (spelling.time.text ++
      (fractionText spelling.fraction ++ spelling.zone.text)))

/-- The whole seconds of the date and the time, read as UTC. -/
def reading (spelling : Spelling) : Nat :=
  86400 * spelling.date.number + spelling.time.seconds

/-- The instant, in seconds since the start of year 0 in UTC. -/
def instant (spelling : Spelling) : ℚ :=
  spelling.reading + fractionValue spelling.fraction -
    60 * spelling.zone.minutes

/-- The first second at which the text no longer sorts after the present. -/
def lapse (spelling : Spelling) : Nat :=
  match spelling.separator with
  | .blank => 86400 * spelling.date.number
  | .lower => 86400 * (spelling.date.number + 1)
  | .upper =>
      if spelling.fraction = [] ∧ spelling.zone = .lower ∧
          spelling.time.second < 60 then
        spelling.reading + 1
      else
        spelling.reading

end Spelling

section Expiries

variable {now : Moment} {expiry : Spelling}

/-- Only a lower-case `z` sorts after the `Z` of the present. -/
theorem upper_lt_ending_iff {fraction : List (Fin 10)} {zone : Zone} :
    ['Z'] < fractionText fraction ++ zone.text ↔
      fraction = [] ∧ zone = .lower := by
  cases fraction with
  | cons first rest =>
      have plain : ¬ ['Z'] < fractionText (first :: rest) ++ zone.text :=
        not_cons_lt_cons (by decide)
      simp [plain]
  | nil =>
      rw [fractionText, List.nil_append]
      cases zone with
      | upper => simp [Zone.text]
      | lower =>
          have less : ['Z'] < ['z'] := by decide
          simp [Zone.text, less]
      | east hour minute =>
          have plain : ¬ ['Z'] <
              '+' :: (two hour.val ++ ':' :: two minute.val) :=
            not_cons_lt_cons (by decide)
          simp [Zone.text, plain]
      | west hour minute =>
          have plain : ¬ ['Z'] <
              '-' :: (two hour.val ++ ':' :: two minute.val) :=
            not_cons_lt_cons (by decide)
          simp [Zone.text, plain]

theorem strftime_lt_text_iff :
    strftime now < expiry.text ↔ now.seconds < expiry.lapse := by
  have within := now.time_lt
  have bound := expiry.time.seconds_le
  have dates : now.date.text = expiry.date.text ↔
      now.date.number = expiry.date.number := by
    rw [Date.text_inj, Date.number_inj]
  rw [String.lt_iff, strftime, Spelling.text, String.toList_ofList,
    String.toList_ofList, append_lt_append_iff (by rfl), Date.text_lt_iff,
    dates, Moment.seconds, Spelling.lapse]
  cases expiry.separator with
  | blank =>
      have never : ¬ ('T' :: (now.time.text ++ ['Z']) <
          Separator.blank.char :: (expiry.time.text ++
            (fractionText expiry.fraction ++ expiry.zone.text))) :=
        not_cons_lt_cons (by decide)
      simp only [never, and_false, or_false]
      omega
  | lower =>
      have always : 'T' :: (now.time.text ++ ['Z']) <
          Separator.lower.char :: (expiry.time.text ++
            (fractionText expiry.fraction ++ expiry.zone.text)) :=
        cons_lt_cons_of_lt (by decide)
      simp only [always, and_true]
      omega
  | upper =>
      rw [Separator.char, cons_lt_cons_same, append_lt_append_iff (by rfl),
        Time.text_lt_iff now.regular, upper_lt_ending_iff, Time.text_inj]
      simp only
      split
      · next late =>
          rcases late with ⟨empty, low, plain⟩
          have short := Time.seconds_lt plain
          rw [← Time.seconds_inj now.regular plain, Spelling.reading]
          simp only [empty, low, and_self, and_true]
          omega
      · next usual =>
          have never : ¬ (now.time = expiry.time ∧
              expiry.fraction = [] ∧ expiry.zone = .lower) := by
            rintro ⟨same, empty, low⟩
            exact usual ⟨empty, low, same ▸ now.regular⟩
          rw [Spelling.reading]
          simp only [never, or_false]
          omega

/-- The present lies between the instant of an expiry and the second at which
its text lapses. -/
def Torn (expiry : Spelling) (now : Moment) : Prop :=
  expiry.lapse ≤ now.seconds ∧ (now.seconds : ℚ) < expiry.instant ∨
    expiry.instant ≤ now.seconds ∧ now.seconds < expiry.lapse

theorem decides_iff :
    (strftime now < expiry.text ↔ (now.seconds : ℚ) < expiry.instant) ↔
      ¬ Torn expiry now := by
  rw [strftime_lt_text_iff, Torn, ← not_lt, ← not_lt]
  tauto

theorem fractionValue_nonneg (digits : List (Fin 10)) :
    0 ≤ fractionValue digits := by
  induction digits with
  | nil => exact le_refl 0
  | cons first rest induction =>
      have small : (0 : ℚ) ≤ first.val := Nat.cast_nonneg _
      rw [fractionValue]
      linarith

theorem fractionValue_lt_one (digits : List (Fin 10)) :
    fractionValue digits < 1 := by
  induction digits with
  | nil => exact zero_lt_one
  | cons first rest induction =>
      have bound : (first.val : ℚ) ≤ 9 := by
        exact_mod_cast Nat.le_of_lt_succ first.isLt
      rw [fractionValue]
      linarith

theorem fractionValue_pos_iff {digits : List (Fin 10)} :
    0 < fractionValue digits ↔ ∃ value ∈ digits, 0 < value.val := by
  induction digits with
  | nil => simp [fractionValue]
  | cons first rest induction =>
      have rests := fractionValue_nonneg rest
      rw [List.exists_mem_cons_iff, ← induction, fractionValue]
      constructor
      · intro positive
        by_cases small : 0 < first.val
        · exact .inl small
        · have none : (first.val : ℚ) = 0 := by
            exact_mod_cast Nat.eq_zero_of_not_pos small
          rw [none] at positive
          exact .inr (by linarith)
      · rintro (large | positive)
        · have counts : (0 : ℚ) < first.val := by exact_mod_cast large
          linarith
        · have small : (0 : ℚ) ≤ first.val := Nat.cast_nonneg _
          linarith

theorem torn_utc_iff (separator : expiry.separator = .upper)
    (zone : expiry.zone = .upper) : Torn expiry now ↔
      now.seconds = expiry.reading ∧ ∃ value ∈ expiry.fraction,
        0 < value.val := by
  have lapse : expiry.lapse = expiry.reading := by
    simp [Spelling.lapse, separator, zone]
  have instant : expiry.instant =
      expiry.reading + fractionValue expiry.fraction := by
    simp [Spelling.instant, zone, Zone.minutes]
  have small := fractionValue_nonneg expiry.fraction
  have bound := fractionValue_lt_one expiry.fraction
  rw [Torn, lapse, instant, ← fractionValue_pos_iff]
  constructor
  · rintro (⟨late, before⟩ | ⟨after, early⟩)
    · have close : (now.seconds : ℚ) < (expiry.reading + 1 : ℕ) := by
        push_cast
        linarith
      have same : now.seconds = expiry.reading := by
        have less : now.seconds < expiry.reading + 1 := by
          exact_mod_cast close
        omega
      rw [same] at before
      exact ⟨same, by linarith⟩
    · have late : (expiry.reading : ℚ) ≤ now.seconds := by linarith
      have ordered : expiry.reading ≤ now.seconds := by exact_mod_cast late
      omega
  · rintro ⟨same, positive⟩
    rw [same]
    exact .inl ⟨le_refl _, by linarith⟩

end Expiries

/-! ## Activation codes -/

/-- The seconds before 1970. -/
def epoch : Nat := 86400 * daysBeforeYear 1970

/-- A moment of the clock, to the millisecond. -/
structure Stamp where
  moment : Moment
  millis : Nat
  millis_lt : millis < 1000
  since : epoch ≤ moment.seconds

namespace Stamp

/-- The milliseconds of the epoch. -/
def timestamp (stamp : Stamp) : Timestamp :=
  1000 * (stamp.moment.seconds - epoch) + stamp.millis

/-- `to_rfc3339_opts(SecondsFormat::Millis, true)`. -/
def spelling (stamp : Stamp) : Spelling where
  date := stamp.moment.date
  separator := .upper
  time := stamp.moment.time
  fraction := [
    ⟨stamp.millis / 100, by
      have bound := stamp.millis_lt
      omega⟩,
    ⟨stamp.millis / 10 % 10, Nat.mod_lt _ (by omega)⟩,
    ⟨stamp.millis % 10, Nat.mod_lt _ (by omega)⟩]
  zone := .upper

theorem timestamp_div (stamp : Stamp) :
    stamp.timestamp / 1000 = stamp.moment.seconds - epoch := by
  have whole : ∀ count millis : Nat, millis < 1000 →
      (1000 * count + millis) / 1000 = count := by
    omega
  exact whole _ _ stamp.millis_lt

end Stamp

section Codes

variable {code : ActivationCodeRecord} {expires now : Stamp}

theorem isExpired_iff (stored : code.expiresAt = some expires.timestamp) :
    Storage.isExpired now.timestamp code = false ↔
      strftime now.moment < expires.spelling.text := by
  have lapse : expires.spelling.lapse = expires.moment.seconds := by
    simp [Spelling.lapse, Stamp.spelling, Spelling.reading, Moment.seconds]
  have early := expires.since
  have present := now.since
  have order : ∀ first second : Nat, epoch ≤ first → epoch ≤ second →
      (¬ first - epoch ≤ second - epoch ↔ second < first) := by
    omega
  rw [strftime_lt_text_iff, lapse, Storage.isExpired, stored]
  change decide (expires.timestamp / 1000 ≤ now.timestamp / 1000) = false ↔ _
  rw [decide_eq_false_iff_not, Stamp.timestamp_div, Stamp.timestamp_div]
  exact order _ _ early present

theorem torn_stamp_iff : Torn expires.spelling now.moment ↔
    now.moment.seconds = expires.moment.seconds ∧ 0 < expires.millis := by
  rw [torn_utc_iff rfl rfl]
  apply and_congr_right
  intro _
  simp only [Stamp.spelling, List.mem_cons, List.not_mem_nil, or_false,
    exists_eq_or_imp, exists_eq_left]
  omega

end Codes

/-! ## What the comparisons decide -/

section Rows

variable {now : Moment} {expiry : Spelling} {row : ApiKeyRecord}

theorem matchesHash_iff {sealKey : Option Seal.Cipher} {keyHash : String}
    (hashed : row.keyHash = (Seal.sealIfLoaded sealKey keyHash).getD keyHash ∨
      row.keyHash = keyHash)
    (active : row.isActive = true) (stored : row.expiresAt = some expiry.text) :
    Seal.matchesHash sealKey (strftime now) keyHash row = true ↔
      strftime now < expiry.text := by
  have found : (row.keyHash == (Seal.sealIfLoaded sealKey keyHash).getD keyHash ||
      row.keyHash == keyHash) = true := by
    rw [Bool.or_eq_true, beq_iff_eq, beq_iff_eq]
    exact hashed
  rw [Seal.matchesHash, found, active, stored, Option.all_some, Bool.true_and,
    Bool.true_and, decide_eq_true_iff]

theorem mem_listApiKeysByIdentity_iff {identity : String}
    {rows : List ApiKeyRecord} (named : identity ≠ "") (listed : row ∈ rows)
    (owned : row.emailAddress = identity ∨ row.systemId = identity)
    (active : row.isActive = true) (stored : row.expiresAt = some expiry.text) :
    row ∈ Auth.listApiKeysByIdentity identity (strftime now) rows ↔
      strftime now < expiry.text := by
  rw [Auth.listApiKeysByIdentity, if_neg named]
  simp only [List.mem_append, List.mem_filter, listed, active, stored,
    Option.all_some, Bool.true_and, true_and, decide_eq_true_iff, beq_iff_eq]
  rw [← and_or_left]
  exact and_iff_left owned

end Rows

/-- A row has outlived its time, but the day it was created on has not. -/
def HalfStale (now created : Moment) (ttlHours : UInt64) : Prop :=
  created.seconds + 3600 * ttlHours.toNat < now.seconds ∧
    now.seconds < 86400 * (created.date.number + 1) + 3600 * ttlHours.toNat

theorem deleted_exact_iff {now created : Moment} {ttlHours : UInt64}
    {row : PendingDeliveryRecord} {table : PendingTable} (listed : row ∈ table)
    (pending : row.status = "pending")
    (stamped : row.createdAt = strftime created) :
    (row ∉ cleanupDeliveries now ttlHours table ↔
        created.seconds + 3600 * ttlHours.toNat < now.seconds) ↔
      ¬ HalfStale now created ttlHours := by
  have within := created.time_lt
  have counted : created.seconds =
      86400 * created.date.number + created.time.seconds := rfl
  rw [deleted_iff listed pending stamped, HalfStale]
  omega

/-- The comparisons decide as the instants do exactly where no row is half stale
and the present is not between an expiry and the second at which its text
lapses. -/
theorem comparisons_exact (now : Moment) :
    (∀ ttlHours (table : PendingTable) row created, row ∈ table →
      row.status = "pending" → row.createdAt = strftime created →
      ((row ∉ cleanupDeliveries now ttlHours table ↔
          created.seconds + 3600 * ttlHours.toNat < now.seconds) ↔
        ¬ HalfStale now created ttlHours)) ∧
    (∀ sealKey keyHash (row : ApiKeyRecord) (expiry : Spelling),
      (row.keyHash = (Seal.sealIfLoaded sealKey keyHash).getD keyHash ∨
        row.keyHash = keyHash) →
      row.isActive = true → row.expiresAt = some expiry.text →
      ((Seal.matchesHash sealKey (strftime now) keyHash row = true ↔
          (now.seconds : ℚ) < expiry.instant) ↔ ¬ Torn expiry now)) ∧
    (∀ identity rows (row : ApiKeyRecord) (expiry : Spelling),
      identity ≠ "" → row ∈ rows →
      (row.emailAddress = identity ∨ row.systemId = identity) →
      row.isActive = true → row.expiresAt = some expiry.text →
      ((row ∈ Auth.listApiKeysByIdentity identity (strftime now) rows ↔
          (now.seconds : ℚ) < expiry.instant) ↔ ¬ Torn expiry now)) ∧
    (∀ (code : ActivationCodeRecord) (expires present : Stamp),
      code.expiresAt = some expires.timestamp →
      ((Storage.isExpired present.timestamp code = false ↔
          (present.moment.seconds : ℚ) < expires.spelling.instant) ↔
        ¬ (present.moment.seconds = expires.moment.seconds ∧
          0 < expires.millis))) ∧
    (∀ expiry : Spelling, expiry.separator = .upper →
      expiry.zone = .upper →
      (Torn expiry now ↔ now.seconds = expiry.reading ∧
        ∃ value ∈ expiry.fraction, 0 < value.val)) := by
  refine ⟨?_, ?_, ?_, ?_, ?_⟩
  · intro ttlHours table row created listed pending stamped
    exact deleted_exact_iff listed pending stamped
  · intro sealKey keyHash row expiry hashed active stored
    rw [matchesHash_iff hashed active stored]
    exact decides_iff
  · intro identity rows row expiry named listed owned active stored
    rw [mem_listApiKeysByIdentity_iff named listed owned active stored]
    exact decides_iff
  · intro code expires present stored
    rw [isExpired_iff stored, ← torn_stamp_iff]
    exact decides_iff
  · intro expiry separator zone
    exact torn_utc_iff separator zone

/-! ## Texts that mislead -/

def january (day : Fin 28) (hour : Fin 24) : Moment where
  date := ⟨2026, 1, day.val + 1, by decide, by decide, by decide, by omega, by
    have bound := day.isLt
    change day.val + 1 ≤ 31
    omega⟩
  time := ⟨hour.val, 0, 0, hour.isLt, by decide, by decide⟩
  regular := Nat.zero_lt_succ 59

/-- Noon of the first of January, two hours ahead of UTC. -/
def noonAhead : Spelling where
  date := (january 0 12).date
  separator := .upper
  time := (january 0 12).time
  fraction := []
  zone := .east 2 0

theorem delivery_of_new_year :
    (PendingDeliveries.sampleDelivery 1 ∉ cleanupDeliveries (january 1 12) 24
          PendingDeliveries.sampleDeliveries ↔
        (january 0 0).seconds + 3600 * (24 : UInt64).toNat <
          (january 1 12).seconds) ↔
      ¬ HalfStale (january 1 12) (january 0 0) 24 :=
  (comparisons_exact (january 1 12)).1 24 PendingDeliveries.sampleDeliveries
    (PendingDeliveries.sampleDelivery 1) (january 0 0) (by decide) rfl
    (by decide)

/-- A row of midnight stays for 36 hours with a time to live of 24, and an
expiry with an offset is read as if it had none. -/
theorem texts_mislead :
    (PendingDeliveries.sampleDelivery 1).createdAt = strftime (january 0 0) ∧
      ¬ (PendingDeliveries.sampleDelivery 1 ∉ cleanupDeliveries (january 1 12)
            24 PendingDeliveries.sampleDeliveries ↔
          (january 0 0).seconds + 3600 * 24 < (january 1 12).seconds) ∧
      noonAhead.text = "2026-01-01T12:00:00+02:00" ∧
      ¬ (strftime (january 0 11) < noonAhead.text ↔
          ((january 0 11).seconds : ℚ) < noonAhead.instant) := by
  refine ⟨by decide, ?_, by decide, ?_⟩
  · have stays : PendingDeliveries.sampleDelivery 1 ∈ cleanupDeliveries
        (january 1 12) 24 PendingDeliveries.sampleDeliveries := by
      decide +kernel
    have old : (january 0 0).seconds + 3600 * 24 < (january 1 12).seconds := by
      decide +kernel
    exact fun exact_ => exact_.mpr old stays
  · have accepted : strftime (january 0 11) < noonAhead.text := by decide
    have ahead : (january 0 11).seconds + 3600 = noonAhead.reading := by
      decide +kernel
    have offset : noonAhead.zone.minutes = 120 := by decide
    have whole : fractionValue noonAhead.fraction = 0 := rfl
    intro agrees
    have before := agrees.mp accepted
    rw [Spelling.instant, offset, whole, ← ahead] at before
    push_cast at before
    linarith

end AimailGateway.Timestamps
