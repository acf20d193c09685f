/-! # Calendar dates

Dates of the Gregorian calendar and times of the day, with their numbers and
their digits: the order of the texts is the order of the numbers.
-/

namespace AimailGateway.Library.Calendar

/-! ## Digits -/

def digit (value : Nat) : Char :=
  Char.ofNat (48 + value)

theorem digit_lt_iff : ∀ first < 10, ∀ second < 10,
    (digit first < digit second ↔ first < second) := by
  decide

theorem digit_inj : ∀ first < 10, ∀ second < 10,
    (digit first = digit second ↔ first = second) := by
  decide

def two (value : Nat) : List Char :=
  [digit (value / 10), digit (value % 10)]

def four (value : Nat) : List Char :=
  two (value / 100) ++ two (value % 100)

theorem append_lt_append_iff {first second rest last : List Char}
    (same : first.length = second.length) :
    first ++ rest < second ++ last ↔
      first < second ∨ first = second ∧ rest < last := by
  induction first generalizing second with
  | nil =>
      cases second with
      | nil => simp
      | cons head tail => cases same
  | cons head tail induction =>
      cases second with
      | nil => cases same
      | cons other others =>
          have shorter : tail.length = others.length := by
            simpa using same
          rw [List.cons_append, List.cons_append, List.cons_lt_cons_iff,
            List.cons_lt_cons_iff, induction shorter, List.cons.injEq]
          constructor
          · rintro (less | ⟨equal, less | ⟨ends, less⟩⟩)
            · exact .inl (.inl less)
            · exact .inl (.inr ⟨equal, less⟩)
            · exact .inr ⟨⟨equal, ends⟩, less⟩
          · rintro ((less | ⟨equal, less⟩) | ⟨⟨equal, ends⟩, less⟩)
            · exact .inl less
            · exact .inr ⟨equal, .inl less⟩
            · exact .inr ⟨equal, .inr ⟨ends, less⟩⟩

theorem cons_lt_cons_same {mark : Char} {first second : List Char} :
    mark :: first < mark :: second ↔ first < second := by
  rw [List.cons_lt_cons_iff]
  constructor
  · rintro (less | ⟨-, less⟩)
    · exact absurd less (Char.lt_irrefl mark)
    · exact less
  · exact fun less => .inr ⟨rfl, less⟩

theorem cons_lt_cons_of_lt {head other : Char} {first second : List Char}
    (less : head < other) : head :: first < other :: second := by
  rw [List.cons_lt_cons_iff]
  exact .inl less

theorem not_cons_lt_cons {head other : Char} {first second : List Char}
    (more : other < head) : ¬ head :: first < other :: second := by
  rw [List.cons_lt_cons_iff]
  rintro (less | ⟨same, -⟩)
  · exact Char.lt_asymm less more
  · rw [same] at more
    exact Char.lt_irrefl other more

section Numbers

variable {first second : Nat}

theorem two_lt_iff (small : first < 100) (bound : second < 100) :
    two first < two second ↔ first < second := by
  rw [two, two, List.cons_lt_cons_iff, List.cons_lt_cons_iff,
    digit_lt_iff _ (by omega) _ (by omega),
    digit_lt_iff _ (by omega) _ (by omega),
    digit_inj _ (by omega) _ (by omega)]
  simp only [List.not_lt_nil, and_false, or_false]
  omega

theorem two_inj (small : first < 100) (bound : second < 100) :
    two first = two second ↔ first = second := by
  rw [two, two, List.cons.injEq, List.cons.injEq,
    digit_inj _ (by omega) _ (by omega),
    digit_inj _ (by omega) _ (by omega)]
  simp only [and_true]
  omega

theorem four_lt_iff (small : first < 10000) (bound : second < 10000) :
    four first < four second ↔ first < second := by
  rw [four, four, append_lt_append_iff (by rfl),
    two_lt_iff (by omega) (by omega), two_lt_iff (by omega) (by omega),
    two_inj (by omega) (by omega)]
  omega

theorem four_inj (small : first < 10000) (bound : second < 10000) :
    four first = four second ↔ first = second := by
  constructor
  · intro same
    rcases List.append_inj same rfl with ⟨high, low⟩
    rw [two_inj (by omega) (by omega)] at high low
    omega
  · exact congrArg four

end Numbers

/-! ## Dates -/

def leap (year : Nat) : Bool :=
  year % 4 == 0 && (year % 100 != 0 || year % 400 == 0)

def yearLength (year : Nat) : Nat :=
  if leap year then 366 else 365

def monthLength (year : Nat) : Nat → Nat
  | 1 | 3 | 5 | 7 | 8 | 10 | 12 => 31
  | 4 | 6 | 9 | 11 => 30
  | 2 => if leap year then 29 else 28
  | _ => 0

def daysBeforeYear : Nat → Nat
  | 0 => 0
  | year + 1 => daysBeforeYear year + yearLength year

def daysBeforeMonth (year : Nat) : Nat → Nat
  | 0 => 0
  | month + 1 => daysBeforeMonth year month + monthLength year month

structure Date where
  year : Nat
  month : Nat
  day : Nat
  year_lt : year < 10000
  month_pos : 1 ≤ month
  month_le : month ≤ 12
  day_pos : 1 ≤ day
  day_le : day ≤ monthLength year month
  deriving DecidableEq

theorem daysBeforeYear_le {year later : Nat} (before : year < later) :
    daysBeforeYear year + yearLength year ≤ daysBeforeYear later := by
  induction before with
  | refl => exact Nat.le_refl _
  | step before induction =>
      rw [daysBeforeYear]
      omega

theorem daysBeforeMonth_le (year : Nat) {month later : Nat}
    (before : month < later) :
    daysBeforeMonth year month + monthLength year month ≤
      daysBeforeMonth year later := by
  induction before with
  | refl => exact Nat.le_refl _
  | step before induction =>
      rw [daysBeforeMonth]
      omega

theorem daysBeforeYear_pred {year : Nat} (old : 1 ≤ year) :
    daysBeforeYear year =
      daysBeforeYear (year - 1) + yearLength (year - 1) := by
  cases year with
  | zero => cases old
  | succ year => rfl

theorem daysBeforeMonth_pred (year : Nat) {month : Nat} (late : 1 ≤ month) :
    daysBeforeMonth year month =
      daysBeforeMonth year (month - 1) + monthLength year (month - 1) := by
  cases month with
  | zero => cases late
  | succ month => rfl

theorem yearLength_le (year : Nat) : yearLength year ≤ 366 := by
  rw [yearLength]
  split <;> omega

theorem daysBeforeYear_bound (year : Nat) :
    daysBeforeYear year ≤ 366 * year := by
  induction year with
  | zero => exact Nat.le_refl _
  | succ year induction =>
      have length := yearLength_le year
      rw [daysBeforeYear]
      omega

theorem daysBeforeMonth_year (year : Nat) :
    daysBeforeMonth year 13 = yearLength year := by
  simp only [daysBeforeMonth, monthLength, yearLength]
  split <;> rfl

theorem monthLength_le (year month : Nat) : monthLength year month ≤ 31 := by
  unfold monthLength
  split
  all_goals try split
  all_goals omega

theorem monthLength_pos (year : Nat) {month : Nat} (first : 1 ≤ month)
    (last : month ≤ 12) : 1 ≤ monthLength year month := by
  have february : 1 ≤ if leap year then 29 else 28 := by
    split <;> omega
  have listed : month = 1 ∨ month = 2 ∨ month = 3 ∨ month = 4 ∨ month = 5 ∨
      month = 6 ∨ month = 7 ∨ month = 8 ∨ month = 9 ∨ month = 10 ∨
      month = 11 ∨ month = 12 := by
    omega
  rcases listed with rfl | rfl | rfl | rfl | rfl | rfl | rfl | rfl | rfl |
    rfl | rfl | rfl
  all_goals simp only [monthLength]
  all_goals omega

namespace Date

/-- The days since the first of January of year 0. -/
def number (date : Date) : Nat :=
  daysBeforeYear date.year + daysBeforeMonth date.year date.month +
    (date.day - 1)

/-- `YYYY-MM-DD`. -/
def text (date : Date) : List Char :=
  four date.year ++ '-' :: (two date.month ++ '-' :: two date.day)

/-- The order of years, months and days. -/
def Before (first second : Date) : Prop :=
  first.year < second.year ∨ first.year = second.year ∧
    (first.month < second.month ∨ first.month = second.month ∧
      first.day < second.day)

variable {first second : Date}

theorem eq_of_fields (year : first.year = second.year)
    (month : first.month = second.month) (day : first.day = second.day) :
    first = second := by
  cases first
  cases second
  cases year
  cases month
  cases day
  rfl

theorem day_lt (date : Date) : date.day < 100 := by
  have bound := monthLength_le date.year date.month
  have fits := date.day_le
  omega

theorem month_lt (date : Date) : date.month < 100 := by
  have fits := date.month_le
  omega

theorem number_lt_of_before (before : Before first second) :
    first.number < second.number := by
  have starts := first.day_pos
  have ends := first.day_le
  have later := second.day_pos
  rcases before with earlier | ⟨year, earlier | ⟨month, earlier⟩⟩
  · have years := daysBeforeYear_le earlier
    have months := daysBeforeMonth_le first.year
      (Nat.lt_succ_of_le first.month_le)
    rw [daysBeforeMonth_year] at months
    rw [number, number]
    omega
  · have months := daysBeforeMonth_le first.year earlier
    rw [number, number, ← year]
    omega
  · rw [number, number, ← year, ← month]
    omega

theorem before_or_eq_or_before (first second : Date) :
    Before first second ∨ first = second ∨ Before second first := by
  rcases Nat.lt_trichotomy first.year second.year with year | year | year
  · exact .inl (.inl year)
  · rcases Nat.lt_trichotomy first.month second.month with
      month | month | month
    · exact .inl (.inr ⟨year, .inl month⟩)
    · rcases Nat.lt_trichotomy first.day second.day with day | day | day
      · exact .inl (.inr ⟨year, .inr ⟨month, day⟩⟩)
      · exact .inr (.inl (eq_of_fields year month day))
      · exact .inr (.inr (.inr ⟨year.symm, .inr ⟨month.symm, day⟩⟩))
    · exact .inr (.inr (.inr ⟨year.symm, .inl month⟩))
  · exact .inr (.inr (.inl year))

theorem number_lt_iff : first.number < second.number ↔ Before first second := by
  constructor
  · intro less
    rcases before_or_eq_or_before first second with before | rfl | after
    · exact before
    · exact absurd less (Nat.lt_irrefl _)
    · have more := number_lt_of_before after
      omega
  · exact number_lt_of_before

theorem number_inj : first.number = second.number ↔ first = second := by
  constructor
  · intro same
    rcases before_or_eq_or_before first second with before | equal | after
    · have less := number_lt_of_before before
      omega
    · exact equal
    · have more := number_lt_of_before after
      omega
  · exact congrArg number

theorem text_lt_iff : first.text < second.text ↔
    first.number < second.number := by
  rw [number_lt_iff, text, text, append_lt_append_iff (by rfl),
    cons_lt_cons_same, append_lt_append_iff (by rfl), cons_lt_cons_same,
    four_lt_iff first.year_lt second.year_lt,
    four_inj first.year_lt second.year_lt,
    two_lt_iff first.month_lt second.month_lt,
    two_inj first.month_lt second.month_lt,
    two_lt_iff first.day_lt second.day_lt, Before]

theorem text_inj : first.text = second.text ↔ first = second := by
  constructor
  · intro same
    have less : first.text < second.text ↔ _ := text_lt_iff
    have more : second.text < first.text ↔ _ := text_lt_iff
    rw [same] at less more
    have never := mt less.mpr (List.lt_irrefl second.text)
    have neither := mt more.mpr (List.lt_irrefl second.text)
    rw [← number_inj]
    omega
  · exact congrArg text

theorem number_lt (date : Date) : date.number < 3660000 := by
  have years := daysBeforeYear_bound date.year
  have length := yearLength_le date.year
  have months := daysBeforeMonth_le date.year
    (Nat.lt_succ_of_le date.month_le)
  rw [daysBeforeMonth_year] at months
  have starts := date.day_pos
  have ends := date.day_le
  have old := date.year_lt
  rw [number]
  omega

/-! ### Earlier dates -/

/-- The day before. -/
def previous (date : Date) : Option Date :=
  if inMonth : 1 < date.day then
    some { date with
      day := date.day - 1
      day_pos := by omega
      day_le := by
        have fits := date.day_le
        omega }
  else if inYear : 1 < date.month then
    some { date with
      month := date.month - 1
      day := monthLength date.year (date.month - 1)
      month_pos := by omega
      month_le := by
        have fits := date.month_le
        omega
      day_pos := monthLength_pos date.year (by omega) (by
        have fits := date.month_le
        omega)
      day_le := Nat.le_refl _ }
  else if old : 0 < date.year then
    some {
      year := date.year - 1
      month := 12
      day := 31
      year_lt := by
        have fits := date.year_lt
        omega
      month_pos := by omega
      month_le := by omega
      day_pos := by omega
      day_le := Nat.le_refl _ }
  else
    none

theorem number_previous {date earlier : Date}
    (found : date.previous = some earlier) :
    earlier.number + 1 = date.number := by
  have starts := date.day_pos
  rw [previous] at found
  split at found
  · cases found
    simp only [number]
    omega
  · split at found
    · next inYear =>
        cases found
        have months := daysBeforeMonth_pred date.year date.month_pos
        have long := monthLength_pos date.year
          (show 1 ≤ date.month - 1 by omega)
          (show date.month - 1 ≤ 12 by have fits := date.month_le; omega)
        simp only [number]
        omega
    · split at found
      · next old =>
          cases found
          have years := daysBeforeYear_pred old
          have months := daysBeforeMonth_year (date.year - 1)
          have single : date.month = 1 := by
            have starts := date.month_pos
            omega
          have december : daysBeforeMonth (date.year - 1) 13 =
              daysBeforeMonth (date.year - 1) 12 + 31 := rfl
          have january : daysBeforeMonth date.year 1 = 0 := rfl
          simp only [number, single]
          omega
      · cases found

theorem number_of_no_previous {date : Date} (missing : date.previous = none) :
    date.number = 0 := by
  rw [previous] at missing
  split at missing
  · cases missing
  · split at missing
    · cases missing
    · split at missing
      · cases missing
      · have single : date.month = 1 := by
          have starts := date.month_pos
          omega
        have oldest : date.year = 0 := by omega
        rw [number, single, oldest]
        have january : daysBeforeMonth 0 1 = 0 := rfl
        have start : daysBeforeYear 0 = 0 := rfl
        omega

/-- So many days before a date. -/
def back : Nat → Date → Option Date
  | 0, date => some date
  | days + 1, date => date.previous.bind (back days)

theorem number_back {days : Nat} {date earlier : Date}
    (found : back days date = some earlier) :
    earlier.number + days = date.number := by
  induction days generalizing date with
  | zero =>
      cases found
      rfl
  | succ days induction =>
      rcases Option.bind_eq_some_iff.mp found with ⟨yesterday, one, more⟩
      have step := number_previous one
      have steps := induction more
      omega

theorem number_of_no_back {days : Nat} {date : Date}
    (missing : back days date = none) : date.number < days := by
  induction days generalizing date with
  | zero => cases missing
  | succ days induction =>
      rw [back] at missing
      cases one : date.previous with
      | none =>
          have oldest := number_of_no_previous one
          omega
      | some yesterday =>
          rw [one] at missing
          have steps := induction missing
          have step := number_previous one
          omega

end Date

/-! ## Times of the day -/

/-- A time of the day; the second 60 is a leap second. -/
structure Time where
  hour : Nat
  minute : Nat
  second : Nat
  hour_lt : hour < 24
  minute_lt : minute < 60
  second_le : second ≤ 60
  deriving DecidableEq

namespace Time

def seconds (time : Time) : Nat :=
  3600 * time.hour + 60 * time.minute + time.second

/-- `HH:MM:SS`. -/
def text (time : Time) : List Char :=
  two time.hour ++ ':' :: (two time.minute ++ ':' :: two time.second)

/-- The time of the day after so many seconds. -/
def ofSeconds (count : Nat) (within : count < 86400) : Time where
  hour := count / 3600
  minute := count / 60 % 60
  second := count % 60
  hour_lt := by omega
  minute_lt := by omega
  second_le := by omega

theorem seconds_ofSeconds {count : Nat} (within : count < 86400) :
    (ofSeconds count within).seconds = count := by
  simp only [seconds, ofSeconds]
  omega

variable {first second : Time}

theorem seconds_le (time : Time) : time.seconds ≤ 86400 := by
  have hours := time.hour_lt
  have minutes := time.minute_lt
  have rest := time.second_le
  rw [seconds]
  omega

theorem seconds_lt {time : Time} (plain : time.second < 60) :
    time.seconds < 86400 := by
  have hours := time.hour_lt
  have minutes := time.minute_lt
  rw [seconds]
  omega

theorem text_lt_iff (plain : first.second < 60) :
    first.text < second.text ↔ first.seconds < second.seconds := by
  have hours := first.hour_lt
  have minutes := first.minute_lt
  have hour := second.hour_lt
  have minute := second.minute_lt
  have rest := second.second_le
  rw [text, text, append_lt_append_iff (by rfl), cons_lt_cons_same,
    append_lt_append_iff (by rfl), cons_lt_cons_same,
    two_lt_iff (by omega) (by omega), two_inj (by omega) (by omega),
    two_lt_iff (by omega) (by omega), two_inj (by omega) (by omega),
    two_lt_iff (by omega) (by omega), seconds, seconds]
  omega

theorem text_inj : first.text = second.text ↔ first = second := by
  constructor
  · intro same
    have hours := first.hour_lt
    have minutes := first.minute_lt
    have rest := first.second_le
    have hour := second.hour_lt
    have minute := second.minute_lt
    have ends := second.second_le
    rcases List.append_inj same rfl with ⟨high, tail⟩
    rcases List.append_inj (List.cons.inj tail).2 rfl with ⟨middle, last⟩
    have low := (List.cons.inj last).2
    rw [two_inj (by omega) (by omega)] at high middle low
    cases first
    cases second
    cases high
    cases middle
    cases low
    rfl
  · exact congrArg text

theorem seconds_inj (plain : first.second < 60) (regular : second.second < 60) :
    first.seconds = second.seconds ↔ first = second := by
  constructor
  · intro same
    have hours := first.hour_lt
    have minutes := first.minute_lt
    have hour := second.hour_lt
    have minute := second.minute_lt
    rw [seconds, seconds] at same
    have high : first.hour = second.hour := by omega
    have middle : first.minute = second.minute := by omega
    have low : first.second = second.second := by omega
    cases first
    cases second
    cases high
    cases middle
    cases low
    rfl
  · exact congrArg seconds

end Time

end AimailGateway.Library.Calendar
