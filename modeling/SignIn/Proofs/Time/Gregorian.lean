import Mathlib.Algebra.BigOperators.Group.Finset.Basic
import Mathlib.Data.Int.Order.Basic
import Mathlib.Order.Monotone.Basic
import Mathlib.Tactic.IntervalCases
import SignIn.Time.Calendar

/-!
# The Gregorian calendar

The calendar by its rules : which years are leap years, how long a month and a year are
(`Date.monthLength`, `Date.yearLength`), and the days from the start of 1970 to a date as the years,
months and days before it (`Date.sinceEpoch`).

`Date.ofDays` computes a date in closed form. A cycle of 400 years falls into centuries, spans of
four years and years, all from March on, and so into the parts of `CyclePosition`; in them the
closed form is plain (`yearOfCycle_eq`, `dayOfYear_eq`). It names a day of the calendar
(`isValid_ofDays`), from 1970 on the one that the rules count (`sinceEpoch_ofDays`).
-/

namespace SignIn

namespace Date

/-! ## The rules -/

/-- Every fourth year is a leap year, of the hundreds every fourth. -/
def IsLeap (year : Int) : Prop := 4 ∣ year ∧ (100 ∣ year → 400 ∣ year)

instance (year : Int) : Decidable (IsLeap year) := inferInstanceAs (Decidable (_ ∧ (_ → _)))

/-- The days of a month, counted from 1. -/
def monthLength (year : Int) (month : ℕ) : ℕ :=
  if month = 2 then if IsLeap year then 29 else 28
  else if month ∈ [4, 6, 9, 11] then 30 else 31

/-- The days of a year. -/
def yearLength (year : Int) : ℕ := if IsLeap year then 366 else 365

/-- The date is a day of the calendar. -/
def IsValid (d : Date) : Prop :=
  (1 ≤ d.month ∧ d.month ≤ 12) ∧ 1 ≤ d.day ∧ d.day ≤ monthLength d.year d.month

instance (d : Date) : Decidable d.IsValid := inferInstanceAs (Decidable (_ ∧ _ ∧ _))

/-- The days from the start of 1970 to a date that is not before : of the years before its year, of
the months before its month and of the days before its day. -/
def sinceEpoch (d : Date) : ℕ :=
  ∑ i ∈ Finset.range (d.year - 1970).toNat, yearLength (1970 + i) +
    ∑ i ∈ Finset.range (d.month - 1), monthLength d.year (i + 1) + (d.day - 1)

/-! ## Days counted in closed form -/

variable {year : Int} {month day : ℕ}

theorem toDays_day (hday : 1 ≤ day) :
    toDays ⟨year, month, day⟩ = toDays ⟨year, month, 1⟩ + (day - 1 : ℕ) := by
  simp only [toDays]
  omega

/-- A month begins as many days after the one before it as that one is long. -/
theorem toDays_month (hmonth : 1 ≤ month) (hlast : month < 12) :
    toDays ⟨year, month + 1, 1⟩ = toDays ⟨year, month, 1⟩ + monthLength year month := by
  by_cases hleap : IsLeap year
  · interval_cases month <;> simp [toDays, monthLength, hleap] <;> simp only [IsLeap] at hleap <;>
      omega
  · interval_cases month <;> simp [toDays, monthLength, hleap] <;> simp only [IsLeap] at hleap <;>
      omega

/-- So does a year. -/
theorem toDays_year : toDays ⟨year + 1, 1, 1⟩ = toDays ⟨year, 1, 1⟩ + yearLength year := by
  by_cases hleap : IsLeap year
  · rw [yearLength, if_pos hleap]
    simp only [IsLeap, toDays] at hleap ⊢
    omega
  · rw [yearLength, if_neg hleap]
    simp only [IsLeap, toDays] at hleap ⊢
    omega

/-- The closed form counts as the rules do, from 1970 on. -/
theorem toDays_eq_sinceEpoch (hyear : 1970 ≤ year) (hmonth : 1 ≤ month ∧ month ≤ 12)
    (hday : 1 ≤ day) : toDays ⟨year, month, day⟩ = sinceEpoch ⟨year, month, day⟩ := by
  have hyears (n : ℕ) :
      toDays ⟨1970 + n, 1, 1⟩ = (∑ i ∈ Finset.range n, yearLength (1970 + i) : ℕ) := by
    induction n with
    | zero => rfl
    | succ n ih =>
      rw [Nat.cast_succ, ← add_assoc, toDays_year, ih, ← Nat.cast_add, ← Finset.sum_range_succ]
  have hmonths (n : ℕ) (hn : n < 12) : toDays ⟨year, n + 1, 1⟩ =
      toDays ⟨year, 1, 1⟩ + (∑ i ∈ Finset.range n, monthLength year (i + 1) : ℕ) := by
    induction n with
    | zero => simp
    | succ n ih =>
      rw [toDays_month (by omega) hn, ih (by omega), Finset.sum_range_succ, Nat.cast_add, add_assoc]
  obtain ⟨n, rfl⟩ : ∃ n : ℕ, year = 1970 + n := ⟨(year - 1970).toNat, by omega⟩
  obtain ⟨m, rfl⟩ : ∃ m, month = m + 1 := ⟨month - 1, by omega⟩
  rw [toDays_day hday, hmonths m (by omega), hyears, sinceEpoch]
  simp

/-! ## Positions in a cycle -/

/-- A day of a cycle of 400 years by its century, its span of four years in the century, its year in
the span and its day in the year. The last day of the leap years is in the last year of a span, and
the last span of a century has none, that of the cycle apart. -/
structure CyclePosition where
  century : ℕ
  span : ℕ
  year : ℕ
  day : ℕ
  century_le : century ≤ 3
  span_le : span ≤ 24
  year_le : year ≤ 3
  day_le : day ≤ 365
  leap : day = 365 → year = 3 ∧ (span = 24 → century = 3)

namespace CyclePosition

variable (p : CyclePosition)

/-- The day of the cycle, from 0. -/
def dayOfCycle : ℕ := 36524 * p.century + 1461 * p.span + 365 * p.year + p.day

/-- The year of the cycle, from 0. -/
def yearOfCycle : ℕ := 100 * p.century + 4 * p.span + p.year

theorem dayOfCycle_lt : p.dayOfCycle < 146097 := by
  obtain ⟨c, q, k, t, hc, hq, hk, ht, hleap⟩ := p
  simp only [dayOfCycle]
  omega

/-- Every day of the cycle has a position. -/
theorem exists_dayOfCycle_eq {n : ℕ} (h : n < 146097) : ∃ p : CyclePosition, p.dayOfCycle = n := by
  -- The last day of a part has no part of its own, so the number of a part is bounded.
  obtain ⟨c, r, hc, hr, rfl⟩ : ∃ c r, c ≤ 3 ∧ (r < 36524 ∨ r = 36524 ∧ c = 3) ∧ n = 36524 * c + r :=
    ⟨min (n / 36524) 3, n - 36524 * min (n / 36524) 3, by omega, by omega, by omega⟩
  obtain ⟨q, s, hs, rfl⟩ : ∃ q s, s < 1461 ∧ r = 1461 * q + s :=
    ⟨r / 1461, r % 1461, Nat.mod_lt _ (by decide), (Nat.div_add_mod r 1461).symm⟩
  obtain ⟨k, t, hk, ht, rfl⟩ : ∃ k t, k ≤ 3 ∧ (t < 365 ∨ t = 365 ∧ k = 3) ∧ s = 365 * k + t :=
    ⟨min (s / 365) 3, s - 365 * min (s / 365) 3, by omega, by omega, by omega⟩
  exact ⟨⟨c, q, k, t, hc, by omega, hk, by omega, by omega⟩, by simp only [dayOfCycle]; omega⟩

/-- The year is found from the day of the cycle, with the leap days so far taken out. -/
theorem yearOfCycle_eq :
    (p.dayOfCycle - p.dayOfCycle / 1460 + p.dayOfCycle / 36524 - p.dayOfCycle / 146096) / 365 =
      p.yearOfCycle := by
  obtain ⟨c, q, k, t, hc, hq, hk, ht, hleap⟩ := p
  simp only [dayOfCycle, yearOfCycle]
  generalize hn : 36524 * c + 1461 * q + 365 * k + t = n
  have hcentury : n / 36524 - n / 146096 = c ∧ n / 146096 ≤ n / 36524 := by omega
  -- A span of four years has a day more than 1460, so the day in the century shows in the quotient.
  have hspan : n / 1460 = 25 * c + q + (24 * c + q + 365 * k + t) / 1460 := by omega
  have hyear :
      (24 * c + q + 365 * k + t) / 1460 ≤ t ∧ t < 365 + (24 * c + q + 365 * k + t) / 1460 := by
    omega
  omega

/-- What is left is the day of the year, counted from March. -/
theorem dayOfYear_eq :
    p.dayOfCycle - (365 * p.yearOfCycle + p.yearOfCycle / 4 - p.yearOfCycle / 100) = p.day := by
  obtain ⟨c, q, k, t, hc, hq, hk, ht, hleap⟩ := p
  simp only [dayOfCycle, yearOfCycle]
  omega

end CyclePosition

/-! ## Dates from March on -/

/-- The date a number of days after the first of March. -/
def fromMarch (year : Int) (day : ℕ) : Date :=
  let monthFromMarch := (5 * day + 2) / 153
  let month := if monthFromMarch < 10 then monthFromMarch + 3 else monthFromMarch - 9
  ⟨if month ≤ 2 then year + 1 else year, month, day - (153 * monthFromMarch + 2) / 5 + 1⟩

theorem ofDays_eq_fromMarch {n era : Int} {p : CyclePosition}
    (h : n + 719468 = 146097 * era + p.dayOfCycle) :
    ofDays n = fromMarch (400 * era + p.yearOfCycle) p.day := by
  have hp := p.dayOfCycle_lt
  have hera : (n + 719468) / 146097 = era := by omega
  have hcycle : ((n + 719468) % 146097).toNat = p.dayOfCycle := by omega
  simp only [ofDays, hera, hcycle, p.yearOfCycle_eq, p.dayOfYear_eq, fromMarch, mul_comm era]

/-- From March to December. -/
theorem fromMarch_of_lt {m : ℕ} (hm : (5 * day + 2) / 153 = m) (h : m < 10) :
    fromMarch year day = ⟨year, m + 3, day - (153 * m + 2) / 5 + 1⟩ := by
  simp [fromMarch, hm, h]

/-- January and February stand in the next year. -/
theorem fromMarch_of_le {m : ℕ} (hm : (5 * day + 2) / 153 = m) (h : 10 ≤ m) (hday : day ≤ 365) :
    fromMarch year day = ⟨year + 1, m - 9, day - (153 * m + 2) / 5 + 1⟩ := by
  have hmonth : m ≤ 2 + 9 := by omega
  simp [fromMarch, hm, h.not_gt, hmonth]

/-- A date that is counted from March is as many days as its cycles, its years and its days
together. -/
theorem toDays_fromMarch (hday : day ≤ 365) :
    toDays (fromMarch year day) = year / 400 * 146097 +
      (365 * (year % 400) + year % 400 / 4 - year % 400 / 100 + day) - 719468 := by
  generalize hm : (5 * day + 2) / 153 = m
  obtain h | h := Nat.lt_or_ge m 10
  · rw [fromMarch_of_lt hm h]
    simp only [toDays, show ¬m + 3 ≤ 2 by omega, if_false]
    omega
  · rw [fromMarch_of_le hm h hday]
    simp only [toDays, show m - 9 ≤ 2 by omega, if_true]
    omega

/-- The days of a year from March on are days of the calendar, day 365 if the year ends in a leap
day. -/
theorem isValid_fromMarch (hday : day ≤ 365) (hleap : day = 365 → IsLeap (year + 1)) :
    (fromMarch year day).IsValid := by
  generalize hm : (5 * day + 2) / 153 = m
  obtain h | h := Nat.lt_or_ge m 10
  · rw [fromMarch_of_lt hm h]
    interval_cases m <;> simp [IsValid, monthLength] <;> omega
  · rw [fromMarch_of_le hm h hday]
    obtain rfl | rfl : m = 10 ∨ m = 11 := by omega
    · simp [IsValid, monthLength]
      omega
    · by_cases hyear : IsLeap (year + 1)
      · simp [IsValid, monthLength, hyear]
        omega
      · have hlast : day ≠ 365 := mt hleap hyear
        simp [IsValid, monthLength, hyear]
        omega

/-! ## The date of a day -/

/-- The day stands in a cycle. -/
theorem exists_position (n : Int) :
    ∃ (era : Int) (p : CyclePosition), n + 719468 = 146097 * era + p.dayOfCycle := by
  obtain ⟨p, hp⟩ :=
    CyclePosition.exists_dayOfCycle_eq (n := ((n + 719468) % 146097).toNat) (by omega)
  exact ⟨(n + 719468) / 146097, p, by omega⟩

/-- The number of days is read back from its date. -/
theorem toDays_ofDays (n : Int) : toDays (ofDays n) = n := by
  obtain ⟨era, ⟨c, q, k, t, hc, hq, hk, ht, hleap⟩, h⟩ := exists_position n
  rw [ofDays_eq_fromMarch h, toDays_fromMarch ht]
  simp only [CyclePosition.dayOfCycle, CyclePosition.yearOfCycle] at h ⊢
  omega

/-- Every day is a day of the calendar. -/
theorem isValid_ofDays (n : Int) : (ofDays n).IsValid := by
  obtain ⟨era, ⟨c, q, k, t, hc, hq, hk, ht, hleap⟩, h⟩ := exists_position n
  rw [ofDays_eq_fromMarch h]
  refine isValid_fromMarch ht fun hday => ?_
  obtain ⟨rfl, hspan⟩ := hleap hday
  simp only [IsLeap, CyclePosition.yearOfCycle]
  omega

theorem monthLength_le (year : Int) (month : ℕ) : monthLength year month ≤ 31 := by
  unfold monthLength
  split_ifs <;> decide

/-- A date stands between the first days of its year and of the next. -/
theorem toDays_bounds {d : Date} (h : d.IsValid) :
    toDays ⟨d.year, 1, 1⟩ ≤ toDays d ∧ toDays d < toDays ⟨d.year + 1, 1, 1⟩ := by
  obtain ⟨year, month, day⟩ := d
  obtain ⟨⟨hm1, hm12⟩, hd1, hd⟩ := h
  replace hd := hd.trans (monthLength_le year month)
  simp only [toDays] at hm1 hm12 hd1 hd ⊢
  split_ifs <;> omega

/-- Later years begin later. -/
theorem toDays_year_le {year next : Int} (h : year ≤ next) :
    toDays ⟨year, 1, 1⟩ ≤ toDays ⟨next, 1, 1⟩ := by
  have hmono : Monotone fun year : Int => toDays ⟨year, 1, 1⟩ :=
    monotone_int_of_le_succ fun year => by
      rw [toDays_year]
      exact Int.le_add_of_nonneg_right (Int.natCast_nonneg _)
  exact hmono h

/-- The years from 1970 on are those of the days from the start of 1970 on. -/
theorem le_year_ofDays {n : Int} (h : 0 ≤ n) : 1970 ≤ (ofDays n).year := by
  by_contra hlt
  have hnext : toDays ⟨(ofDays n).year + 1, 1, 1⟩ ≤ toDays ⟨1970, 1, 1⟩ := toDays_year_le (by omega)
  have hday := (toDays_bounds (isValid_ofDays n)).2
  rw [toDays_ofDays] at hday
  exact absurd (hday.trans_le hnext) h.not_gt

/-- The year 9999 ends after 2932897 days. -/
theorem year_ofDays_le {n : Int} (h : n < 2932897) : (ofDays n).year ≤ 9999 := by
  by_contra hlt
  have hfirst : toDays ⟨10000, 1, 1⟩ ≤ toDays ⟨(ofDays n).year, 1, 1⟩ := toDays_year_le (by omega)
  have hday := (toDays_bounds (isValid_ofDays n)).1
  rw [toDays_ofDays] at hday
  exact absurd (hfirst.trans hday) h.not_ge

/-- From 1970 on, the rules count to the date of a day as many days as the day is after the start of
1970. -/
theorem sinceEpoch_ofDays {n : Int} (h : 0 ≤ n) : ((ofDays n).sinceEpoch : Int) = n := by
  obtain ⟨hmonth, hday, -⟩ := isValid_ofDays n
  rw [← toDays_eq_sinceEpoch (le_year_ofDays h) hmonth hday, toDays_ofDays]

end Date

end SignIn
