import Mathlib.Data.Nat.Digits.Defs
import SignIn.Proofs.Cookie.Written
import SignIn.Proofs.Text.Decimal
import SignIn.Proofs.Time.Gregorian
import SignIn.Time.Stamp

/-!
# Reading a cookie date

The date of a cookie names a day of the week, a day of the calendar and a time, in a fixed order and
with fixed widths. `CookieDate.read?` reads it by the rules of the calendar, and of what was written
from 1970 to 9999 it finds the second and the right day of the week (`CookieDate.read?_cookieDate`).
-/

namespace SignIn

namespace CookieDate

open Text Decimal

/-- A number in so many digits. -/
def numeral? (width : ℕ) (cs : List Char) : Option ℕ :=
  if cs.length = width then natural? cs else none

/-- The days of the week, from the first day of 1970 on. -/
def weekdays : List String := ["Thu", "Fri", "Sat", "Sun", "Mon", "Tue", "Wed"]

/-- The day of the week, some days after the start of 1970. -/
def weekdayAfter (days : ℕ) : List Char := (weekdays.getD (days % 7) "").toList

/-- The months. -/
def months : List String :=
  ["Jan", "Feb", "Mar", "Apr", "May", "Jun", "Jul", "Aug", "Sep", "Oct", "Nov", "Dec"]

/-- The number of a month, from 1. -/
def month? (cs : List Char) : Option ℕ := (months.idxOf? (String.ofList cs)).map (· + 1)

/-- A day of the calendar from 1970 on. -/
def date? (day month year : List Char) : Option Date :=
  (numeral? 2 day).bind fun d => (month? month).bind fun m => (numeral? 4 year).bind fun y =>
    (some ⟨y, m, d⟩ : Option Date).filter fun date => date.IsValid ∧ 1970 ≤ date.year

/-- The second of a day, from hours, minutes and seconds with colons between them. -/
def secondOfDay? (time : List Char) : Option ℕ :=
  match segments ':' time with
  | [hours, minutes, seconds] =>
    (numeral? 2 hours).bind fun h =>
      (numeral? 2 minutes).bind fun m =>
        (numeral? 2 seconds).bind fun s =>
          if h < 24 ∧ m < 60 ∧ s < 60 then some (h * 3600 + m * 60 + s) else none
  | _ => none

/-- The seconds since the start of 1970, from the day and the time in Greenwich. -/
def seconds? (cs : List Char) : Option ℕ :=
  match segments ' ' cs with
  | [day, month, year, time, zone] =>
    if zone = "GMT".toList then
      (date? day month year).bind fun date =>
        (secondOfDay? time).map fun second => date.sinceEpoch * 86400 + second
    else none
  | _ => none

/-- The day of the week and the seconds since the start of 1970 that a text such as
`Wed, 01 May 2024 09:00:00 GMT` names. -/
def read? (cs : List Char) : Option (List Char × ℕ) :=
  match cut? ',' cs with
  | some (weekday, ' ' :: rest) => (seconds? rest).map (weekday, ·)
  | _ => none

/-! ## The parts -/

theorem areDigits_padded (width n : ℕ) : AreDigits (padded width n) := by
  obtain ⟨hne, hdigits⟩ := areDigits_digits n
  refine ⟨by simp [padded, hne], fun d hd => ?_⟩
  obtain hzero | hdigit := List.mem_append.1 hd
  · rw [List.eq_of_mem_replicate hzero]
    decide
  · exact hdigits d hdigit

/-- A padded number is digits alone. -/
theorem not_mem_padded {c : Char} (h : isDigit c = false) (width n : ℕ) : c ∉ padded width n :=
  fun hc => absurd ((areDigits_padded width n).2 c hc) (by simp [h])

theorem not_mem_year {c : Char} (hdigit : isDigit c = false) (hminus : c ≠ '-') (hplus : c ≠ '+')
    (y : Int) : c ∉ Stamp.year y := by
  have hpadded := not_mem_padded hdigit 4 y.natAbs
  rw [Stamp.year]
  split_ifs <;> simp [hpadded, hminus, hplus]

/-- Zeros in front count for nothing. -/
theorem value_padded (width n : ℕ) : value (padded width n) = n := by
  have hzeros (k : ℕ) :
      (List.replicate k '0').foldl (fun n c => 10 * n + (c.toNat - 48)) 0 = 0 := by
    induction k with
    | zero => rfl
    | succ k ih => exact ih
  rw [padded, value, List.foldl_append, hzeros]
  exact Json.value_digits n

/-- A number that fits its width is read back. -/
theorem numeral?_padded {width n : ℕ} (hwidth : 0 < width) (h : n < 10 ^ width) :
    numeral? width (padded width n) = some n := by
  have hlength : (digits n).length ≤ width := Nat.toDigits_length 10 n width hwidth h
  rw [numeral?, if_pos (by simp [padded, hlength]), natural?_eq_some_iff]
  exact ⟨areDigits_padded width n, value_padded width n⟩

/-- The name of a month is read back as its number. -/
theorem month?_monthName {m : ℕ} (h : 1 ≤ m ∧ m ≤ 12) :
    month? (Stamp.monthName m).toList = some m := by
  obtain ⟨h1, h12⟩ := h
  interval_cases m <;> rfl

/-- The weekday written is the one that is found by counting on from that of the first day. -/
theorem dayName_weekday (days : ℕ) : (Stamp.dayName (weekday days)).toList = weekdayAfter days := by
  have hshift : weekday days = (days % 7 + 4) % 7 := by
    rw [weekday]
    omega
  rw [hshift, weekdayAfter]
  have hlt : days % 7 < 7 := Nat.mod_lt _ (by decide)
  interval_cases days % 7 <;> rfl

theorem comma_not_mem_weekdayAfter (days : ℕ) : ',' ∉ weekdayAfter days := by
  rw [weekdayAfter]
  have hlt : days % 7 < 7 := Nat.mod_lt _ (by decide)
  interval_cases days % 7 <;> decide

theorem space_not_mem_monthName (m : ℕ) : ' ' ∉ (Stamp.monthName m).toList := by
  rw [Stamp.monthName]
  obtain hlt | hle := Nat.lt_or_ge (m - 1) 12
  · interval_cases m - 1 <;> decide
  · simp [hle]

theorem space_not_mem_timeOfDay (t : Instant) : ' ' ∉ Stamp.timeOfDay t := by
  have hspace : ∀ n, ' ' ∉ padded 2 n := not_mem_padded (by decide) 2
  simp [Stamp.timeOfDay, hspace]

/-- The time of the day is read back. -/
theorem secondOfDay?_timeOfDay (t : Instant) :
    secondOfDay? (Stamp.timeOfDay t) = some t.secondOfDay := by
  have hlt : t.secondOfDay < 86400 := by
    rw [Instant.secondOfDay]
    omega
  generalize hs : t.secondOfDay = s at hlt
  have hparts : Stamp.timeOfDay t =
      [':'].intercalate [padded 2 (s / 3600), padded 2 (s / 60 % 60), padded 2 (s % 60)] := by
    simp [Stamp.timeOfDay, hs, List.intercalate]
  have hcolon : ∀ n, ':' ∉ padded 2 n := not_mem_padded (by decide) 2
  rw [secondOfDay?, hparts, segments_intercalate (by simp) (by simp [hcolon])]
  have hhours : numeral? 2 (padded 2 (s / 3600)) = some (s / 3600) :=
    numeral?_padded (by decide) (by omega)
  have hminutes : numeral? 2 (padded 2 (s / 60 % 60)) = some (s / 60 % 60) :=
    numeral?_padded (by decide) (by omega)
  have hseconds : numeral? 2 (padded 2 (s % 60)) = some (s % 60) :=
    numeral?_padded (by decide) (by omega)
  simp only [hhours, hminutes, hseconds, Option.bind_some]
  rw [if_pos (by omega)]
  congr 1
  omega

variable {d : Date}

/-- In these years a year is four digits without a sign. -/
theorem year_eq_padded (hfirst : 1970 ≤ d.year) (hlast : d.year ≤ 9999) :
    Stamp.year d.year = padded 4 d.year.natAbs :=
  if_pos ⟨by omega, hlast⟩

/-- The date is read back. -/
theorem date?_written (h : d.IsValid) (hfirst : 1970 ≤ d.year) (hlast : d.year ≤ 9999) :
    date? (padded 2 d.day) (Stamp.monthName d.month).toList (Stamp.year d.year) = some d := by
  have hday : d.day < 10 ^ 2 := (h.2.2.trans (Date.monthLength_le _ _)).trans_lt (by decide)
  have hyear : ((d.year.natAbs : ℕ) : Int) = d.year := Int.natAbs_of_nonneg (by omega)
  rw [date?, year_eq_padded hfirst hlast, numeral?_padded (by decide) hday, month?_monthName h.1,
    numeral?_padded (by decide) (by omega)]
  simp only [Option.bind_some, hyear]
  exact Option.filter_eq_some_iff.2 ⟨rfl, decide_eq_true ⟨h, hfirst⟩⟩

/-- The parts of a date are found again between its spaces. -/
theorem seconds?_intercalate {day month year time : List Char}
    (h : ∀ part ∈ [day, month, year, time], ' ' ∉ part) :
    seconds? ([' '].intercalate [day, month, year, time, "GMT".toList]) =
      (date? day month year).bind fun date =>
        (secondOfDay? time).map fun second => date.sinceEpoch * 86400 + second := by
  have hspace : ∀ part ∈ [day, month, year, time, "GMT".toList], ' ' ∉ part := by
    simpa using h
  rw [seconds?, segments_intercalate (List.cons_ne_nil _ _) hspace]
  simp

/-- From 1970 to 9999, a cookie date names the second of its instant and the day of the week on
which it is. -/
theorem read?_cookieDate {t : Instant} (h : 0 ≤ t.seconds) (hlast : t.seconds < 253402300800) :
    read? (Stamp.cookieDate t) =
      some (weekdayAfter (t.seconds.toNat / 86400), t.seconds.toNat) := by
  obtain ⟨n, hn⟩ := Int.eq_ofNat_of_zero_le h
  have hdays : t.days = ((n / 86400 : ℕ) : Int) := by
    rw [Instant.days, hn]
    rfl
  have hvalid : t.date.IsValid := Date.isValid_ofDays t.days
  have hfirst : 1970 ≤ t.date.year := Date.le_year_ofDays (by omega)
  have hyear : t.date.year ≤ 9999 := Date.year_ofDays_le (by omega)
  have hsince : t.date.sinceEpoch = n / 86400 := by
    have hcount : (t.date.sinceEpoch : Int) = t.days := Date.sinceEpoch_ofDays (by omega)
    exact Int.ofNat_inj.1 (hcount.trans hdays)
  have htext : Stamp.cookieDate t = weekdayAfter (n / 86400) ++ ',' :: ' ' :: [' '].intercalate
      [padded 2 t.date.day, (Stamp.monthName t.date.month).toList, Stamp.year t.date.year,
        Stamp.timeOfDay t, "GMT".toList] := by
    rw [← dayName_weekday, ← hdays]
    simp [Stamp.cookieDate, List.intercalate]
  have hspaces : ∀ part ∈ [padded 2 t.date.day, (Stamp.monthName t.date.month).toList,
      Stamp.year t.date.year, Stamp.timeOfDay t], ' ' ∉ part := by
    have hpadded : ∀ width n, ' ' ∉ padded width n := not_mem_padded (by decide)
    simp [year_eq_padded hfirst hyear, hpadded, space_not_mem_monthName, space_not_mem_timeOfDay]
  have hsecond : t.secondOfDay = n % 86400 := by
    rw [Instant.secondOfDay, hn]
    rfl
  rw [htext, read?, cut?_append (comma_not_mem_weekdayAfter _), hn]
  simp only [seconds?_intercalate hspaces, date?_written hvalid hfirst hyear,
    secondOfDay?_timeOfDay, Option.bind_some, Option.map_some, hsince, hsecond]
  rw [Nat.div_add_mod']
  rfl

end CookieDate

end SignIn
