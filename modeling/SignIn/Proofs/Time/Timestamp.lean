import SignIn.Proofs.Time.CookieDate

/-!
# Reading a timestamp

A timestamp names a day of the calendar and a time to the nanosecond. `Timestamp.read?` reads it by
the rules of the calendar. The year may have a sign and more than four digits, so the day and the
month are read from behind, where their width is fixed. Of what was written for an instant it finds
the instant (`Timestamp.read?_toNanos`).
-/

namespace SignIn

namespace Timestamp

open Text Decimal CookieDate

/-- A day of the calendar, as `2024-05-01`, where the year may have a sign. -/
def date? (cs : List Char) : Option Date :=
  match cutLast? '-' cs with
  | some (front, day) =>
    match cutLast? '-' front with
    | some (year, month) =>
      (int64? year).bind fun y => (numeral? 2 month).bind fun m => (numeral? 2 day).bind fun d =>
        (some ⟨y, m, d⟩ : Option Date).filter fun date => date.IsValid
    | none => none
  | none => none

/-- The nanoseconds of a time in Greenwich, as `09:00:00.000000000Z`. -/
def nanosOfDay? (time : List Char) : Option ℕ :=
  match cut? '.' time with
  | some (clock, fraction) =>
    match cut? 'Z' fraction with
    | some (nanos, []) =>
      (secondOfDay? clock).bind fun second =>
        (numeral? 9 nanos).map fun n => second * 1000000000 + n
    | _ => none
  | none => none

/-- The nanoseconds since the start of 1970 that a text such as `2024-05-01T09:00:00.000000000Z`
names. -/
def read? (cs : List Char) : Option Int :=
  match cut? 'T' cs with
  | some (date, time) =>
    (date? date).bind fun d => (nanosOfDay? time).map fun n : ℕ => d.toDays * 86400000000000 + n
  | none => none

/-! ## Years -/

/-- A year is written with its number. -/
theorem writes_year (y : Int) : Writes (Stamp.year y) y := by
  have hdigits := areDigits_padded 4 y.natAbs
  have hvalue := value_padded 4 y.natAbs
  rw [Stamp.year]
  split_ifs with hfour hneg
  · have hwrites := Writes.unsigned hdigits
    rwa [hvalue, Int.natAbs_of_nonneg hfour.1] at hwrites
  · exact writes_minus_iff.2 ⟨hdigits, by rw [hvalue]; omega⟩
  · exact writes_plus_iff.2 ⟨hdigits, by rw [hvalue]; omega⟩

/-- Every instant is in one of the years -262143 to 262142. -/
theorem year_bounds (t : Instant) : -262143 ≤ t.date.year ∧ t.date.year ≤ 262142 := by
  obtain ⟨hfirst, hlast⟩ : Date.toDays ⟨t.date.year, 1, 1⟩ ≤ t.days ∧
      t.days < Date.toDays ⟨t.date.year + 1, 1, 1⟩ := by
    have hbounds := Date.toDays_bounds (Date.isValid_ofDays t.days)
    rwa [Date.toDays_ofDays] at hbounds
  -- the calendar begins and ends with the first day of a year
  have hdays : Date.toDays ⟨-262143, 1, 1⟩ ≤ t.days ∧ t.days < Date.toDays ⟨262143, 1, 1⟩ := by
    have hbefore := t.not_before
    have hafter := t.not_after
    have hstart : Date.toDays ⟨-262143, 1, 1⟩ = -96465292 := by decide
    have hend : Date.toDays ⟨262143, 1, 1⟩ = 95026237 := by decide
    rw [hstart, hend, Instant.days, Instant.seconds]
    omega
  constructor
  · by_contra hlt
    have hle : Date.toDays ⟨t.date.year + 1, 1, 1⟩ ≤ Date.toDays ⟨-262143, 1, 1⟩ :=
      Date.toDays_year_le (by omega)
    omega
  · by_contra hlt
    have hle : Date.toDays ⟨262143, 1, 1⟩ ≤ Date.toDays ⟨t.date.year, 1, 1⟩ :=
      Date.toDays_year_le (by omega)
    omega

/-- The year is read back, also with a sign or with five digits. -/
theorem int64?_year (t : Instant) : int64? (Stamp.year t.date.year) = some t.date.year := by
  have hbounds := year_bounds t
  refine int64?_eq_some_iff.2 ⟨writes_year _, ?_⟩
  simp only [inInt64, Bool.and_eq_true, decide_eq_true_eq]
  omega

/-! ## What was written -/

/-- The day of an instant, as it is written. -/
def dateText (t : Instant) : List Char :=
  Stamp.year t.date.year ++ '-' :: padded 2 t.date.month ++ '-' :: padded 2 t.date.day

/-- The date is read back. -/
theorem date?_dateText (t : Instant) : date? (dateText t) = some t.date := by
  have hvalid : t.date.IsValid := Date.isValid_ofDays t.days
  have hmonth : t.date.month < 10 ^ 2 := hvalid.1.2.trans_lt (by decide)
  have hday : t.date.day < 10 ^ 2 :=
    (hvalid.2.2.trans (Date.monthLength_le _ _)).trans_lt (by decide)
  have hhyphen : ∀ n, '-' ∉ padded 2 n := not_mem_padded (by decide) 2
  rw [dateText, date?, cutLast?_append _ (hhyphen _)]
  dsimp only
  rw [cutLast?_append _ (hhyphen _)]
  dsimp only
  rw [int64?_year, numeral?_padded (by decide) hmonth, numeral?_padded (by decide) hday]
  simp only [Option.bind_some]
  exact Option.filter_eq_some_iff.2 ⟨rfl, decide_eq_true hvalid⟩

/-- The time of the day is read back, to the nanosecond. -/
theorem nanosOfDay?_written (t : Instant) :
    nanosOfDay? (Stamp.timeOfDay t ++ '.' :: (padded 9 t.subsecond ++ ['Z'])) =
      some (t.secondOfDay * 1000000000 + t.subsecond) := by
  have hsubsecond : t.subsecond < 10 ^ 9 := by
    rw [Instant.subsecond]
    omega
  have hdot : '.' ∉ Stamp.timeOfDay t := by
    have hpadded : ∀ n, '.' ∉ padded 2 n := not_mem_padded (by decide) 2
    simp [Stamp.timeOfDay, hpadded]
  have hzone : 'Z' ∉ padded 9 t.subsecond := not_mem_padded (by decide) 9 _
  rw [nanosOfDay?, cut?_append hdot]
  dsimp only
  rw [cut?_append hzone]
  dsimp only
  rw [secondOfDay?_timeOfDay, numeral?_padded (by decide) hsubsecond]
  rfl

/-- A timestamp is read back as the instant that it was written for. -/
theorem read?_toNanos (t : Instant) : read? (Stamp.toNanos t) = some t.nanos := by
  have htext : Stamp.toNanos t =
      dateText t ++ 'T' :: (Stamp.timeOfDay t ++ '.' :: (padded 9 t.subsecond ++ ['Z'])) := by
    simp [Stamp.toNanos, Stamp.dateTime, dateText]
  have hpadded : ∀ n, 'T' ∉ padded 2 n := not_mem_padded (by decide) 2
  have hyear : 'T' ∉ Stamp.year t.date.year := not_mem_year (by decide) (by decide) (by decide) _
  have hmark : 'T' ∉ dateText t := by simp [dateText, hpadded, hyear]
  have hdays : t.date.toDays = t.days := Date.toDays_ofDays t.days
  have hnanos := t.nanos_eq
  rw [htext, read?, cut?_append hmark]
  dsimp only
  rw [date?_dateText, nanosOfDay?_written, Option.bind_some, Option.map_some, hdays, hnanos,
    Instant.days, Instant.secondOfDay]
  congr 1
  omega

/-- Two instants are written alike only if they are the same. -/
theorem toNanos_injective : Function.Injective Stamp.toNanos := by
  intro s t h
  have hnanos : s.nanos = t.nanos := Option.some.inj (by rw [← read?_toNanos, h, read?_toNanos])
  obtain ⟨n, _, _⟩ := s
  obtain rfl : n = t.nanos := hnanos
  rfl

end Timestamp

end SignIn
