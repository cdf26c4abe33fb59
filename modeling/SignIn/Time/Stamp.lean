import SignIn.Time.Calendar
import SignIn.Text.Decimal

/-!
# Instants as texts

Two written forms: RFC 3339 in UTC, to the second or to the nanosecond, and the date of a
cookie. A year outside 0 to 9999 carries its sign, and every year has at least four digits.
-/

namespace SignIn.Stamp

/-- A year as text. -/
def year (y : Int) : List Char :=
  if 0 ≤ y ∧ y ≤ 9999 then Decimal.padded 4 y.natAbs
  else (if y < 0 then '-' else '+') :: Decimal.padded 4 y.natAbs

/-- Hours, minutes and seconds with colons between them. -/
def timeOfDay (t : Instant) : List Char :=
  let s := t.secondOfDay
  Decimal.padded 2 (s / 3600) ++ ':' :: Decimal.padded 2 (s / 60 % 60) ++
    ':' :: Decimal.padded 2 (s % 60)

/-- The date and the time to the second, without the mark of the zone. -/
def dateTime (t : Instant) : List Char :=
  let d := t.date
  year d.year ++ '-' :: Decimal.padded 2 d.month ++ '-' :: Decimal.padded 2 d.day ++
    'T' :: timeOfDay t

/-- RFC 3339 to the second, as `2024-05-01T09:00:00Z`. -/
def toSeconds (t : Instant) : List Char := dateTime t ++ ['Z']

/-- RFC 3339 to the nanosecond, as `2024-05-01T09:00:00.000000000Z`. -/
def toNanos (t : Instant) : List Char :=
  dateTime t ++ '.' :: Decimal.padded 9 t.subsecond ++ ['Z']

/-- The names of the days from Sunday on. -/
def dayName (n : Nat) : String :=
  ["Sun", "Mon", "Tue", "Wed", "Thu", "Fri", "Sat"].getD n ""

/-- The names of the months from January on, counted from 1. -/
def monthName (n : Nat) : String :=
  ["Jan", "Feb", "Mar", "Apr", "May", "Jun", "Jul", "Aug", "Sep", "Oct", "Nov", "Dec"].getD
    (n - 1) ""

/-- The date of a cookie, as `Wed, 01 May 2024 09:00:00 GMT`. -/
def cookieDate (t : Instant) : List Char :=
  let d := t.date
  (dayName (weekday t.days)).toList ++ ',' :: ' ' :: Decimal.padded 2 d.day ++
    ' ' :: (monthName d.month).toList ++ ' ' :: year d.year ++ ' ' :: timeOfDay t ++
    [' ', 'G', 'M', 'T']

end SignIn.Stamp
