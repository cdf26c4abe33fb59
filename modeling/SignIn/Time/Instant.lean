/-!
# Instants and spans

An instant is a number of nanoseconds since the start of 1970 within the calendar, the years
-262143 to 262142. A span is a difference of instants or a lifetime; it exists up to `2^63 - 1`
milliseconds either way, and from whole seconds only up to that number of milliseconds. A sum
that leaves its range does not exist: `add?` answers none, and what an operation does then is
for the operation to say.
-/

namespace SignIn

/-- A point in time, in nanoseconds since the start of 1970. -/
structure Instant where
  nanos : Int
  not_before : -8334601228800 * 1000000000 ≤ nanos
  not_after : nanos < 8210266876800 * 1000000000
  deriving DecidableEq

/-- A length of time in nanoseconds, of either sign. -/
structure Span where
  nanos : Int
  in_range : nanos.natAbs ≤ 9223372036854775807 * 1000000
  deriving DecidableEq

namespace Span

/-- The span of some nanoseconds. -/
def ofNanos? (n : Int) : Option Span :=
  if h : n.natAbs ≤ 9223372036854775807 * 1000000 then some ⟨n, h⟩ else none

/-- The span of some whole seconds. -/
def ofSeconds? (n : Int) : Option Span :=
  if n.natAbs ≤ 9223372036854775 then ofNanos? (n * 1000000000) else none

/-- The span of some whole seconds and nanoseconds more, which only their sum bounds. -/
def ofParts? (seconds : Int) (nanos : Nat) : Option Span :=
  ofNanos? (seconds * 1000000000 + nanos)

/-- The whole seconds of a span, rounded down. -/
def floorSeconds (d : Span) : Int := d.nanos / 1000000000

/-- The nanoseconds beyond the whole seconds. -/
def subsecond (d : Span) : Nat := (d.nanos % 1000000000).toNat

end Span

namespace Instant

/-- The instant at some nanoseconds since the start of 1970. -/
def ofNanos? (n : Int) : Option Instant :=
  if h : -8334601228800 * 1000000000 ≤ n ∧ n < 8210266876800 * 1000000000 then some ⟨n, h.1, h.2⟩
  else none

/-- The instant at some whole seconds. -/
def ofSeconds? (n : Int) : Option Instant := ofNanos? (n * 1000000000)

/-- The instant at some whole seconds and nanoseconds more. -/
def ofParts? (seconds : Int) (nanos : Nat) : Option Instant :=
  (ofSeconds? seconds).bind fun _ => ofNanos? (seconds * 1000000000 + nanos)

/-- The start of 1970. -/
def epoch : Instant := ⟨0, by decide, by decide⟩

/-- Whole seconds since the start of 1970, rounded down. -/
def seconds (t : Instant) : Int := t.nanos / 1000000000

/-- The nanoseconds beyond the whole seconds. -/
def subsecond (t : Instant) : Nat := (t.nanos % 1000000000).toNat

/-- The instant a span later. -/
def add? (t : Instant) (d : Span) : Option Instant := ofNanos? (t.nanos + d.nanos)

/-- The whole seconds from `s` to `t`, rounded toward zero. -/
def secondsSince (t s : Instant) : Int := Int.tdiv (t.nanos - s.nanos) 1000000000

instance : LE Instant := ⟨fun s t => s.nanos ≤ t.nanos⟩
instance : LT Instant := ⟨fun s t => s.nanos < t.nanos⟩
instance (s t : Instant) : Decidable (s ≤ t) := inferInstanceAs (Decidable (s.nanos ≤ t.nanos))
instance (s t : Instant) : Decidable (s < t) := inferInstanceAs (Decidable (s.nanos < t.nanos))

/-- A sum in the calendar is exact. -/
theorem nanos_of_add? {s t : Instant} {d : Span} (h : s.add? d = some t) :
    t.nanos = s.nanos + d.nanos := by
  rw [add?, ofNanos?] at h
  split at h
  · cases h
    rfl
  · simp at h

/-- A span that is not negative leads to no earlier instant. -/
theorem le_of_add? {s t : Instant} {d : Span} (hd : 0 ≤ d.nanos) (h : s.add? d = some t) :
    s ≤ t := by
  change s.nanos ≤ t.nanos
  rw [nanos_of_add? h]
  omega

/-- A later instant has no smaller whole second. -/
theorem seconds_le_seconds {s t : Instant} (h : s ≤ t) : s.seconds ≤ t.seconds :=
  Int.ediv_le_ediv (by decide) h

/-- Whole seconds and the rest make up the instant. -/
theorem nanos_eq (t : Instant) : t.nanos = t.seconds * 1000000000 + t.subsecond := by
  rw [seconds, subsecond]
  omega

end Instant

end SignIn
