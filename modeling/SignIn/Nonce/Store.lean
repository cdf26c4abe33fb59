import SignIn.Storage.Dict
import SignIn.Time.Instant

/-!
# Nonces

A nonce is good for one use within its lifetime. Consuming one takes it out whatever the answer,
so a nonce that has expired cannot be used later either, and every call drops what is past its
expiry. At the very instant of its expiry a nonce is still good.
-/

namespace SignIn

/-- Why a nonce is refused. -/
inductive NonceError where
  /-- Never issued, or consumed before. -/
  | notFound
  | expired
  deriving DecidableEq

/-- The wording of a cause. -/
def NonceError.message : NonceError → String
  | .notFound => "nonce not found"
  | .expired => "nonce expired"

/-- The nonces that can be consumed, with their expiry. -/
structure NonceStore where
  lifetime : Span
  entries : Dict Instant

namespace NonceStore

/-- No nonce yet. -/
def empty (lifetime : Span) : NonceStore := ⟨lifetime, .empty⟩

/-- Drops what is past its expiry. -/
def purge (s : NonceStore) (now : Instant) : NonceStore :=
  { s with entries := s.entries.keep fun expires => decide (now ≤ expires) }

/-- Puts a nonce in until an instant. -/
def put (s : NonceStore) (nonce : String) (expires : Instant) : NonceStore :=
  { s with entries := s.entries.insert nonce expires }

/-- Takes a nonce out. -/
def take (s : NonceStore) (nonce : String) : NonceStore :=
  { s with entries := s.entries.erase nonce }

/-- Issues a nonce, none when it would expire outside the calendar. What is past its expiry is
dropped all the same. -/
def issue (s : NonceStore) (now : Instant) (nonce : String) : Option String × NonceStore :=
  match now.add? s.lifetime with
  | some expires => (some nonce, (s.purge now).put nonce expires)
  | none => (none, s.purge now)

/-- A nonce whose expiry can be told is issued. -/
theorem issue_of_some {s : NonceStore} {now expires : Instant}
    (h : now.add? s.lifetime = some expires) (nonce : String) :
    s.issue now nonce = (some nonce, (s.purge now).put nonce expires) := by
  simp only [issue, h]

/-- Without an expiry there is no nonce. -/
theorem issue_of_none {s : NonceStore} {now : Instant} (h : now.add? s.lifetime = none)
    (nonce : String) : s.issue now nonce = (none, s.purge now) := by
  simp only [issue, h]

/-- Issuing a nonce does not change how long nonces live. -/
theorem lifetime_issue (s : NonceStore) (now : Instant) (nonce : String) :
    (s.issue now nonce).2.lifetime = s.lifetime := by
  cases h : now.add? s.lifetime with
  | none => rw [issue_of_none h, purge]
  | some expires => rw [issue_of_some h, put, purge]

/-- What the entry of a nonce says at an instant. -/
def judge (now : Instant) : Option Instant → Except NonceError Unit
  | none => .error .notFound
  | some expires => if expires < now then .error .expired else .ok ()

/-- Consumes a nonce. -/
def consume (s : NonceStore) (now : Instant) (nonce : String) :
    Except NonceError Unit × NonceStore :=
  (judge now (s.entries.get? nonce), (s.take nonce).purge now)

end NonceStore

end SignIn
