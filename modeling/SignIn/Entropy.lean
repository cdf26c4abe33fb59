import SignIn.Text.Utf8
import SignIn.Encoding.Base64Url

/-!
# Random bytes

A source hands out supplied bytes in order and, once they are used up, the bytes of a linear
congruential generator, so that a run can be repeated and any bytes at all can be drawn.
-/

namespace SignIn

/-- A source of bytes. -/
structure Entropy where
  supplied : Bytes
  state : UInt64

namespace Entropy

/-- The next byte. -/
def next (e : Entropy) : UInt8 × Entropy :=
  match e.supplied with
  | b :: rest => (b, { e with supplied := rest })
  | [] =>
    let state := e.state * 6364136223846793005 + 1442695040888963407
    ((state >>> 56).toUInt8, ⟨[], state⟩)

/-- The next `n` bytes. -/
def draw : Nat → Entropy → Bytes × Entropy
  | 0, e => ([], e)
  | n + 1, e =>
    let (b, e) := e.next
    let (bs, e) := draw n e
    (b :: bs, e)

end Entropy

end SignIn
