import Mathlib.Tactic.Common
import SignIn.Encoding.Base64Url

/-!
# Base64 is read back

Every digit has a character of its own (`digitValue?_digitChar`), so the characters of a text can be
read one by one, and the digits of three, two or one bytes give these bytes again : `decode?` reads
what `encode` writes (`decode?_encode`). No character of a text is a dot (`dot_not_mem_encode`).
-/

namespace SignIn.Base64Url

/-! ## Digits -/

/-- A digit is read back from its character. -/
theorem digitValue?_digitChar {n : Nat} (h : n < 64) : digitValue? (digitChar n) = some n := by
  have hall : ∀ n < 64, digitValue? (digitChar n) = some n := by decide
  exact hall n h

/-- No digit is written as a dot. -/
theorem digitChar_ne_dot {n : Nat} (h : n < 64) : digitChar n ≠ '.' := by
  have hall : ∀ n < 64, digitChar n ≠ '.' := by decide
  exact hall n h

/-- The digits that `encode` writes. -/
def digits : Bytes → List Nat
  | a :: b :: c :: rest =>
    let n := a.toNat * 65536 + b.toNat * 256 + c.toNat
    n / 262144 :: n / 4096 % 64 :: n / 64 % 64 :: n % 64 :: digits rest
  | [a, b] =>
    let n := a.toNat * 1024 + b.toNat * 4
    [n / 4096, n / 64 % 64, n % 64]
  | [a] =>
    let n := a.toNat * 16
    [n / 64, n % 64]
  | [] => []

/-- Bytes are written digit by digit. -/
theorem encode_eq_map : ∀ bs : Bytes, encode bs = (digits bs).map digitChar
  | a :: b :: c :: rest => by
    rw [encode, digits, encode_eq_map rest]
    rfl
  | [a, b] => rfl
  | [a] => rfl
  | [] => rfl

/-- The digits of bytes have six bits. -/
theorem lt_of_mem_digits : ∀ {bs : Bytes} {n : Nat}, n ∈ digits bs → n < 64
  | a :: b :: c :: rest, n, h => by
    have ha := a.toNat_lt
    have hb := b.toNat_lt
    have hc := c.toNat_lt
    simp only [digits, List.mem_cons] at h
    rcases h with rfl | rfl | rfl | rfl | h
    · omega
    · omega
    · omega
    · omega
    · exact lt_of_mem_digits h
  | [a, b], n, h => by
    have ha := a.toNat_lt
    have hb := b.toNat_lt
    simp only [digits, List.mem_cons, List.not_mem_nil, or_false] at h
    omega
  | [a], n, h => by
    have ha := a.toNat_lt
    simp only [digits, List.mem_cons, List.not_mem_nil, or_false] at h
    omega
  | [], n, h => absurd h List.not_mem_nil

/-! ## Texts -/

/-- Digits are read back from their characters. -/
theorem mapM_digitValue? : ∀ {ns : List Nat}, (∀ n ∈ ns, n < 64) →
    (ns.map digitChar).mapM digitValue? = some ns
  | [], _ => rfl
  | n :: ns, h => by
    have hn := digitValue?_digitChar (h n List.mem_cons_self)
    have hns := mapM_digitValue? fun m hm => h m (List.mem_cons_of_mem _ hm)
    simp [List.mapM_cons, hn, hns]

theorem ofNat_toNat_of_eq {a : UInt8} {n : Nat} (h : n = a.toNat) : UInt8.ofNat n = a := by
  rw [h, UInt8.ofNat_toNat]

/-- Bytes are read back from their digits, in groups of three and with one or two left over. -/
theorem decodeDigits?_digits : ∀ bs : Bytes, decodeDigits? (digits bs) = some bs
  | a :: b :: c :: rest => by
    have ha := a.toNat_lt
    have hb := b.toNat_lt
    have hc := c.toNat_lt
    simp only [digits, decodeDigits?, decodeDigits?_digits rest, Option.map_some]
    rw [ofNat_toNat_of_eq (a := a) (by omega), ofNat_toNat_of_eq (a := b) (by omega),
      ofNat_toNat_of_eq (a := c) (by omega)]
  | [a, b] => by
    have ha := a.toNat_lt
    have hb := b.toNat_lt
    simp only [digits, decodeDigits?]
    rw [if_pos (by omega), ofNat_toNat_of_eq (a := a) (by omega),
      ofNat_toNat_of_eq (a := b) (by omega)]
  | [a] => by
    have ha := a.toNat_lt
    simp only [digits, decodeDigits?]
    rw [if_pos (by omega), ofNat_toNat_of_eq (a := a) (by omega)]
  | [] => rfl

/-- What is written is read back. -/
theorem decode?_encode (bs : Bytes) : decode? (encode bs) = some bs := by
  rw [decode?, encode_eq_map, mapM_digitValue? fun _ => lt_of_mem_digits]
  exact decodeDigits?_digits bs

theorem exists_digit_of_mem_encode {bs : Bytes} {c : Char} (h : c ∈ encode bs) :
    ∃ n < 64, digitChar n = c := by
  rw [encode_eq_map, List.mem_map] at h
  obtain ⟨n, hn, hc⟩ := h
  exact ⟨n, lt_of_mem_digits hn, hc⟩

/-- Encoded bytes hold no dot, so a dot may stand between them. -/
theorem dot_not_mem_encode (bs : Bytes) : '.' ∉ encode bs := by
  intro h
  obtain ⟨n, hn, hdot⟩ := exists_digit_of_mem_encode h
  exact digitChar_ne_dot hn hdot

end SignIn.Base64Url
