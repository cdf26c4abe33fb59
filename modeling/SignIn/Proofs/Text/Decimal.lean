import SignIn.Proofs.Json.RoundTrip

/-!
# Whole numbers in texts

A text that is read as a whole number of 64 bits is a sign or none and digits, at least one, which
write the number (`Decimal.Writes`), and the reader finds every number within the range
(`Decimal.int64?_eq_some_iff`). So it reads back what was written (`Decimal.int64?_signed`).
-/

namespace SignIn

namespace Decimal

variable {cs ds : List Char} {n : Int}

/-- Digits alone, at least one. -/
def AreDigits (ds : List Char) : Prop := ds ≠ [] ∧ ∀ d ∈ ds, Text.isDigit d = true

/-- The characters write the whole number : a sign or none, and digits. -/
inductive Writes : List Char → Int → Prop
  | unsigned {ds : List Char} (digits : AreDigits ds) : Writes ds (value ds)
  | plus {ds : List Char} (digits : AreDigits ds) : Writes ('+' :: ds) (value ds)
  | minus {ds : List Char} (digits : AreDigits ds) : Writes ('-' :: ds) (-(value ds : Int))

/-- A number without a sign is read from digits, of which there is at least one, and from nothing
else. -/
theorem natural?_eq_some_iff {m : ℕ} : natural? ds = some m ↔ AreDigits ds ∧ value ds = m := by
  simp [natural?, AreDigits]

theorem areDigits_digits (m : ℕ) : AreDigits (digits m) := by
  obtain ⟨d, ds, hds, -⟩ := Json.exists_digits_eq_cons m
  exact ⟨by simp [hds], fun _ => Json.isDigit_of_mem_digits⟩

/-- No sign is a digit. -/
theorem AreDigits.ne_sign (h : AreDigits (d :: ds)) : d ≠ '-' ∧ d ≠ '+' := by
  have hd := h.2 d List.mem_cons_self
  constructor
  · rintro rfl
    exact absurd hd (by decide)
  · rintro rfl
    exact absurd hd (by decide)

/-- Behind a minus sign there are the digits of the opposite number. -/
theorem writes_minus_iff : Writes ('-' :: ds) n ↔ AreDigits ds ∧ -(value ds : Int) = n := by
  constructor
  · rintro (hds | hds | hds)
    · exact absurd rfl hds.ne_sign.1
    · exact ⟨hds, rfl⟩
  · rintro ⟨hds, rfl⟩
    exact .minus hds

theorem writes_plus_iff : Writes ('+' :: ds) n ↔ AreDigits ds ∧ (value ds : Int) = n := by
  constructor
  · rintro (hds | hds | hds)
    · exact absurd rfl hds.ne_sign.2
    · exact ⟨hds, rfl⟩
  · rintro ⟨hds, rfl⟩
    exact .plus hds

/-- Without a sign there are the digits of the number alone. -/
theorem writes_iff_of_no_sign (hminus : ∀ ds, cs ≠ '-' :: ds) (hplus : ∀ ds, cs ≠ '+' :: ds) :
    Writes cs n ↔ AreDigits cs ∧ (value cs : Int) = n := by
  constructor
  · rintro (hds | hds | hds)
    · exact ⟨hds, rfl⟩
    · exact absurd rfl (hplus _)
    · exact absurd rfl (hminus _)
  · rintro ⟨hds, rfl⟩
    exact .unsigned hds

/-- A number is read if and only if the text writes one that fits. -/
theorem int64?_eq_some_iff : int64? cs = some n ↔ Writes cs n ∧ inInt64 n = true := by
  unfold int64?
  rw [Option.filter_eq_some_iff]
  refine and_congr_left fun _ => ?_
  split
  · simp [writes_minus_iff, Option.bind_eq_some_iff, natural?_eq_some_iff, and_assoc]
  · simp [writes_plus_iff, Option.bind_eq_some_iff, natural?_eq_some_iff, and_assoc]
  · rename_i hminus hplus
    simp [writes_iff_of_no_sign hminus hplus, Option.bind_eq_some_iff, natural?_eq_some_iff,
      and_assoc]

/-- The decimal text of a number writes it. -/
theorem writes_signed (n : Int) : Writes (signed n) n := by
  unfold signed
  split_ifs with hn
  · exact writes_minus_iff.2 ⟨areDigits_digits _, by rw [Json.value_digits]; omega⟩
  · have hds := Writes.unsigned (areDigits_digits n.natAbs)
    rwa [Json.value_digits, Int.natAbs_of_nonneg (by omega)] at hds

/-- No more than one whole number is written. -/
theorem Writes.unique {m : Int} (h : Writes cs n) (h' : Writes cs m) : n = m := by
  rcases h with hds | hds | hds
  · rcases h' with hds' | hds' | hds'
    · rfl
    · exact absurd rfl hds.ne_sign.2
    · exact absurd rfl hds.ne_sign.1
  · exact (writes_plus_iff.1 h').2
  · exact (writes_minus_iff.1 h').2

/-- A whole number of 64 bits is read back. -/
theorem int64?_signed (n : Int) : int64? (signed n) = (some n).filter inInt64 := by
  ext m
  rw [int64?_eq_some_iff, Option.filter_eq_some_iff, Option.some_inj]
  refine and_congr_left fun _ => ⟨fun h => (writes_signed n).unique h, ?_⟩
  rintro rfl
  exact writes_signed n

end Decimal

end SignIn
