/-!
# Blank characters

The characters of Unicode's White_Space property, and cutting them off both ends of a
text. A text is blank when nothing is left (`trim_eq_empty_iff`). Zero-width spaces, the
byte order mark and the separators U+001C to U+001F are not blank.
-/

namespace SignIn.Text

/-- Membership in White_Space. -/
def isBlank (c : Char) : Bool :=
  let n := c.toNat
  (9 ≤ n && n ≤ 13) || n == 0x20 || n == 0x85 || n == 0xA0 || n == 0x1680 ||
    (0x2000 ≤ n && n ≤ 0x200A) || n == 0x2028 || n == 0x2029 || n == 0x202F ||
    n == 0x205F || n == 0x3000

/-- Drops the blank characters at both ends of a list. -/
def trimChars (cs : List Char) : List Char :=
  ((cs.dropWhile isBlank).reverse.dropWhile isBlank).reverse

/-- Drops the blank characters at both ends. -/
def trim (s : String) : String := String.ofList (trimChars s.toList)

/-- No character but blank ones. -/
def allBlank (s : String) : Bool := s.toList.all isBlank

/-- Leading blanks are all of a text if and only if there is nothing else in it. -/
theorem dropWhile_isBlank_eq_nil {cs : List Char} :
    cs.dropWhile isBlank = [] ↔ ∀ c ∈ cs, isBlank c = true := by
  induction cs with
  | nil => simp
  | cons c cs ih => by_cases h : isBlank c = true <;> simp [h, ih]

/-- Nothing is left of a text if and only if all of it is blank. -/
theorem trimChars_eq_nil_iff {cs : List Char} : trimChars cs = [] ↔ ∀ c ∈ cs, isBlank c = true := by
  rw [trimChars, List.reverse_eq_nil_iff, dropWhile_isBlank_eq_nil]
  constructor
  · intro h
    rw [← dropWhile_isBlank_eq_nil]
    cases hd : cs.dropWhile isBlank with
    | nil => rfl
    | cons d ds =>
      have h1 : isBlank d = true := h d (by simp [hd])
      have h2 := List.head_dropWhile_not isBlank (l := cs) (by simp [hd])
      simp [hd, h1] at h2
  · intro h
    simp [dropWhile_isBlank_eq_nil.2 h]

/-- A text is blank exactly when trimming leaves nothing. -/
theorem trim_eq_empty_iff {s : String} : trim s = "" ↔ allBlank s = true := by
  rw [trim, allBlank, List.all_eq_true, ← trimChars_eq_nil_iff]
  constructor
  · intro h
    simpa using congrArg String.toList h
  · intro h
    simp [h]

end SignIn.Text
