/-!
# Dictionaries

Values under texts, at most one under each. The view of a dictionary is its look-up, and every
operation is described by what it does to look-ups.
-/

namespace SignIn

/-- Entries, the first of a key counting. -/
structure Dict (α : Type) where
  entries : List (String × α)

namespace Dict

variable {α : Type}

/-- No entry. -/
def empty : Dict α := ⟨[]⟩

/-- The value under a key. -/
def get? (d : Dict α) (k : String) : Option α := d.entries.lookup k

/-- There is a value under a key. -/
def contains (d : Dict α) (k : String) : Bool := (d.get? k).isSome

/-- Takes the entry of a key out. -/
def erase (d : Dict α) (k : String) : Dict α := ⟨d.entries.filter fun e => e.1 != k⟩

/-- Puts a value under a key, in place of the one there. -/
def insert (d : Dict α) (k : String) (v : α) : Dict α := ⟨(k, v) :: (d.erase k).entries⟩

/-- Keeps the entries whose value passes. -/
def keep (d : Dict α) (p : α → Bool) : Dict α := ⟨d.entries.filter fun e => p e.2⟩

/-- The number of entries. -/
def size (d : Dict α) : Nat := d.entries.length

/-- No key has two entries. -/
def Distinct (d : Dict α) : Prop := d.entries.Pairwise fun e f => e.1 ≠ f.1

@[simp] theorem get?_empty (k : String) : (empty : Dict α).get? k = none := rfl

/-- Leaving out the entries of one key changes no other look-up. -/
theorem lookup_filter_ne (es : List (String × α)) (k j : String) :
    (es.filter fun e => e.1 != k).lookup j = if j = k then none else es.lookup j := by
  induction es with
  | nil => simp
  | cons e es ih =>
    obtain ⟨i, v⟩ := e
    by_cases hik : i = k
    · subst hik
      by_cases hji : j = i
      · subst hji
        simpa using ih
      · have hb : (j == i) = false := by simpa using hji
        simp [List.lookup_cons, hb, ih, hji]
    · by_cases hji : j = i
      · subst hji
        simp [hik]
      · have hb : (j == i) = false := by simpa using hji
        simp [hik, List.lookup_cons, hb, ih]

/-- A key that is taken out has no value, and every other keeps its own. -/
@[simp] theorem get?_erase (d : Dict α) (k j : String) :
    (d.erase k).get? j = if j = k then none else d.get? j := lookup_filter_ne _ _ _

/-- A key that is put has the new value, and every other keeps its own. -/
@[simp] theorem get?_insert (d : Dict α) (k j : String) (v : α) :
    (d.insert k v).get? j = if j = k then some v else d.get? j := by
  by_cases h : j = k
  · subst h
    simp [insert, get?]
  · have hb : (j == k) = false := by simpa using h
    simp [insert, get?, erase, List.lookup_cons, hb, lookup_filter_ne, h]

end Dict

end SignIn
