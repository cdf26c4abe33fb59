/-!
# Cutting texts

A text is cut at the first occurrence of a character (`cut?`), at its last (`cutLast?`), or
at every one (`segments`). Cutting loses nothing: `append_of_cut?` puts the two parts and the
separator together again, and the first part holds no separator (`not_mem_of_cut?`).
-/

namespace SignIn.Text

/-- The parts before and after the first `sep`, none when there is no `sep`. -/
def cut? (sep : Char) : List Char → Option (List Char × List Char)
  | [] => none
  | c :: cs => if c = sep then some ([], cs) else (cut? sep cs).map fun p => (c :: p.1, p.2)

/-- The parts before and after the last `sep`, none when there is no `sep`. -/
def cutLast? (sep : Char) (cs : List Char) : Option (List Char × List Char) :=
  (cut? sep cs.reverse).map fun p => (p.2.reverse, p.1.reverse)

/-- The parts between the occurrences of `sep`, always at least one. -/
def segments (sep : Char) : List Char → List (List Char)
  | [] => [[]]
  | c :: cs =>
    if c = sep then [] :: segments sep cs
    else match segments sep cs with
      | [] => [[c]]
      | part :: parts => (c :: part) :: parts

/-- The part before the first `sep`, all of the text when there is no `sep`. -/
def upTo (sep : Char) (cs : List Char) : List Char := cs.takeWhile (· ≠ sep)

/-- Whether `part` stands somewhere in `cs`. -/
def contains (part : List Char) : List Char → Bool
  | [] => part.isEmpty
  | c :: cs => part.isPrefixOf (c :: cs) || contains part cs

/-- The two parts with the separator between them are the text that was cut. -/
theorem append_of_cut? {sep : Char} {cs a b : List Char} (h : cut? sep cs = some (a, b)) :
    cs = a ++ sep :: b := by
  induction cs generalizing a with
  | nil => simp [cut?] at h
  | cons c cs ih =>
    simp only [cut?] at h
    split at h
    · next hc => obtain ⟨rfl, rfl⟩ := by simpa using h
                 simp [hc]
    · obtain ⟨p, hp, hq⟩ := Option.map_eq_some_iff.1 h
      obtain ⟨rfl, rfl⟩ := Prod.mk.inj hq
      simp [← ih hp]

/-- The cut is at the first separator : the part before it has none. -/
theorem not_mem_of_cut? {sep : Char} {cs a b : List Char} (h : cut? sep cs = some (a, b)) :
    sep ∉ a := by
  induction cs generalizing a with
  | nil => simp [cut?] at h
  | cons c cs ih =>
    simp only [cut?] at h
    split at h
    · obtain ⟨rfl, rfl⟩ := by simpa using h
      simp
    · next hc =>
      obtain ⟨p, hp, hq⟩ := Option.map_eq_some_iff.1 h
      obtain ⟨rfl, rfl⟩ := Prod.mk.inj hq
      simp [ih hp, Ne.symm hc]

/-- A text is cut where its first separator stands. -/
theorem cut?_append {sep : Char} {a : List Char} (h : sep ∉ a) (b : List Char) :
    cut? sep (a ++ sep :: b) = some (a, b) := by
  induction a with
  | nil => simp [cut?]
  | cons c a ih =>
    simp only [List.mem_cons, not_or] at h
    simp [cut?, Ne.symm h.1, ih h.2]

/-- A text is cut where its last separator stands. -/
theorem cutLast?_append {sep : Char} (a : List Char) {b : List Char} (h : sep ∉ b) :
    cutLast? sep (a ++ sep :: b) = some (a, b) := by
  have hreverse : (a ++ sep :: b).reverse = b.reverse ++ sep :: a.reverse := by simp
  rw [cutLast?, hreverse, cut?_append (by simpa using h), Option.map_some, List.reverse_reverse,
    List.reverse_reverse]

end SignIn.Text
