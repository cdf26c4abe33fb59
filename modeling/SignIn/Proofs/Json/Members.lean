import Mathlib.Tactic.Common
import SignIn.Json.Basic

/-!
# What a reader of records has seen

A value is looked into by readers that answer with an option, and here each of them is turned
round : if a reader has found a text, a whole number or the texts of a list, the value was this and
nothing else (`text?_eq_some_iff`, `int64?_eq_some_iff`, `texts?_eq_some_iff`), and an object all of
whose names are texts is the record of its members (`record?_eq_some_iff`).

A member stands once (`Has`) or not at all (`Lacks`) ; in any other case a reader of a record finds
nothing (`required?_eq_some_iff`, `optional?_eq_some_iff`).
-/

namespace SignIn.Json

/-- Items that are read one by one, each the only one that reads as it does. -/
theorem mapM_eq_some_iff {α β : Type} {f : α → Option β} {g : β → α}
    (h : ∀ a b, f a = some b ↔ a = g b) :
    ∀ {l : List α} {bs : List β}, l.mapM f = some bs ↔ l = bs.map g
  | [], bs => by
    cases bs <;> simp
  | a :: l, bs => by
    have ih (cs : List β) : l.mapM f = some cs ↔ l = cs.map g := mapM_eq_some_iff h
    rw [List.mapM_cons, Option.bind_eq_bind, Option.bind_eq_some_iff]
    constructor
    · rintro ⟨b, hb, hbs⟩
      obtain ⟨cs, hcs, he⟩ := Option.bind_eq_some_iff.1 hbs
      obtain rfl : b :: cs = bs := Option.some.inj he
      rw [(h a b).1 hb, (ih cs).1 hcs, List.map_cons]
    · intro hl
      rcases bs with _ | ⟨b, bs⟩
      · cases hl
      · obtain ⟨ha, hl⟩ := List.cons_eq_cons.1 hl
        exact ⟨b, (h a b).2 ha, Option.bind_eq_some_iff.2 ⟨bs, (ih bs).2 hl, rfl⟩⟩

variable {j : Json} {ms : List (String × Json)} {name : String}

/-! ## Values -/

theorem text?_eq_some_iff {s : String} : j.text? = some s ↔ j = .str s := by
  cases j <;> simp [text?]

theorem int64?_eq_some_iff {n : Int} : j.int64? = some n ↔
    j = .int n ∧ -9223372036854775808 ≤ n ∧ n ≤ 9223372036854775807 := by
  cases j with
  | int m =>
    rw [int64?]
    split_ifs with h
    · rw [Option.some_inj, Json.int.injEq]
      exact ⟨fun hm => ⟨hm, hm ▸ h⟩, And.left⟩
    · rw [Json.int.injEq]
      exact ⟨nofun, fun hm => absurd (hm.1 ▸ hm.2) h⟩
  | null | bool | real | str | broken | arr | obj => simp [int64?]

theorem texts?_eq_some_iff {ss : List String} : j.texts? = some ss ↔ j = strings ss := by
  cases j with
  | arr items =>
    rw [texts?, mapM_eq_some_iff fun _ _ => text?_eq_some_iff, strings, Json.arr.injEq]
  | null | bool | int | real | str | broken | obj => simp [texts?, strings]

/-- An object all of whose names are texts is the record of its members. -/
theorem record?_eq_some_iff : j.record? = some ms ↔ j = record ms := by
  have hmember : ∀ (m : Option String × Json) (m' : String × Json),
      (m.1.map fun name => (name, m.2)) = some m' ↔ m = (some m'.1, m'.2) := by
    rintro ⟨_ | name, j⟩ ⟨name', j'⟩ <;> simp
  cases j with
  | obj members => rw [record?, mapM_eq_some_iff hmember, record, Json.obj.injEq]
  | null | bool | int | real | str | broken | arr => simp [record?, record]

/-! ## Members -/

/-- The member stands once. -/
def Has (ms : List (String × Json)) (name : String) (j : Json) : Prop :=
  ms.filter (fun m => m.1 == name) = [(name, j)]

/-- The member is not there. -/
def Lacks (ms : List (String × Json)) (name : String) : Prop :=
  ms.filter (fun m => m.1 == name) = []

/-- A member is read if and only if it is there exactly once. -/
theorem once?_eq_some_some_iff : once? ms name = some (some j) ↔ Has ms name j := by
  unfold once? Has
  split
  · rename_i hnone
    rw [hnone]
    exact ⟨nofun, nofun⟩
  · rename_i m hone
    have hm : m.1 = name := by
      have hmem : m ∈ ms.filter fun m => m.1 == name := by
        rw [hone]; exact List.mem_singleton_self m
      simpa using (List.mem_filter.1 hmem).2
    rw [hone, ← hm]
    obtain ⟨name', j'⟩ := m
    simp
  · rename_i hnone hmany
    exact ⟨nofun, fun h => absurd h (hmany _)⟩

/-- A member is found missing if and only if it is not there at all, so of two nothing is read. -/
theorem once?_eq_some_none_iff : once? ms name = some none ↔ Lacks ms name := by
  unfold once? Lacks
  split
  · rename_i hnone
    exact ⟨fun _ => hnone, fun _ => rfl⟩
  · rename_i m hone
    rw [hone]
    exact ⟨nofun, nofun⟩
  · rename_i hnone hmany
    exact ⟨nofun, fun h => absurd h hnone⟩

section Readers

variable {α : Type} {read? : Json → Option α} {a : α}

/-- A required member is there once and has a value that can be read. -/
theorem required?_eq_some_iff :
    required? ms name read? = some a ↔ ∃ j, Has ms name j ∧ read? j = some a := by
  simp only [← once?_eq_some_some_iff, required?]
  rcases once? ms name with _ | _ | j <;> simp

/-- An optional member may be missing, but not unreadable. -/
theorem optional?_eq_some_iff {default : α} :
    optional? ms name read? default = some a ↔
      (∃ j, Has ms name j ∧ read? j = some a) ∨ Lacks ms name ∧ a = default := by
  simp only [← once?_eq_some_some_iff, ← once?_eq_some_none_iff, optional?]
  rcases once? ms name with _ | _ | j <;> simp [eq_comm]

end Readers

/-- A member that must stand once and fit does so. -/
theorem requiredFits_iff {fits : Json → Bool} :
    requiredFits ms name fits = true ↔ ∃ j, Has ms name j ∧ fits j = true := by
  simp only [← once?_eq_some_some_iff, requiredFits]
  rcases once? ms name with _ | _ | j <;> simp

/-- The word that a value stands for is its text, or the name of its only member. -/
theorem word?_eq_some_iff {isBare : Json → Bool} {w : String} :
    j.word? isBare = some w ↔ j = .str w ∨ ∃ k, j = .obj [(some w, k)] ∧ isBare k = true := by
  unfold word?
  split
  · simp
  · rename_i name j
    split_ifs with hj
    · rw [Option.some_inj]
      constructor
      · rintro rfl
        exact Or.inr ⟨j, rfl, hj⟩
      · rintro (hw | ⟨k, hw, -⟩)
        · cases hw
        · cases hw
          rfl
    · constructor
      · exact nofun
      · rintro (hw | ⟨k, hw, hk⟩)
        · cases hw
        · cases hw
          exact absurd hk hj
  · rename_i hstr hobj
    constructor
    · exact nofun
    · rintro (rfl | ⟨k, rfl, -⟩)
      · exact absurd rfl (hstr w)
      · exact absurd rfl (hobj w k)

end SignIn.Json
