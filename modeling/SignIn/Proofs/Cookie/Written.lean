import Mathlib.Data.List.DropRight
import Mathlib.Tactic.Common
import SignIn.Cookie.Header

/-!
# Cookies are read as they are written

However the blanks around a text fall, cutting them off leaves the text (`trimChars_of_surrounds`),
and a line falls into the parts that its separators hold together (`segments_intercalate`).

`Written` relates header lines to the cookies that they say : a line may also hold segments without
an equals sign, and there may be lines of other names and lines that are no text. All header lines
say some cookies (`exists_written`), and the pairs that are read are these and no others
(`written_iff`), so the value of a name is that of its first cookie (`value?_of_written`).
-/

namespace SignIn

namespace Text

/-! ## Blanks at the ends -/

theorem trimChars_eq (cs : List Char) :
    trimChars cs = (cs.dropWhile isBlank).rdropWhile isBlank := rfl

/-- Blanks at the end make no difference to what is left when they go. -/
theorem rdropWhile_append_of_blank (cs : List Char) {b : List Char}
    (h : ∀ c ∈ b, isBlank c = true) : (cs ++ b).rdropWhile isBlank = cs.rdropWhile isBlank := by
  rw [List.rdropWhile, List.reverse_append, List.dropWhile_append_of_pos (by simpa using h),
    List.rdropWhile]

/-- Nothing goes beyond the last character that is no blank. -/
theorem rdropWhile_append_cons (cs ds : List Char) {c : Char} (h : isBlank c = false) :
    (cs ++ c :: ds).rdropWhile isBlank = cs ++ c :: ds.rdropWhile isBlank := by
  rw [List.rdropWhile, List.rdropWhile, List.reverse_append, List.reverse_cons, List.append_assoc,
    List.dropWhile_append]
  by_cases hd : (ds.reverse.dropWhile isBlank).isEmpty = true
  · rw [if_pos hd, List.singleton_append, List.dropWhile_cons_of_neg (by simp [h]),
      List.isEmpty_iff.1 hd]
    simp
  · rw [if_neg hd]
    simp

/-- Nothing goes beyond the first character that is no blank. -/
theorem dropWhile_append_cons (cs ds : List Char) {c : Char} (h : isBlank c = false) :
    (cs ++ c :: ds).dropWhile isBlank = cs.dropWhile isBlank ++ c :: ds := by
  rw [List.dropWhile_append, List.dropWhile_cons_of_neg (by simp [h])]
  by_cases hcs : (cs.dropWhile isBlank).isEmpty = true
  · rw [if_pos hcs, List.isEmpty_iff.1 hcs, List.nil_append]
  · rw [if_neg hcs]

/-- Blanks are cut off in whichever order. -/
theorem dropWhile_rdropWhile : ∀ cs : List Char,
    (cs.rdropWhile isBlank).dropWhile isBlank = (cs.dropWhile isBlank).rdropWhile isBlank
  | [] => rfl
  | c :: cs => by
    cases hc : isBlank c with
    | false =>
      have hcons := rdropWhile_append_cons [] cs hc
      have hneg : ¬isBlank c = true := by simp [hc]
      rw [List.nil_append, List.nil_append] at hcons
      rw [List.dropWhile_cons_of_neg hneg, hcons, List.dropWhile_cons_of_neg hneg]
    | true =>
      rw [List.dropWhile_cons_of_pos hc, ← dropWhile_rdropWhile cs]
      by_cases hall : ∀ d ∈ cs, isBlank d = true
      · rw [List.rdropWhile_eq_nil_iff.2 hall,
          List.rdropWhile_eq_nil_iff.2 (List.forall_mem_cons.2 ⟨hc, hall⟩)]
      · simp only [not_forall] at hall
        obtain ⟨d, hd, hb⟩ := hall
        obtain ⟨l, m, rfl⟩ := List.append_of_mem hd
        have hb : isBlank d = false := by simpa using hb
        rw [← List.cons_append, rdropWhile_append_cons _ _ hb, rdropWhile_append_cons _ _ hb,
          List.cons_append, List.dropWhile_cons_of_pos hc]

/-- A text that neither begins nor ends in a blank is left as it is. -/
theorem trimChars_eq_self {cs : List Char} (hfirst : ∀ c ∈ cs.head?, isBlank c = false)
    (hlast : ∀ c ∈ cs.getLast?, isBlank c = false) : trimChars cs = cs := by
  have hdrop : ∀ {ds : List Char}, (∀ c ∈ ds.head?, isBlank c = false) →
      ds.dropWhile isBlank = ds := by
    intro ds hds
    cases ds with
    | nil => rfl
    | cons d ds => exact List.dropWhile_cons_of_neg (by simp [hds d rfl])
  rw [trimChars, hdrop hfirst, hdrop (by rwa [List.head?_reverse]), List.reverse_reverse]

theorem trimChars_dropWhile (cs : List Char) : trimChars (cs.dropWhile isBlank) = trimChars cs := by
  rw [trimChars_eq, trimChars_eq, List.dropWhile_idempotent]

theorem trimChars_rdropWhile (cs : List Char) :
    trimChars (cs.rdropWhile isBlank) = trimChars cs := by
  rw [trimChars_eq, dropWhile_rdropWhile, List.rdropWhile_idempotent, trimChars_eq]

/-- A trimmed text has no blanks at its ends to lose. -/
theorem trimChars_trimChars (cs : List Char) : trimChars (trimChars cs) = trimChars cs := by
  conv_lhs => rw [trimChars_eq cs]
  rw [trimChars_rdropWhile, trimChars_dropWhile]

theorem not_mem_trimChars {c : Char} {cs : List Char} (h : c ∉ cs) : c ∉ trimChars cs := by
  rw [trimChars_eq]
  intro hc
  exact h ((List.dropWhile_sublist _).subset ((List.rdropWhile_prefix _ _).subset hc))

/-- The text is `core` with blanks around it, and `core` has none at its ends. -/
def Surrounds (core cs : List Char) : Prop :=
  trimChars core = core ∧ ∃ b b', (∀ c ∈ b ++ b', isBlank c = true) ∧ cs = b ++ core ++ b'

/-- The core of a text is what trimming leaves of it. -/
theorem trimChars_of_surrounds {core cs : List Char} (h : Surrounds core cs) :
    trimChars cs = core := by
  obtain ⟨hcore, b, b', hblank, rfl⟩ := h
  rw [List.forall_mem_append] at hblank
  rw [trimChars_eq, ← dropWhile_rdropWhile, rdropWhile_append_of_blank _ hblank.2,
    dropWhile_rdropWhile, List.dropWhile_append_of_pos hblank.1, ← trimChars_eq, hcore]

/-- Every text is what is left of it when it is trimmed, with blanks around. -/
theorem surrounds_trimChars (cs : List Char) : Surrounds (trimChars cs) cs := by
  refine ⟨trimChars_trimChars cs, cs.takeWhile isBlank, (cs.dropWhile isBlank).rtakeWhile isBlank,
    fun c hc => ?_, ?_⟩
  · rcases List.mem_append.1 hc with hc | hc
    · exact List.mem_takeWhile_imp hc
    · exact List.mem_rtakeWhile_imp hc
  · have hright : (cs.dropWhile isBlank).rdropWhile isBlank ++
        (cs.dropWhile isBlank).rtakeWhile isBlank = cs.dropWhile isBlank := by
      rw [List.rdropWhile, List.rtakeWhile, ← List.reverse_append, List.takeWhile_append_dropWhile,
        List.reverse_reverse]
    rw [trimChars_eq, List.append_assoc, hright, List.takeWhile_append_dropWhile]

/-! ## Parts of a text -/

variable {sep : Char}

/-- A text without the separator is not cut. -/
theorem cut?_eq_none : ∀ {cs : List Char}, sep ∉ cs → cut? sep cs = none
  | [], _ => rfl
  | c :: cs, h => by
    obtain ⟨hc, hcs⟩ := not_or.1 (mt List.mem_cons.2 h)
    rw [cut?, if_neg (Ne.symm hc), cut?_eq_none hcs, Option.map_none]

theorem not_mem_of_cut?_eq_none : ∀ {cs : List Char}, cut? sep cs = none → sep ∉ cs
  | [], _ => List.not_mem_nil
  | c :: cs, h => by
    rw [cut?] at h
    split_ifs at h with hc
    rw [List.mem_cons, not_or]
    exact ⟨Ne.symm hc, not_mem_of_cut?_eq_none (Option.map_eq_none_iff.1 h)⟩

theorem segments_of_not_mem : ∀ {cs : List Char}, sep ∉ cs → segments sep cs = [cs]
  | [], _ => rfl
  | c :: cs, h => by
    obtain ⟨hc, hcs⟩ := not_or.1 (mt List.mem_cons.2 h)
    rw [segments, if_neg (Ne.symm hc), segments_of_not_mem hcs]

/-- The first segment ends at the first separator, and the rest of the text has the others. -/
theorem segments_append : ∀ {cs : List Char}, sep ∉ cs → ∀ ds : List Char,
    segments sep (cs ++ sep :: ds) = cs :: segments sep ds
  | [], _, ds => by rw [List.nil_append, segments, if_pos rfl]
  | c :: cs, h, ds => by
    obtain ⟨hc, hcs⟩ := not_or.1 (mt List.mem_cons.2 h)
    rw [List.cons_append, segments, if_neg (Ne.symm hc), segments_append hcs]

/-- A text falls into the parts that it was put together from. -/
theorem segments_intercalate : ∀ {parts : List (List Char)}, parts ≠ [] → (∀ p ∈ parts, sep ∉ p) →
    segments sep ([sep].intercalate parts) = parts
  | [], h, _ => absurd rfl h
  | [p], _, hsep => by
    rw [List.intercalate_singleton]
    exact segments_of_not_mem (hsep p List.mem_cons_self)
  | p :: q :: parts, _, hsep => by
    obtain ⟨hp, hparts⟩ := List.forall_mem_cons.1 hsep
    rw [List.intercalate_cons_cons, List.append_assoc, List.singleton_append, segments_append hp,
      segments_intercalate (List.cons_ne_nil q parts) hparts]

/-- Every text falls into parts that hold it together. -/
theorem exists_segments (sep : Char) : ∀ cs : List Char, ∃ parts : List (List Char), parts ≠ [] ∧
    (∀ p ∈ parts, sep ∉ p) ∧ cs = [sep].intercalate parts
  | [] => ⟨[[]], by simp, by simp, by simp⟩
  | c :: cs => by
    obtain ⟨parts, hne, hsep, hcs⟩ := exists_segments sep cs
    obtain ⟨p, parts, rfl⟩ := List.exists_cons_of_ne_nil hne
    by_cases hc : c = sep
    · refine ⟨[] :: p :: parts, List.cons_ne_nil _ _,
        List.forall_mem_cons.2 ⟨List.not_mem_nil, hsep⟩, ?_⟩
      rw [hc, hcs, List.intercalate_cons_cons]
      rfl
    · obtain ⟨hp, hparts⟩ := List.forall_mem_cons.1 hsep
      refine ⟨(c :: p) :: parts, List.cons_ne_nil _ _,
        List.forall_mem_cons.2 ⟨by simp [Ne.symm hc, hp], hparts⟩, ?_⟩
      rw [hcs]
      cases parts with
      | nil => rw [List.intercalate_singleton, List.intercalate_singleton]
      | cons q parts =>
        rw [List.intercalate_cons_cons, List.intercalate_cons_cons]
        rfl

end Text

namespace Cookie

open Text

/-! ## One segment -/

theorem pair?_of_not_mem {cs : List Char} (h : '=' ∉ cs) : pair? cs = none := by
  rw [pair?, cut?_eq_none (not_mem_trimChars h), Option.map_none]

/-- A segment is cut at its first equals sign, and blanks at the ends do not count. -/
theorem pair?_append {x : List Char} (h : '=' ∉ x) (y : List Char) :
    pair? (x ++ '=' :: y) = some (trimChars x, trimChars y) := by
  have hx : '=' ∉ x.dropWhile isBlank := fun hc => h ((List.dropWhile_sublist _).subset hc)
  rw [pair?, trimChars_eq, dropWhile_append_cons _ _ (by decide),
    rdropWhile_append_cons _ _ (by decide), cut?_append hx, Option.map_some]
  dsimp only
  rw [trimChars_dropWhile, trimChars_rdropWhile]

/-! ## Lines -/

/-- The segments say the cookies : each of them says one, with blanks anywhere around its name and
its value, or has no equals sign. -/
inductive Says : List (List Char) → List (List Char × List Char) → Prop
  | nil : Says [] []
  | noise {segment segments cookies} (plain : '=' ∉ segment) (rest : Says segments cookies) :
    Says (segment :: segments) cookies
  | cookie {x y name value segments cookies} (left : Surrounds name x) (right : Surrounds value y)
    (first : '=' ∉ x) (rest : Says segments cookies) :
    Says ((x ++ '=' :: y) :: segments) ((name, value) :: cookies)

/-- The cookies that segments say are the pairs that are read from them. -/
theorem Says.filterMap_pair? {segments : List (List Char)} {cookies : List (List Char × List Char)}
    (h : Says segments cookies) : segments.filterMap pair? = cookies := by
  induction h with
  | nil => rfl
  | noise plain rest ih => rw [List.filterMap_cons_none (pair?_of_not_mem plain), ih]
  | cookie left right first rest ih =>
    rw [List.filterMap_cons_some (pair?_append first _), ih, trimChars_of_surrounds left,
      trimChars_of_surrounds right]

/-- All segments say some cookies. -/
theorem exists_says : ∀ segments : List (List Char), ∃ cookies, Says segments cookies
  | [] => ⟨[], .nil⟩
  | segment :: segments => by
    obtain ⟨cookies, hrest⟩ := exists_says segments
    cases hcut : cut? '=' segment with
    | none => exact ⟨cookies, .noise (not_mem_of_cut?_eq_none hcut) hrest⟩
    | some p =>
      rw [append_of_cut? hcut]
      exact ⟨_,
        .cookie (surrounds_trimChars p.1) (surrounds_trimChars p.2) (not_mem_of_cut? hcut) hrest⟩

/-- The header lines say the cookies. A line of another name and a line that is no text say none. -/
inductive Written : Headers → List (List Char × List Char) → Prop
  | nil : Written [] []
  | other {line headers cookies} (foreign : sameIgnoringCase line.1 "cookie" = false)
    (rest : Written headers cookies) : Written (line :: headers) cookies
  | unreadable {line headers cookies} (unreadable : Headers.isText line.2 = false)
    (rest : Written headers cookies) : Written (line :: headers) cookies
  | line {name value headers segments said cookies} (own : sameIgnoringCase name "cookie" = true)
    (readable : Headers.isText value = true) (some : segments ≠ [])
    (cut : ∀ segment ∈ segments, ';' ∉ segment) (text : value.toList = [';'].intercalate segments)
    (content : Says segments said) (rest : Written headers cookies) :
    Written ((name, value) :: headers) (said ++ cookies)

variable {headers : Headers} {cookies : List (List Char × List Char)}

/-- The pairs that are read are the cookies that were written. -/
theorem pairs_of_written (h : Written headers cookies) : pairs headers = cookies := by
  induction h with
  | nil => rfl
  | other foreign rest ih =>
    rw [← ih, pairs, Headers.values, List.filter_cons_of_neg (by simp [foreign])]
    rfl
  | @unreadable line headers cookies unreadable rest ih =>
    rw [← ih]
    simp only [pairs, Headers.values, List.filter_cons]
    split_ifs <;> simp [unreadable]
  | line own readable some cut text content rest ih =>
    rw [← ih, ← content.filterMap_pair?, ← segments_intercalate some cut, ← text]
    simp only [pairs, Headers.values, List.filter_cons, own, if_true, List.map_cons, readable,
      List.flatMap_cons, List.filterMap_append]

/-- All header lines say some cookies. -/
theorem exists_written : ∀ headers : Headers, ∃ cookies, Written headers cookies
  | [] => ⟨[], .nil⟩
  | (name, value) :: headers => by
    obtain ⟨cookies, hrest⟩ := exists_written headers
    cases hown : sameIgnoringCase name "cookie" with
    | false => exact ⟨cookies, .other hown hrest⟩
    | true =>
      cases hreadable : Headers.isText value with
      | false => exact ⟨cookies, .unreadable hreadable hrest⟩
      | true =>
        obtain ⟨segments, hne, hcut, htext⟩ := exists_segments ';' value.toList
        obtain ⟨said, hsaid⟩ := exists_says segments
        exact ⟨_, .line hown hreadable hne hcut htext hsaid hrest⟩

/-- The pairs that are read are the cookies that the lines say, and no others. -/
theorem written_iff : Written headers cookies ↔ pairs headers = cookies := by
  refine ⟨pairs_of_written, ?_⟩
  rintro rfl
  obtain ⟨cookies, h⟩ := exists_written headers
  rwa [pairs_of_written h]

/-- The value of a name is that of its first cookie. -/
theorem value?_of_written {name : String} {value : List Char} {l₁ l₂ : List (List Char × List Char)}
    (h : Written headers (l₁ ++ (name.toList, value) :: l₂)) (hne : ∀ c ∈ l₁, c.1 ≠ name.toList) :
    value? headers name = some (String.ofList value) := by
  have hnone : l₁.lookup name.toList = none := by
    rw [List.lookup_eq_none_iff]
    exact fun c hc => by simpa using (hne c hc).symm
  rw [value?, pairs_of_written h, List.lookup_append, hnone, Option.none_or, List.lookup_cons_self,
    Option.map_some]

end Cookie

end SignIn
