import SignIn.Proofs.Cookie.Sent
import SignIn.Session.Validator

/-!
# Cookies in any layout

A cookie that can be sent (`Entry`) has a name of visible ASCII and a value of text, with nothing in
them that separates. A list of cookies is laid out in header lines (`Line`) : cut into `Cookie`
lines at will, with spaces and tabs wherever a segment can be padded, beside segments that say
nothing, lines that cannot be read and lines of other names.

Every layout writes its cookies (`written_layout`), so reading undoes writing : the value of a name
is that of its first cookie, and a session cookie is missed exactly if this is blank or not there
(`reading_undoes_writing`).
-/

namespace SignIn

/-- In text, only spaces and tabs are blank. -/
theorem Headers.eq_space_or_tab {cs : List Char} (h : isText (String.ofList cs) = true) {c : Char}
    (hc : c ∈ cs) (hblank : Text.isBlank c = true) : c = ' ' ∨ c = '\t' := by
  rw [isText, String.toList_ofList, List.all_eq_true] at h
  have hchar := h c hc
  simp only [Text.isBlank, Bool.or_eq_true, Bool.and_eq_true, decide_eq_true_eq,
    beq_iff_eq] at hchar hblank
  have hcode : c.toNat = 32 ∨ c.toNat = 9 := by omega
  exact hcode.imp (fun h => Char.toNat_inj.1 h) fun h => Char.toNat_inj.1 h

namespace Cookie

open Text

/-! ## Layouts -/

/-- Spaces and tabs. -/
def Padding := { cs : List Char // ∀ c ∈ cs, c = ' ' ∨ c = '\t' }

/-- A name and a value that can be sent. -/
structure Entry where
  name : List Char
  value : List Char
  name_nonempty : name ≠ []
  name_plain : IsPlain name
  name_equals : '=' ∉ name
  value_text : Headers.isText (String.ofList value) = true
  value_semicolon : ';' ∉ value
  value_first : ∀ c ∈ value.head?, ¬(c = ' ' ∨ c = '\t')
  value_last : ∀ c ∈ value.getLast?, ¬(c = ' ' ∨ c = '\t')

/-- What stands between two semicolons. -/
inductive Segment where
  /-- A cookie, with padding before and behind its name and before and behind its value. -/
  | entry (e : Entry) (before behind left right : Padding)
  /-- Text without an equals sign, or nothing at all. -/
  | noise (text : List Char) (readable : Headers.isText (String.ofList text) = true)
    (semicolon : ';' ∉ text) (equals : '=' ∉ text)

/-- A header line. -/
inductive Line where
  /-- A `Cookie` line of some segments, at least one. -/
  | cookies (name : String) (own : sameIgnoringCase name "cookie" = true) (first : Segment)
    (others : List Segment)
  /-- A `Cookie` line that is no text. -/
  | unreadable (name value : String) (own : sameIgnoringCase name "cookie" = true)
    (unreadable : Headers.isText value = false)
  /-- A line of another name. -/
  | other (name value : String) (foreign : sameIgnoringCase name "cookie" = false)

namespace Segment

/-- The segment as it is written. -/
def text : Segment → List Char
  | entry e before behind left right =>
    (before.1 ++ e.name ++ behind.1) ++ '=' :: (left.1 ++ e.value ++ right.1)
  | noise text _ _ _ => text

/-- The cookie of a segment. -/
def entry? : Segment → Option Entry
  | entry e _ _ _ _ => some e
  | noise _ _ _ _ => none

end Segment

namespace Line

/-- The segments of a line. -/
def segments : Line → List Segment
  | cookies _ _ first others => first :: others
  | unreadable _ _ _ _ | other _ _ _ => []

/-- The line as it is written. -/
def header : Line → String × String
  | cookies name _ first others =>
    (name, String.ofList ([';'].intercalate ((first :: others).map Segment.text)))
  | unreadable name value _ _ => (name, value)
  | other name value _ => (name, value)

end Line

/-- The header lines of a layout. -/
def layout (lines : List Line) : Headers := lines.map Line.header

/-- The cookies that are laid out, in order. -/
def entries (lines : List Line) : List Entry :=
  lines.flatMap fun line => line.segments.filterMap Segment.entry?

/-! ## A layout writes its cookies -/

theorem Padding.isText (p : Padding) : Headers.isText (String.ofList p.1) = true := by
  rw [Headers.isText, String.toList_ofList, List.all_eq_true]
  intro c hc
  rcases p.2 c hc with rfl | rfl <;> decide

theorem Padding.not_mem (p : Padding) {c : Char} (h : ¬(c = ' ' ∨ c = '\t')) : c ∉ p.1 :=
  fun hc => h (p.2 c hc)

/-- Padding around a text is cut off. -/
theorem Padding.surrounds {core : List Char} (h : trimChars core = core) (p q : Padding) :
    Surrounds core (p.1 ++ core ++ q.1) := by
  refine ⟨h, p.1, q.1, fun c hc => ?_, rfl⟩
  have hpad : c = ' ' ∨ c = '\t' := (List.mem_append.1 hc).elim (p.2 c) (q.2 c)
  rcases hpad with rfl | rfl <;> decide

namespace Entry

variable (e : Entry)

/-- The name and the value. -/
def pair : List Char × List Char := (e.name, e.value)

/-- A value with quotation marks or without has no blanks at its ends to lose. -/
theorem trimChars_value : trimChars e.value = e.value := by
  have hblank : ∀ c ∈ e.value, ¬(c = ' ' ∨ c = '\t') → isBlank c = false := fun c hc hpad =>
    Bool.eq_false_iff.2 fun h => hpad (Headers.eq_space_or_tab e.value_text hc h)
  refine trimChars_eq_self (fun c hc => ?_) fun c hc => ?_
  · exact hblank c (List.mem_of_head? hc) (e.value_first c hc)
  · exact hblank c (List.mem_of_getLast? hc) (e.value_last c hc)

end Entry

namespace Segment

/-- A segment is a text that a header line can carry. -/
theorem isText_text (s : Segment) : Headers.isText (String.ofList s.text) = true := by
  cases s with
  | entry e before behind left right =>
    have hequals : Headers.isText (String.ofList ['=']) = true := by decide
    rw [text, ← List.singleton_append]
    simp only [Headers.isText_append, Padding.isText, e.name_plain.isText, e.value_text, hequals,
      Bool.and_self]
  | noise text readable semicolon equals => exact readable

/-- A segment has no semicolon in it, so it is read as one. -/
theorem not_mem_text (s : Segment) : ';' ∉ s.text := by
  cases s with
  | entry e before behind left right =>
    have hpad (p : Padding) : ';' ∉ p.1 := p.not_mem (by decide)
    simp [text, hpad, e.name_plain.not_mem, e.value_semicolon]
  | noise text readable semicolon equals => exact semicolon

/-- The segments say their cookies. -/
theorem says_map_text : ∀ segments : List Segment,
    Says (segments.map text) ((segments.filterMap entry?).map Entry.pair)
  | [] => .nil
  | entry e before behind left right :: segments => by
    have hequals : '=' ∉ before.1 ++ e.name ++ behind.1 := by
      have hpad (p : Padding) : '=' ∉ p.1 := p.not_mem (by decide)
      simp [hpad, e.name_equals]
    exact .cookie (before.surrounds e.name_plain.trimChars_eq_self behind)
      (left.surrounds e.trimChars_value right) hequals (says_map_text segments)
  | noise _ _ _ equals :: segments => .noise equals (says_map_text segments)

end Segment

/-- The header lines of a layout say its cookies and no others. -/
theorem written_layout :
    ∀ lines : List Line, Written (layout lines) ((entries lines).map Entry.pair)
  | [] => .nil
  | .other _ _ foreign :: lines => .other foreign (written_layout lines)
  | .unreadable _ _ _ unreadable :: lines => .unreadable unreadable (written_layout lines)
  | .cookies name own first others :: lines => by
    have hreadable : Headers.isText (Line.cookies name own first others).header.2 = true :=
      Headers.isText_intercalate (by decide) (List.forall_mem_map.2 fun s _ => s.isText_text)
    have hcut : ∀ segment ∈ (first :: others).map Segment.text, ';' ∉ segment :=
      List.forall_mem_map.2 fun s _ => s.not_mem_text
    have hwritten := Written.line own hreadable (by simp) hcut (String.toList_ofList ..)
      (Segment.says_map_text (first :: others)) (written_layout lines)
    rw [← List.map_append] at hwritten
    exact hwritten

/-- The first cookie of a name. -/
def firstOf? (cookies : List Entry) (name : String) : Option Entry :=
  cookies.find? fun e => e.name = name.toList

/-- The first pair of a name is that of the first cookie of this name. -/
theorem lookup_map_pair (cookies : List Entry) (name : String) :
    (cookies.map Entry.pair).lookup name.toList = (firstOf? cookies name).map Entry.value := by
  induction cookies with
  | nil => rfl
  | cons e cookies ih =>
    rw [List.map_cons, Entry.pair, List.lookup_cons, firstOf?, List.find?_cons, ih, firstOf?]
    by_cases hname : e.name = name.toList
    · simp [hname]
    · have hne : (name.toList == e.name) = false := by simpa using Ne.symm hname
      simp [hname, hne]

/-- In a layout the value of a name is that of its first cookie. -/
theorem value?_layout (lines : List Line) (name : String) :
    value? (layout lines) name =
      (firstOf? (entries lines) name).map fun e => String.ofList e.value := by
  rw [value?, pairs_of_written (written_layout lines), lookup_map_pair, Option.map_map]
  rfl

end Cookie

/-- Of a token that is there, nobody says that its cookie is missing. -/
theorem SessionToken.verify_ne_missingCookie (key : Bytes) (issuer : String) (now : Instant)
    (token : String) : verify key issuer now token ≠ .error .missingCookie := by
  unfold verify
  split_ifs
  · nofun
  split
  · nofun
  split_ifs <;> nofun

/-- The session cookie is missed if no value is found, or a blank one, and in no other case. -/
theorem Validator.checkRequest_eq_missingCookie_iff {v : Validator} {now : Instant}
    {headers : Headers} :
    v.checkRequest now headers = .error .missingCookie ↔
      ∀ value, Cookie.value? headers v.cookieName = some value → Text.allBlank value = true := by
  unfold checkRequest
  cases hvalue : Cookie.value? headers v.cookieName with
  | none => simp
  | some token =>
    rw [Option.filter_some]
    cases hblank : Text.allBlank token with
    | true => simp [hblank]
    | false =>
      have hcheck := SessionToken.verify_ne_missingCookie v.signingKey v.issuer now token
      simpa [hblank, checkToken] using hcheck

/-- However cookies are laid out in header lines, the value that is found under a name is that of
the first cookie of this name, and none is found when there is no such cookie. A validator says that
its cookie is missing exactly if this value is not there or blank. -/
theorem Cookie.reading_undoes_writing (lines : List Line) :
    (∀ name, value? (layout lines) name =
      (firstOf? (entries lines) name).map fun e => String.ofList e.value) ∧
    ∀ (v : Validator) (now : Instant),
      v.checkRequest now (layout lines) = .error .missingCookie ↔
        ∀ e, firstOf? (entries lines) v.cookieName = some e →
          Text.allBlank (String.ofList e.value) = true := by
  refine ⟨value?_layout lines, fun v now => ?_⟩
  rw [Validator.checkRequest_eq_missingCookie_iff, value?_layout]
  simp only [Option.map_eq_some_iff, forall_exists_index, and_imp, forall_apply_eq_imp_iff₂]

end SignIn
