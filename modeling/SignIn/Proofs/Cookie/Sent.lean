import Mathlib.Data.List.Permutation
import SignIn.Cookie.Set
import SignIn.Proofs.Cookie.Written

/-!
# Cookies that were set are sent back

The text that sets a cookie begins with its name and its value, and a browser sends these two back.
They are all of the text up to its first semicolon when neither holds one (`upTo_set`).

A cookie is found just where the header lines carry it (`carries_iff`). No header line carries a
cookie of a name that holds a reserved character (`isName_of_carries`). Cookies of other names and
plain values, in one `Cookie` line of these alone, are all carried (`carries_line`), and so two of
them are found when they are sent back, in either order (`value?_of_sentBack`).
-/

namespace SignIn

namespace Text

/-- The part before the first separator is found whatever follows it. -/
theorem upTo_append {sep : Char} {cs : List Char} (h : sep ∉ cs) (ds : List Char) :
    upTo sep (cs ++ sep :: ds) = cs := by
  have hcs : ∀ c ∈ cs, decide (c ≠ sep) = true := fun c hc =>
    decide_eq_true fun he => h (he ▸ hc)
  rw [upTo, List.takeWhile_append_of_pos hcs, List.takeWhile_cons_of_neg (by simp), List.append_nil]

theorem trimChars_of_trim {s : String} (h : trim s = s) : trimChars s.toList = s.toList := by
  conv_rhs => rw [← h]
  rw [trim, String.toList_ofList]

/-- The core has no characters of its own. -/
theorem Surrounds.subset {core cs : List Char} (h : Surrounds core cs) : core ⊆ cs := by
  obtain ⟨-, b, b', -, rfl⟩ := h
  exact List.subset_append_of_subset_left _ (List.subset_append_right _ _)

/-- A part stands in the text that the parts were put together to. -/
theorem infix_intercalate {sep : List Char} :
    ∀ {parts : List (List Char)} {p : List Char}, p ∈ parts → p <:+: sep.intercalate parts
  | [q], p, h => by
    rw [List.intercalate_singleton]
    exact List.mem_singleton.1 h ▸ List.infix_refl p
  | q :: r :: parts, p, h => by
    rw [List.intercalate_cons_cons]
    rcases List.mem_cons.1 h with rfl | h
    · rw [List.append_assoc]
      exact (List.prefix_append _ _).isInfix
    · exact (infix_intercalate h).trans (List.suffix_append _ _).isInfix

theorem intercalate_append (sep front p : List Char) (parts : List (List Char)) :
    sep.intercalate ((front ++ p) :: parts) = front ++ sep.intercalate (p :: parts) := by
  cases parts with
  | nil => rw [List.intercalate_singleton, List.intercalate_singleton]
  | cons q parts => simp only [List.intercalate_cons_cons, List.append_assoc]

/-- Behind a separator, what follows it may as well belong to the next part. -/
theorem intercalate_blank (p : List Char) (parts : List (List Char)) :
    [';', ' '].intercalate (p :: parts) = [';'].intercalate (p :: parts.map (' ' :: ·)) := by
  induction parts generalizing p with
  | nil => rfl
  | cons q parts ih =>
    have hfront := intercalate_append [';'] [' '] q (parts.map (' ' :: ·))
    rw [List.intercalate_cons_cons, ih, List.map_cons, List.intercalate_cons_cons]
    rw [List.singleton_append] at hfront
    rw [hfront]
    simp

end Text

namespace Headers

theorem values_singleton (name value : String) : values [(name, value)] name = [value] := by
  simp [values, Text.sameIgnoringCase]

theorem isText_append (cs ds : List Char) : isText (String.ofList (cs ++ ds)) =
    (isText (String.ofList cs) && isText (String.ofList ds)) := by
  simp only [isText, String.toList_ofList, List.all_append]

/-- Whether a header line can carry a text depends on its characters alone. -/
theorem isText_of_subset {cs ds : List Char} (h : cs ⊆ ds) (hd : isText (String.ofList ds) = true) :
    isText (String.ofList cs) = true := by
  rw [isText, String.toList_ofList, List.all_eq_true] at hd ⊢
  exact fun c hc => hd c (h hc)

/-- Text is put together from text. -/
theorem isText_intercalate {sep : List Char} (hsep : isText (String.ofList sep) = true) :
    ∀ {parts : List (List Char)}, (∀ p ∈ parts, isText (String.ofList p) = true) →
      isText (String.ofList (sep.intercalate parts)) = true
  | [], _ => rfl
  | [p], h => by
    rw [List.intercalate_singleton]
    exact h p List.mem_cons_self
  | p :: q :: parts, h => by
    obtain ⟨hp, hparts⟩ := List.forall_mem_cons.1 h
    rw [List.intercalate_cons_cons, isText_append, isText_append, hp, hsep,
      isText_intercalate hsep hparts]
    rfl

end Headers

namespace Cookie

open Text

/-- Visible ASCII without a semicolon. -/
def IsPlain (cs : List Char) : Prop := ∀ c ∈ cs, 33 ≤ c.toNat ∧ c.toNat ≤ 126 ∧ c ≠ ';'

instance (cs : List Char) : Decidable (IsPlain cs) :=
  List.decidableBAll _ cs

variable {cs name value : List Char}

theorem IsPlain.not_mem (h : IsPlain cs) : ';' ∉ cs := fun hc => (h _ hc).2.2 rfl

theorem IsPlain.isBlank_eq_false (h : IsPlain cs) {c : Char} (hc : c ∈ cs) : isBlank c = false := by
  obtain ⟨hlo, hhi, -⟩ := h c hc
  simp only [isBlank, Bool.or_eq_false_iff, Bool.and_eq_false_iff, decide_eq_false_iff_not,
    beq_eq_false_iff_ne]
  omega

/-- Nothing plain is cut off. -/
theorem IsPlain.trimChars_eq_self (h : IsPlain cs) : trimChars cs = cs :=
  Text.trimChars_eq_self (fun _ hc => h.isBlank_eq_false (List.mem_of_mem_head? hc)) fun _ hc =>
    h.isBlank_eq_false (List.mem_of_mem_getLast? hc)

/-- A plain value has no blanks at its ends. -/
theorem IsPlain.surrounds (h : IsPlain cs) : Surrounds cs cs :=
  ⟨h.trimChars_eq_self, [], [], by simp, by simp⟩

/-- A header line can carry a plain value. -/
theorem IsPlain.isText (h : IsPlain cs) : Headers.isText (String.ofList cs) = true := by
  rw [Headers.isText, String.toList_ofList, List.all_eq_true]
  intro c hc
  obtain ⟨hlo, hhi, -⟩ := h c hc
  simp only [Bool.or_eq_true, Bool.and_eq_true, decide_eq_true_eq]
  exact Or.inl ⟨by omega, hhi⟩

/-- The text that sets a cookie begins with the name and the value. -/
theorem exists_set_eq (settings : Settings) (name value path : String) (expires now : Instant) :
    ∃ rest, (set settings name value path expires now).toList =
      (name.toList ++ '=' :: value.toList) ++ ';' :: rest := by
  refine ⟨?rest, ?text⟩
  case text =>
    simp only [set, compose, String.toList_append, List.append_assoc]
    rfl

/-- The first part of a cookie is its name and its value. -/
theorem upTo_set {name value : String} (hname : ';' ∉ name.toList) (hvalue : ';' ∉ value.toList)
    (settings : Settings) (path : String) (expires now : Instant) :
    upTo ';' (set settings name value path expires now).toList =
      name.toList ++ '=' :: value.toList := by
  obtain ⟨rest, hrest⟩ := exists_set_eq settings name value path expires now
  rw [hrest, upTo_append (by simp [hname, hvalue])]

/-! ## The first cookie of its name -/

/-- The header lines say the cookie, and none of its name before it. -/
def Carries (headers : Headers) (name : String) (value : List Char) : Prop :=
  ∃ l₁ l₂, Written headers (l₁ ++ (name.toList, value) :: l₂) ∧ ∀ c ∈ l₁, c.1 ≠ name.toList

/-- A cookie is found if and only if the header lines carry it. -/
theorem carries_iff {headers : Headers} {name : String} :
    Carries headers name value ↔ value? headers name = some (String.ofList value) := by
  constructor
  · rintro ⟨l₁, l₂, hwritten, hne⟩
    exact value?_of_written hwritten hne
  · intro h
    obtain ⟨v, hv, heq⟩ := Option.map_eq_some_iff.1 h
    obtain rfl : v = value := String.ofList_injective heq
    obtain ⟨l₁, l₂, hpairs, hne⟩ := List.lookup_eq_some_iff.1 hv
    exact ⟨l₁, l₂, written_iff.2 hpairs, fun c hc => (bne_iff_ne.1 (hne c hc)).symm⟩

/-! ## Names -/

/-- Visible ASCII, spaces and tabs without a semicolon and without an equals sign. -/
def IsName (cs : List Char) : Prop :=
  Headers.isText (String.ofList cs) = true ∧ ';' ∉ cs ∧ '=' ∉ cs

instance (cs : List Char) : Decidable (IsName cs) :=
  inferInstanceAs (Decidable (_ ∧ _ ∧ _))

theorem IsPlain.isName (h : IsPlain cs) (hequals : '=' ∉ cs) : IsName cs :=
  ⟨h.isText, h.not_mem, hequals⟩

/-- What is said is said by a segment. -/
theorem Says.exists_segment {segments : List (List Char)} {cookies : List (List Char × List Char)}
    (h : Says segments cookies) (hc : (name, value) ∈ cookies) :
    ∃ x y, x ++ '=' :: y ∈ segments ∧ Surrounds name x ∧ '=' ∉ x := by
  induction h with
  | nil => cases hc
  | noise plain rest ih =>
    obtain ⟨x, y, hxy, hx⟩ := ih hc
    exact ⟨x, y, List.mem_cons_of_mem _ hxy, hx⟩
  | cookie left right first rest ih =>
    rcases List.mem_cons.1 hc with heq | hc
    · cases heq
      exact ⟨_, _, List.mem_cons_self, left, first⟩
    · obtain ⟨x, y, hxy, hx⟩ := ih hc
      exact ⟨x, y, List.mem_cons_of_mem _ hxy, hx⟩

/-- Header lines say no cookie under anything but a name. -/
theorem Written.isName {headers : Headers} {cookies : List (List Char × List Char)}
    (h : Written headers cookies) (hc : (name, value) ∈ cookies) : IsName name := by
  induction h with
  | nil => cases hc
  | other foreign rest ih => exact ih hc
  | unreadable unreadable rest ih => exact ih hc
  | @line _ text headers segments said cookies own readable some cut hsegments content rest ih =>
    rcases List.mem_append.1 hc with hc | hc
    · obtain ⟨x, y, hsegment, hx, hequals⟩ := content.exists_segment hc
      have hname : name ⊆ x ++ '=' :: y := List.subset_append_of_subset_left _ hx.subset
      have htext : Headers.isText (String.ofList ([';'].intercalate segments)) = true := by
        rw [← hsegments, String.ofList_toList]
        exact readable
      exact ⟨Headers.isText_of_subset
        (List.Subset.trans hname (infix_intercalate hsegment).subset) htext,
        fun h => cut _ hsegment (hname h), fun h => hequals (hx.subset h)⟩
    · exact ih hc

/-- A cookie that header lines carry has a name without separators. -/
theorem isName_of_carries {headers : Headers} {name : String} (h : Carries headers name value) :
    IsName name.toList := by
  obtain ⟨l₁, l₂, hwritten, -⟩ := h
  exact hwritten.isName (List.mem_append_right l₁ List.mem_cons_self)

/-! ## Several cookies in one line -/

/-- A cookie that survives the way back : its name is one and has no blanks at its ends, and its
value is plain. -/
structure Sendable (cookie : List Char × List Char) : Prop where
  name : IsName cookie.1
  trimmed : trimChars cookie.1 = cookie.1
  value : IsPlain cookie.2

/-- The part of a line that says a cookie. -/
def said (cookie : List Char × List Char) : List Char := cookie.1 ++ '=' :: cookie.2

/-- The line that holds the parts. -/
def line (parts : List (List Char)) : String := String.ofList ([';', ' '].intercalate parts)

variable {jar : List (List Char × List Char)}

theorem Sendable.surrounds {c : List Char × List Char} (h : Sendable c) : Surrounds c.1 c.1 :=
  ⟨h.trimmed, [], [], by simp, by simp⟩

theorem Sendable.surrounds_blank {c : List Char × List Char} (h : Sendable c) :
    Surrounds c.1 (' ' :: c.1) :=
  ⟨h.trimmed, [' '], [], List.forall_mem_singleton.2 (by decide), by simp⟩

/-- A cookie that can be sent is one segment. -/
theorem Sendable.not_mem_said {c : List Char × List Char} (h : Sendable c) : ';' ∉ said c := by
  simp [said, h.name.2.1, h.value.not_mem]

/-- A header line can carry it. -/
theorem Sendable.isText_said {c : List Char × List Char} (h : Sendable c) :
    Headers.isText (String.ofList (said c)) = true := by
  have hequals : Headers.isText (String.ofList ['=']) = true := by decide
  rw [said, ← List.singleton_append, Headers.isText_append, Headers.isText_append, h.name.1,
    hequals, h.value.isText]
  rfl

/-- The cookies of a jar are said by the segments that a client writes for them. -/
theorem says_of_sendable : ∀ {jar : List (List Char × List Char)}, (∀ c ∈ jar, Sendable c) →
    Says (jar.map fun c => ' ' :: said c) jar
  | [], _ => .nil
  | c :: jar, h => by
    obtain ⟨hc, hjar⟩ := List.forall_mem_cons.1 h
    have hequals : '=' ∉ ' ' :: c.1 := by simp [hc.name.2.2]
    exact .cookie hc.surrounds_blank hc.value.surrounds hequals (says_of_sendable hjar)

/-- Cookies that survive are written by the line that says them. -/
theorem written_line (hne : jar ≠ []) (h : ∀ c ∈ jar, Sendable c) :
    Written [("cookie", line (jar.map said))] jar := by
  obtain ⟨c, jar, rfl⟩ := List.exists_cons_of_ne_nil hne
  obtain ⟨hc, hjar⟩ := List.forall_mem_cons.1 h
  -- The blank behind a semicolon belongs to the segment that follows it.
  have htext : (line ((c :: jar).map said)).toList =
      [';'].intercalate (said c :: jar.map fun c => ' ' :: said c) := by
    rw [line, String.toList_ofList, List.map_cons, intercalate_blank, List.map_map]
    rfl
  have hcut : ∀ segment ∈ said c :: jar.map (fun c => ' ' :: said c), ';' ∉ segment := by
    refine List.forall_mem_cons.2 ⟨hc.not_mem_said, List.forall_mem_map.2 fun d hd => ?_⟩
    simp [(hjar d hd).not_mem_said]
  have hsays : Says (said c :: jar.map fun c => ' ' :: said c) (c :: jar) :=
    .cookie hc.surrounds hc.value.surrounds hc.name.2.2 (says_of_sendable hjar)
  have hreadable : Headers.isText (line ((c :: jar).map said)) = true :=
    Headers.isText_intercalate (by decide) (List.forall_mem_map.2 fun d hd => (h d hd).isText_said)
  simpa using Written.line (by decide) hreadable (List.cons_ne_nil _ _) hcut htext hsays .nil

/-- Cookies of different names all survive. -/
theorem carries_line (h : ∀ c ∈ jar, Sendable c) (hnames : (jar.map Prod.fst).Nodup)
    {name : String} (hc : (name.toList, value) ∈ jar) :
    Carries [("cookie", line (jar.map said))] name value := by
  have hwritten := written_line (List.ne_nil_of_mem hc) h
  obtain ⟨l₁, l₂, rfl⟩ := List.append_of_mem hc
  refine ⟨l₁, l₂, hwritten, fun c hc' heq => ?_⟩
  rw [List.map_append, List.map_cons, List.nodup_append] at hnames
  exact hnames.2.2 _ (List.mem_map_of_mem hc') _ List.mem_cons_self heq

/-- A line of one plain name and one plain value carries this cookie. -/
theorem carries_single {name : String} (hname : IsPlain name.toList) (hequals : '=' ∉ name.toList)
    (hvalue : IsPlain value) :
    Carries [("cookie", String.ofList (name.toList ++ '=' :: value))] name value := by
  have hsendable : ∀ c ∈ [(name.toList, value)], Sendable c :=
    List.forall_mem_singleton.2 ⟨hname.isName hequals, hname.trimChars_eq_self, hvalue⟩
  have hcarries := carries_line hsendable (List.pairwise_singleton _ _) List.mem_cons_self
  rwa [line, List.map_singleton, List.intercalate_singleton] at hcarries

/-! ## Two cookies that are sent back -/

/-- The line in which a browser sends back what it was told to set : of each text, all up to its
first semicolon. -/
def sentBack (texts : List String) : String :=
  line (texts.map fun text => Text.upTo ';' text.toList)

/-- Only the `Cookie` lines say cookies. -/
theorem value?_congr {headers headers' : Headers}
    (h : headers.values "cookie" = headers'.values "cookie") (name : String) :
    value? headers name = value? headers' name := by
  simp only [value?, pairs, h]

/-- Cookies of different names are all found in the line that says them. -/
theorem value?_of_line {headers : Headers} {jar : List (List Char × List Char)}
    (h : ∀ c ∈ jar, Sendable c) (hnames : (jar.map Prod.fst).Nodup)
    (hline : headers.values "cookie" = [line (jar.map said)]) {name value : String}
    (hc : (name.toList, value.toList) ∈ jar) : value? headers name = some value := by
  have hvalues := hline.trans (Headers.values_singleton "cookie" (line (jar.map said))).symm
  rw [value?_congr hvalues, carries_iff.1 (carries_line h hnames hc), String.ofList_toList]

/-- Two cookies of different names are both found when they are sent back, in either order. -/
theorem value?_of_sentBack {headers : Headers} {texts : List String}
    {text name value text' name' value' : String}
    (hpart : Text.upTo ';' text.toList = said (name.toList, value.toList))
    (hpart' : Text.upTo ';' text'.toList = said (name'.toList, value'.toList))
    (h : Sendable (name.toList, value.toList)) (h' : Sendable (name'.toList, value'.toList))
    (hne : name ≠ name') (hperm : texts.Perm [text, text'])
    (hline : headers.values "cookie" = [sentBack texts]) :
    value? headers name = some value ∧ value? headers name' = some value' := by
  obtain ⟨jar, hjar, hsent⟩ : ∃ jar : List (List Char × List Char),
      jar.Perm [(name.toList, value.toList), (name'.toList, value'.toList)] ∧
      sentBack texts = line (jar.map said) := by
    rcases List.perm_pair.1 hperm with rfl | rfl
    · refine ⟨_, .refl _, ?_⟩
      rw [sentBack, List.map_cons, List.map_singleton, hpart, hpart']
      rfl
    · refine ⟨_, .swap _ _ [], ?_⟩
      rw [sentBack, List.map_cons, List.map_singleton, hpart, hpart']
      rfl
  have hsendable : ∀ c ∈ jar, Sendable c := by
    intro c hc
    rcases List.mem_pair.1 (hjar.mem_iff.1 hc) with rfl | rfl
    · exact h
    · exact h'
  have hnames : (jar.map Prod.fst).Nodup := by
    rw [(hjar.map Prod.fst).nodup_iff]
    simpa [String.toList_inj] using hne
  rw [hsent] at hline
  exact ⟨value?_of_line hsendable hnames hline (hjar.mem_iff.2 (by simp)),
    value?_of_line hsendable hnames hline (hjar.mem_iff.2 (by simp))⟩

theorem isName_of_value? {headers : Headers} {name value : String}
    (h : value? headers name = some value) : IsName name.toList :=
  isName_of_carries (carries_iff.2 (h.trans (by rw [String.ofList_toList])))

end Cookie

end SignIn
