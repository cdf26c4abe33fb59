import Mathlib.Tactic.Common
import SignIn.Json.Printer
import SignIn.Json.Reader

/-!
# JSON is read back

A value whose numbers are whole and whose strings and names are texts is plain (`IsPlain`). The
reader takes the text of a plain value for this value, whatever follows it, unless this goes on with
a number (`value?_print`) ; so a plain value is what its text says (`ofText?_toText`).

A string is read one character at a time, each as one piece (`pieces?_escape`), and a number by its
digits, which no other digit follows (`numeral?_signed`). The values are read by the recursion of
the printer, and each level takes no more steps than its text has characters.
-/

namespace SignIn.Json

/-! ## Strings -/

/-- The piece that a character is read as. -/
def pieceOf (c : Char) : Piece :=
  if c.toNat < 32 ∧ c.toNat ∉ [8, 9, 10, 12, 13] then .unit c.toNat else .char c

/-- The four digits that a control character is escaped with are read back. -/
theorem codeUnit?_hexDigit {n : Nat} (h : n < 32) :
    codeUnit? '0' '0' (hexDigit (n / 16)) (hexDigit (n % 16)) = some n := by
  have hall : ∀ n < 32, codeUnit? '0' '0' (hexDigit (n / 16)) (hexDigit (n % 16)) = some n := by
    decide
  exact hall n h

theorem pieces?_unit {a b c d : Char} {n : Nat} (h : codeUnit? a b c d = some n) (cs : Decoded) :
    pieces? (some '\\' :: some 'u' :: some a :: some b :: some c :: some d :: cs) =
      (pieces? cs).map fun p => (.unit n :: p.1, p.2) := by
  rw [pieces?, h]
  cases pieces? cs <;> rfl

/-- An escape of one letter is read as its character. -/
theorem pieces?_letter {c d : Char} (hc : c ≠ 'u') (h : letterEscape? c = some d) (cs : Decoded) :
    pieces? (some '\\' :: some c :: cs) = (pieces? cs).map fun p => (.char d :: p.1, p.2) := by
  rw [pieces?, h]
  · cases pieces? cs <;> rfl
  · exact fun _ _ _ _ _ _ hu => hc hu

/-- A character that needs no escape is read as it is. -/
theorem pieces?_char {c : Char} (hq : c ≠ '"') (hb : c ≠ '\\') (h : 32 ≤ c.toNat) (cs : Decoded) :
    pieces? (some c :: cs) = (pieces? cs).map fun p => (.char c :: p.1, p.2) := by
  rw [pieces?]
  · rw [if_neg (not_or.2 ⟨Nat.not_lt.2 h, hb⟩)]
    cases pieces? cs <;> rfl
  · exact hq
  · exact fun _ _ _ _ _ _ => hb
  · exact fun _ _ _ => hb

/-- A character is read as one piece. -/
theorem pieces?_escape (c : Char) (cs : Decoded) :
    pieces? ((escape c).map some ++ cs) = (pieces? cs).map fun p => (pieceOf c :: p.1, p.2) := by
  have hletter : ∀ {l : Char}, letterEscape? l = some c → l ≠ 'u' → pieceOf c = .char c →
      pieces? (some '\\' :: some l :: cs) = (pieces? cs).map fun p => (pieceOf c :: p.1, p.2) := by
    intro l hl hu hp
    rw [hp]
    exact pieces?_letter hu hl cs
  have hof : Char.ofNat c.toNat = c := Char.ofNat_toNat c
  unfold escape
  split_ifs with h₁ h₂ h₃ h₄ h₅ h₆ h₇ h₈
  · subst h₁
    exact hletter rfl (by decide) rfl
  · subst h₂
    exact hletter rfl (by decide) rfl
  · rw [h₃] at hof
    subst hof
    exact hletter rfl (by decide) rfl
  · rw [h₄] at hof
    subst hof
    exact hletter rfl (by decide) rfl
  · rw [h₅] at hof
    subst hof
    exact hletter rfl (by decide) rfl
  · rw [h₆] at hof
    subst hof
    exact hletter rfl (by decide) rfl
  · rw [h₇] at hof
    subst hof
    exact hletter rfl (by decide) rfl
  · rw [pieceOf, if_pos ⟨h₈, by simp [h₃, h₄, h₅, h₆, h₇]⟩]
    exact pieces?_unit (codeUnit?_hexDigit h₈) cs
  · rw [pieceOf, if_neg fun h => h₈ h.1]
    exact pieces?_char h₁ h₂ (by omega) cs

/-- The characters of a quoted string are read back, one piece for each, up to the closing mark. -/
theorem pieces?_quote : ∀ (cs : List Char) (rest : Decoded),
    pieces? ((cs.flatMap escape ++ ['"']).map some ++ rest) = some (cs.map pieceOf, rest)
  | [], rest => rfl
  | c :: cs, rest => by
    have ih := pieces?_quote cs rest
    rw [List.flatMap_cons, List.append_assoc, List.map_append, List.append_assoc, pieces?_escape,
      ih]
    rfl

/-- A code unit that is no surrogate is a character, whatever stands behind it. -/
theorem joinPieces_unit {n : Nat} (hhigh : isHigh n = false) (hlow : isLow n = false) :
    ∀ ps, joinPieces (.unit n :: ps) = (joinPieces ps).map (Char.ofNat n :: ·)
  | [] => by
    simp only [joinPieces, hhigh, hlow]
    rfl
  | .unit lo :: ps => by
    rw [joinPieces, hhigh, hlow]
    rfl
  | .char c :: ps => by
    simp only [joinPieces, hhigh, hlow]
    rfl
  | .gap :: ps => by
    simp only [joinPieces, hhigh, hlow]
    rfl

/-- The pieces of a text denote the text. -/
theorem joinPieces_pieceOf : ∀ cs : List Char, joinPieces (cs.map pieceOf) = .ok cs
  | [] => rfl
  | c :: cs => by
    have ih := joinPieces_pieceOf cs
    rw [List.map_cons]
    by_cases hc : c.toNat < 32 ∧ c.toNat ∉ [8, 9, 10, 12, 13]
    · have hhigh : isHigh c.toNat = false := by simp [isHigh]; omega
      have hlow : isLow c.toNat = false := by simp [isLow]; omega
      have hof : Char.ofNat c.toNat = c := Char.ofNat_toNat c
      rw [pieceOf, if_pos hc, joinPieces_unit hhigh hlow, ih, hof]
      rfl
    · rw [pieceOf, if_neg hc, joinPieces, ih]
      rfl

/-- A string is read back. -/
theorem string?_quote (s : String) (rest : Decoded) :
    string? ((s.toList.flatMap escape ++ ['"']).map some ++ rest) = some (.ok s, rest) := by
  rw [string?, pieces?_quote, Option.map_some]
  simp only [joinPieces_pieceOf]
  rw [Except.map, String.ofList_toList]

/-! ## Numbers -/

/-- No number goes on with what follows. -/
def Ends (rest : Decoded) : Prop :=
  ∀ c cs, rest = some c :: cs → Text.isDigit c = false ∧ c ≠ '.' ∧ c ≠ 'e' ∧ c ≠ 'E'

/-- Digits are read to the end of the number and no further. -/
theorem digits_append : ∀ {ds : List Char} {rest : Decoded}, (∀ d ∈ ds, Text.isDigit d = true) →
    Ends rest → digits (ds.map some ++ rest) = (ds, rest)
  | [], [], _, _ => rfl
  | [], none :: rest, _, _ => rfl
  | [], some c :: rest, _, he => by
    rw [List.map_nil, List.nil_append, digits, if_neg (by rw [(he c rest rfl).1]; simp)]
  | d :: ds, rest, h, he => by
    have hd := h d List.mem_cons_self
    have ih := digits_append (fun c hc => h c (List.mem_cons_of_mem _ hc)) he
    rw [List.map_cons, List.cons_append, digits, if_pos hd, ih]

theorem fraction?_of_ends : ∀ {rest : Decoded}, Ends rest → fraction? rest = some ([], rest)
  | [], _ => rfl
  | none :: rest, _ => rfl
  | some c :: rest, he => by
    rw [fraction?]
    exact fun _ hc => (he c rest rfl).2.1 (by cases hc; rfl)

theorem exponent?_of_ends : ∀ {rest : Decoded}, Ends rest → exponent? rest = some (none, rest)
  | [], _ => rfl
  | none :: rest, _ => rfl
  | some c :: rest, he => by
    obtain ⟨-, -, he, hE⟩ := he c rest rfl
    rw [exponent?]
    · exact fun _ hc => he (by cases hc; rfl)
    · exact fun _ hc => hE (by cases hc; rfl)

theorem isDigit_of_mem_digits {n : Nat} {c : Char} (h : c ∈ Decimal.digits n) :
    Text.isDigit c = true := by
  have hc : c.isDigit = true := Nat.isDigit_of_mem_toDigits (by decide) (by decide) h
  simpa [Char.isDigit, Text.isDigit, Char.le_def, UInt32.le_iff_toNat_le] using hc

theorem head?_digits : ∀ {n : Nat}, 0 < n → (Decimal.digits n).head? ≠ some '0' := by
  intro n
  induction n using Nat.strongRecOn with
  | ind n ih =>
    intro hn
    unfold Decimal.digits at ih ⊢
    rcases Nat.lt_or_ge n 10 with h | h
    · rw [Nat.toDigits_of_lt_base h]
      have hall : ∀ n < 10, 0 < n → [n.digitChar].head? ≠ some '0' := by decide
      exact hall n h hn
    · have ih := ih (n / 10) (by omega) (by omega)
      rw [Nat.toDigits_of_base_le (by decide) h]
      obtain ⟨d, ds, hds⟩ :=
        List.exists_cons_of_ne_nil (Nat.toDigits_ne_nil (n := n / 10) (b := 10))
      rw [hds] at ih ⊢
      exact ih

/-- A number is written with at least one digit. -/
theorem exists_digits_eq_cons (n : Nat) :
    ∃ d ds, Decimal.digits n = d :: ds ∧ Text.isDigit d = true := by
  obtain ⟨d, ds, hds⟩ := List.exists_cons_of_ne_nil (Nat.toDigits_ne_nil (n := n) (b := 10))
  exact ⟨d, ds, hds, isDigit_of_mem_digits (by rw [Decimal.digits, hds]; exact List.mem_cons_self)⟩

theorem value_digits (n : Nat) : Decimal.value (Decimal.digits n) = n :=
  Nat.ofDigitChars_ten_toDigits

/-- The digits of a number are read as its numeral. -/
theorem unsigned?_digits (negative : Bool) (n : Nat) {rest : Decoded} (he : Ends rest) :
    unsigned? negative ((Decimal.digits n).map some ++ rest) =
      some (⟨negative, Decimal.digits n, [], none⟩, rest) := by
  have hne : (Decimal.digits n).isEmpty = false := by
    simp [Decimal.digits]
  have hzero :
      ((Decimal.digits n).head? == some '0' && (Decimal.digits n).length != 1) = false := by
    rcases Nat.eq_zero_or_pos n with rfl | hn
    · rfl
    · rw [Bool.and_eq_false_iff]
      exact Or.inl (by simpa using head?_digits hn)
  have hsome :
      someDigits? ((Decimal.digits n).map some ++ rest) = some (Decimal.digits n, rest) := by
    rw [someDigits?, digits_append (fun _ => isDigit_of_mem_digits) he]
    simp [hne]
  rw [unsigned?, hsome]
  simp only [Option.bind_eq_bind, Option.bind_some, hzero, fraction?_of_ends he,
    exponent?_of_ends he]
  rfl

/-- The range of whole numbers. -/
def InRange (n : Int) : Prop := -9223372036854775808 ≤ n ∧ n ≤ 18446744073709551615

/-- The numeral of a whole number. -/
def numeralOf (n : Int) : Numeral := ⟨decide (n < 0), Decimal.digits n.natAbs, [], none⟩

/-- A number in range is the value of its numeral. -/
theorem ofNumeral_numeralOf {n : Int} (h : InRange n) : ofNumeral (numeralOf n) = .int n := by
  obtain ⟨hlo, hhi⟩ := h
  have hlen : (Decimal.digits n.natAbs).length ≤ 20 :=
    (Nat.length_toDigits_le_iff (by decide) (by decide)).2 (by omega)
  have hlong : ¬20 < (Decimal.digits n.natAbs).length := by omega
  have hint : (numeralOf n).int? = some n := by
    simp only [Numeral.int?, numeralOf, value_digits, hlong]
    by_cases hn : n < 0
    · rw [if_neg (by simp), if_pos (decide_eq_true hn), if_neg (by omega)]
      exact congrArg some (by omega)
    · rw [if_neg (by simp), if_neg (by simpa using hn), if_neg (by omega)]
      exact congrArg some (by omega)
  rw [ofNumeral, hint]
  rfl

/-- A number is read back from its decimal text, whatever ends it. -/
theorem numeral?_signed (n : Int) {rest : Decoded} (he : Ends rest) :
    numeral? ((Decimal.signed n).map some ++ rest) = some (numeralOf n, rest) := by
  unfold Decimal.signed numeralOf
  split_ifs with hn
  · rw [decide_eq_true hn, List.map_cons, List.cons_append, numeral?]
    exact unsigned?_digits true n.natAbs he
  · rw [decide_eq_false hn, numeral?]
    · exact unsigned?_digits false n.natAbs he
    · intro cs hcs
      obtain ⟨d, ds, hds, hd⟩ := exists_digits_eq_cons n.natAbs
      rw [hds] at hcs
      cases hcs
      exact absurd hd (by decide)

/-! ## Values -/

mutual

/-- All numbers are whole, and all strings and names are texts. -/
def IsPlain : Json → Prop
  | .null => True
  | .bool _ => True
  | .int n => InRange n
  | .real _ => False
  | .str _ => True
  | .broken _ => False
  | .arr items => ArePlain items
  | .obj members => AreMembersPlain members

def ArePlain : List Json → Prop
  | [] => True
  | j :: js => IsPlain j ∧ ArePlain js

def AreMembersPlain : List (Option String × Json) → Prop
  | [] => True
  | (name, j) :: ms => name ≠ none ∧ IsPlain j ∧ AreMembersPlain ms

end

theorem isSpace_of_isDigit {c : Char} (h : Text.isDigit c = true) : isSpace c = false := by
  cases hs : isSpace c with
  | false => rfl
  | true =>
    simp only [isSpace, Bool.or_eq_true, beq_iff_eq] at hs
    rcases hs with ((rfl | rfl) | rfl) | rfl <;> cases h

/-- The text of a value begins with a character that is no blank and closes no list. -/
theorem exists_print_eq_cons : ∀ j : Json, IsPlain j →
    ∃ c cs, print j = c :: cs ∧ isSpace c = false ∧ c ≠ ']'
  | .null, _ => ⟨_, _, rfl, rfl, by decide⟩
  | .bool true, _ => ⟨_, _, rfl, rfl, by decide⟩
  | .bool false, _ => ⟨_, _, rfl, rfl, by decide⟩
  | .int n, _ => by
    rw [print, Decimal.signed]
    split_ifs
    · exact ⟨_, _, rfl, rfl, by decide⟩
    · obtain ⟨d, ds, hds, hd⟩ := exists_digits_eq_cons n.natAbs
      refine ⟨d, ds, hds, isSpace_of_isDigit hd, ?_⟩
      rintro rfl
      cases hd
  | .str s, _ => ⟨_, _, rfl, rfl, by decide⟩
  | .arr [], _ => ⟨_, _, rfl, rfl, by decide⟩
  | .arr (j :: js), _ => ⟨_, _, rfl, rfl, by decide⟩
  | .obj [], _ => ⟨_, _, rfl, rfl, by decide⟩
  | .obj ((name, j) :: ms), _ => ⟨_, _, rfl, rfl, by decide⟩

theorem skipSpace_cons {c : Char} (h : isSpace c = false) (cs : Decoded) :
    skipSpace (some c :: cs) = some c :: cs := by
  simp [skipSpace, h]

theorem ends_cons {c : Char} (h : c = ',' ∨ c = ']' ∨ c = '\x7d') (rest : Decoded) :
    Ends (some c :: rest) := by
  rintro d cs heq
  cases heq
  rcases h with rfl | rfl | rfl <;> decide

/-! What the reader does with the first character of a value. -/

section First

variable {steps : Nat} (rest : Decoded)

/-- A quotation mark opens a string. -/
theorem value?_quote : value? (steps + 1) (some '"' :: rest) =
    (string? rest).map fun (s, rest) => (ofString s, rest) := by
  rw [value?, skipSpace_cons rfl]
  rfl

/-- A bracket opens an array, here one that is not empty. -/
theorem value?_bracket {c : Char} (hc : c ≠ ']') (hs : isSpace c = false) :
    value? (steps + 1) (some '[' :: some c :: rest) =
      (items? steps (some c :: rest)).map fun (js, rest) => (.arr js, rest) := by
  rw [value?, skipSpace_cons rfl]
  simp only [skipSpace_cons hs]
  split
  · rename_i heq
    cases heq
    exact absurd rfl hc
  · rfl

/-- A brace opens an object, here one that is not empty. -/
theorem value?_brace {c : Char} (hc : c ≠ '\x7d') (hs : isSpace c = false) :
    value? (steps + 1) (some '\x7b' :: some c :: rest) =
      (members? steps (some c :: rest)).map fun (ms, rest) => (.obj ms, rest) := by
  rw [value?, skipSpace_cons rfl]
  simp only [skipSpace_cons hs]
  split
  · rename_i heq
    cases heq
    exact absurd rfl hc
  · rfl

/-- A sign or a digit opens a number. -/
theorem value?_numeral {c : Char} (hc : c = '-' ∨ Text.isDigit c = true) :
    value? (steps + 1) (some c :: rest) =
      (numeral? (some c :: rest)).map fun (n, rest) => (ofNumeral n, rest) := by
  have hs : isSpace c = false := hc.elim (fun h => h ▸ rfl) isSpace_of_isDigit
  have hne : ∀ d ∈ ['n', 't', 'f', '"', '[', '\x7b'], c ≠ d := by
    rintro d hd rfl
    simp only [List.mem_cons, List.not_mem_nil, or_false] at hd
    rcases hd with rfl | rfl | rfl | rfl | rfl | rfl <;> exact absurd hc (by decide)
  rw [value?, skipSpace_cons hs]
  split
  all_goals first
    | rfl
    | rename_i heq
      cases heq
      exact absurd rfl (hne _ (by simp))

end First

/-- What follows a value in a list. -/
theorem ends_printItems (js : List Json) (rest : Decoded) :
    Ends ((printItems js).map some ++ rest) := by
  cases js <;> exact ends_cons (by decide) _

/-- What follows a value in an object. -/
theorem ends_printMembers (ms : List (Option String × Json)) (rest : Decoded) :
    Ends ((printMembers ms).map some ++ rest) := by
  rcases ms with _ | ⟨⟨name, j⟩, ms⟩ <;> exact ends_cons (by decide) _

theorem length_printItems_pos : ∀ js : List Json, 0 < (printItems js).length
  | [] => Nat.one_pos
  | _ :: _ => Nat.succ_pos _

/-- The text of a number opens with its sign or a digit, and with nothing else that opens a
value. -/
theorem exists_signed_eq_cons (n : Int) :
    ∃ c cs, Decimal.signed n = c :: cs ∧ (c = '-' ∨ Text.isDigit c = true) := by
  rw [Decimal.signed]
  split_ifs
  · exact ⟨_, _, rfl, Or.inl rfl⟩
  · obtain ⟨d, ds, hds, hd⟩ := exists_digits_eq_cons n.natAbs
    exact ⟨d, ds, hds, Or.inr hd⟩

theorem print_object (s : String) (j : Json) (ms : List (Option String × Json)) :
    print (.obj ((some s, j) :: ms)) =
      '\x7b' :: (quote s ++ (':' :: print j ++ printMembers ms)) := by
  rw [print, printName, List.cons_append, List.cons_append, List.append_assoc]

theorem printMembers_cons (s : String) (j : Json) (ms : List (Option String × Json)) :
    printMembers ((some s, j) :: ms) =
      ',' :: (quote s ++ (':' :: print j ++ printMembers ms)) := by
  rw [printMembers, printName, List.cons_append, List.cons_append, List.append_assoc]

section Members

variable {steps : Nat} {j : Json} {cs rest : Decoded} (s : String)

/-- The last member of an object. -/
theorem members?_last (hj : value? steps cs = some (j, some '\x7d' :: rest)) :
    members? (steps + 1) ((quote s).map some ++ some ':' :: cs) = some ([(some s, j)], rest) := by
  rw [quote, List.cons_append, List.map_cons, List.cons_append, members?, skipSpace_cons rfl]
  simp only [string?_quote, Option.bind_eq_bind, Option.bind_some,
    skipSpace_cons (rfl : isSpace ':' = false), hj, skipSpace_cons (rfl : isSpace '\x7d' = false)]
  rfl

/-- A member with others behind it. -/
theorem members?_next {ms : List (Option String × Json)} {ds : Decoded}
    (hj : value? steps cs = some (j, some ',' :: ds)) (hms : members? steps ds = some (ms, rest)) :
    members? (steps + 1) ((quote s).map some ++ some ':' :: cs) =
      some ((some s, j) :: ms, rest) := by
  rw [quote, List.cons_append, List.map_cons, List.cons_append, members?, skipSpace_cons rfl]
  simp only [string?_quote, Option.bind_eq_bind, Option.bind_some,
    skipSpace_cons (rfl : isSpace ':' = false), hj, skipSpace_cons (rfl : isSpace ',' = false), hms]
  rfl

end Members

mutual

/-- The text of a value is read as the value. -/
theorem value?_print : ∀ (j : Json), IsPlain j → ∀ {steps : Nat} {rest : Decoded},
    (print j).length < steps → Ends rest →
      value? steps ((print j).map some ++ rest) = some (j, rest)
  | _, _, 0, _, hlen, _ => absurd hlen (Nat.not_lt_zero _)
  | .null, _, steps + 1, rest, _, _ => by
    rw [print, value?]
    rfl
  | .bool true, _, steps + 1, rest, _, _ => by
    rw [print, value?]
    rfl
  | .bool false, _, steps + 1, rest, _, _ => by
    rw [print, value?]
    rfl
  | .int n, h, steps + 1, rest, _, he => by
    have hread := numeral?_signed n he
    obtain ⟨c, cs, hcs, hc⟩ := exists_signed_eq_cons n
    rw [print]
    rw [hcs, List.map_cons, List.cons_append] at hread ⊢
    rw [value?_numeral _ hc, hread]
    exact congrArg (fun j => some (j, rest)) (ofNumeral_numeralOf h)
  | .str s, _, steps + 1, rest, _, _ => by
    rw [print, quote, List.cons_append, List.map_cons, List.cons_append, value?_quote,
      string?_quote]
    rfl
  | .arr [], _, steps + 1, rest, _, _ => by
    rw [print, value?]
    rfl
  | .arr (j :: js), ⟨hj, hjs⟩, steps + 1, rest, hlen, _ => by
    rw [print, List.cons_append] at hlen ⊢
    have hread := items?_print j js hj hjs rest (Nat.lt_of_succ_lt_succ hlen)
    obtain ⟨c, cs, hcs, hs, hc⟩ := exists_print_eq_cons j hj
    rw [hcs] at hread ⊢
    rw [List.map_cons, List.cons_append]
    exact (value?_bracket _ hc hs).trans (congrArg _ hread)
  | .obj [], _, steps + 1, rest, _, _ => by
    rw [print, value?]
    rfl
  | .obj ((none, j) :: ms), h, steps + 1, rest, hlen, _ => absurd rfl h.1
  | .obj ((some s, j) :: ms), ⟨_, hj, hms⟩, steps + 1, rest, hlen, _ => by
    rw [print_object] at hlen ⊢
    have hread := members?_print s j ms hj hms rest (Nat.lt_of_succ_lt_succ hlen)
    exact (value?_brace _ (by decide) rfl).trans (congrArg _ hread)

/-- The items of an array are read back, with as many steps as there are characters. It is proved
together with the same of values and of members, by recursion along the value. -/
theorem items?_print : ∀ (j : Json) (js : List Json), IsPlain j → ArePlain js →
    ∀ {steps : Nat} (rest : Decoded), (print j ++ printItems js).length < steps →
      items? steps ((print j ++ printItems js).map some ++ rest) = some (j :: js, rest)
  | _, _, _, _, 0, _, hlen => absurd hlen (Nat.not_lt_zero _)
  | j, [], hj, _, steps + 1, rest, hlen => by
    rw [List.length_append] at hlen
    have hpos := length_printItems_pos []
    have hread := value?_print j hj (by omega : _ < steps) (ends_printItems [] rest)
    rw [List.map_append, List.append_assoc, items?, hread]
    rfl
  | j, j' :: js, hj, hjs, steps + 1, rest, hlen => by
    rw [List.length_append, printItems, List.cons_append, List.length_cons] at hlen
    have hread := value?_print j hj (by omega : _ < steps) (ends_printItems (j' :: js) rest)
    have ih := items?_print j' js hjs.1 hjs.2 rest (by omega : _ < steps)
    rw [List.map_append, List.append_assoc, items?, hread, Option.bind_eq_bind, Option.bind_some]
    rw [printItems, List.cons_append, List.map_cons, List.cons_append]
    simp only [skipSpace_cons (rfl : isSpace ',' = false), ih]
    rfl

/-- The members of an object are read back. -/
theorem members?_print : ∀ (s : String) (j : Json) (ms : List (Option String × Json)),
    IsPlain j → AreMembersPlain ms → ∀ {steps : Nat} (rest : Decoded),
      (quote s ++ (':' :: print j ++ printMembers ms)).length < steps →
      members? steps ((quote s ++ (':' :: print j ++ printMembers ms)).map some ++ rest) =
        some ((some s, j) :: ms, rest)
  | _, _, _, _, _, 0, _, hlen => absurd hlen (Nat.not_lt_zero _)
  | s, j, [], hj, _, steps + 1, rest, hlen => by
    rw [List.length_append, List.cons_append, List.length_cons, List.length_append] at hlen
    have hread := value?_print j hj (by omega : _ < steps) (ends_printMembers [] rest)
    rw [List.map_append, List.append_assoc, List.cons_append, List.map_cons, List.map_append,
      List.cons_append, List.append_assoc]
    exact members?_last s hread
  | _, _, (none, _) :: _, _, hms, _, _, _ => absurd rfl hms.1
  | s, j, (some s', j') :: ms, hj, ⟨_, hj', hms⟩, steps + 1, rest, hlen => by
    rw [List.length_append, List.cons_append, List.length_cons, List.length_append,
      printMembers_cons, List.length_cons] at hlen
    have hread := value?_print j hj (by omega : _ < steps)
      (ends_printMembers ((some s', j') :: ms) rest)
    have ih := members?_print s' j' ms hj' hms rest (by omega : _ < steps)
    rw [printMembers_cons] at hread ⊢
    rw [List.map_append, List.append_assoc, List.cons_append, List.map_cons, List.map_append,
      List.cons_append, List.append_assoc]
    exact members?_next s hread ih

end

/-! ## Whole texts -/

/-- A plain value is what its text says. -/
theorem ofText?_toText {j : Json} (h : IsPlain j) : ofText? j.toText = some j := by
  have hnil : Ends [] := fun _ _ he => by cases he
  have hread := value?_print j h (Nat.lt_succ_self _) hnil
  rw [List.append_nil] at hread
  rw [ofText?, toText, String.toList_ofList, parse?, List.length_map, hread]
  rfl

theorem arePlain_strings : ∀ ss : List String, ArePlain (ss.map .str)
  | [] => trivial
  | _ :: ss => ⟨trivial, arePlain_strings ss⟩

/-- A list of strings is plain. -/
theorem isPlain_strings (ss : List String) : IsPlain (.strings ss) := arePlain_strings ss

theorem areMembersPlain_record : ∀ {ms : List (String × Json)}, (∀ m ∈ ms, IsPlain m.2) →
    AreMembersPlain (ms.map fun m => (some m.1, m.2))
  | [], _ => trivial
  | m :: ms, h => by
    refine ⟨nofun, h m List.mem_cons_self, ?_⟩
    exact areMembersPlain_record fun m hm => h m (List.mem_cons_of_mem _ hm)

/-- A record is plain when its values are. -/
theorem isPlain_record {ms : List (String × Json)} (h : ∀ m ∈ ms, IsPlain m.2) :
    IsPlain (.record ms) := areMembersPlain_record h

/-- The strings of a list. -/
theorem texts?_strings : ∀ ss : List String, texts? (.strings ss) = some ss
  | [] => rfl
  | s :: ss => by
    have ih : (ss.map Json.str).mapM text? = some ss := texts?_strings ss
    rw [strings, texts?, List.map_cons, List.mapM_cons, ih]
    rfl

/-- The members of a record. -/
theorem record?_record : ∀ ms : List (String × Json), record? (.record ms) = some ms
  | [] => rfl
  | (name, j) :: ms => by
    have ih : (ms.map fun m => (some m.1, m.2)).mapM
        (fun m => m.1.map fun name => (name, m.2)) = some ms := record?_record ms
    rw [record, record?, List.map_cons, List.mapM_cons, ih]
    rfl

end SignIn.Json
