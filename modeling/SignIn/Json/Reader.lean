import SignIn.Json.Basic
import SignIn.Text.Utf8

/-!
# Reading JSON

A strict reader of RFC 8259: no byte order mark, no trailing comma, no raw control character in
a string. Each reader takes the characters from its position on and returns what it read with
the characters that follow. `parse?` wants a value and then blanks only; `first?` takes the first
complete value and lets anything follow. A byte that belongs to no character may stand in a
string, which is then broken, and nowhere else.

Strings are read as pieces, a character, a code unit of an escape or such a byte, and joined
afterwards, a high surrogate with the low one behind it. A surrogate without its partner shows
where it stands, a high one at the character behind it; the bytes are looked at last, behind the
closing quote.
-/

namespace SignIn.Json

/-- The blanks between tokens. -/
def isSpace (c : Char) : Bool := c == ' ' || c == '\t' || c == '\n' || c == '\r'

/-- Skips blanks. -/
def skipSpace (cs : Decoded) : Decoded := cs.dropWhile fun c => c.any isSpace

/-! ## Strings -/

/-- A part of a string as written. -/
inductive Piece where
  | char (c : Char)
  /-- The code unit of a `\u` escape. -/
  | unit (n : Nat)
  /-- A byte that belongs to no character. -/
  | gap

/-- The value of a hexadecimal digit of either case. -/
def hexValue? (c : Char) : Option Nat :=
  let n := c.toNat
  if 48 ≤ n ∧ n ≤ 57 then some (n - 48)
  else if 97 ≤ n ∧ n ≤ 102 then some (n - 87)
  else if 65 ≤ n ∧ n ≤ 70 then some (n - 55)
  else none

/-- The code unit of four hexadecimal digits. -/
def codeUnit? (a b c d : Char) : Option Nat := do
  let a ← hexValue? a
  let b ← hexValue? b
  let c ← hexValue? c
  let d ← hexValue? d
  pure (a * 4096 + b * 256 + c * 16 + d)

/-- The character of an escape by a letter. -/
def letterEscape? (c : Char) : Option Char :=
  if c = '"' ∨ c = '\\' ∨ c = '/' then some c
  else if c = 'b' then some (Char.ofNat 8)
  else if c = 'f' then some (Char.ofNat 12)
  else if c = 'n' then some '\n'
  else if c = 'r' then some '\r'
  else if c = 't' then some '\t'
  else none

/-- The pieces of a string up to its closing quote, and what follows it. -/
def pieces? : Decoded → Option (List Piece × Decoded)
  | [] => none
  | some '"' :: rest => some ([], rest)
  | some '\\' :: some 'u' :: some a :: some b :: some c :: some d :: rest => do
    let n ← codeUnit? a b c d
    let (ps, rest) ← pieces? rest
    pure (.unit n :: ps, rest)
  | some '\\' :: some c :: rest => do
    let c ← letterEscape? c
    let (ps, rest) ← pieces? rest
    pure (.char c :: ps, rest)
  | some c :: rest =>
    if c.toNat < 32 ∨ c = '\\' then none
    else do
      let (ps, rest) ← pieces? rest
      pure (.char c :: ps, rest)
  | none :: rest => do
    let (ps, rest) ← pieces? rest
    pure (.gap :: ps, rest)

/-- A high surrogate. -/
def isHigh (n : Nat) : Bool := 0xD800 ≤ n && n < 0xDC00

/-- A low surrogate. -/
def isLow (n : Nat) : Bool := 0xDC00 ≤ n && n < 0xE000

/-- The characters that pieces denote, or whether it shows only behind the last piece that they
denote none. -/
def joinPieces : List Piece → Except Bool (List Char)
  | [] => .ok []
  | .char c :: ps => (joinPieces ps).map (c :: ·)
  | .gap :: ps => (joinPieces ps).bind fun _ => .error true
  | [.unit n] =>
    if isHigh n then .error true else if isLow n then .error false else .ok [Char.ofNat n]
  | .unit hi :: .unit lo :: ps =>
    if isHigh hi && isLow lo then
      (joinPieces ps).map (Char.ofNat (0x10000 + (hi - 0xD800) * 0x400 + (lo - 0xDC00)) :: ·)
    else if isHigh hi || isLow hi then .error false
    else (joinPieces (.unit lo :: ps)).map (Char.ofNat hi :: ·)
  | .unit n :: ps =>
    if isHigh n || isLow n then .error false else (joinPieces ps).map (Char.ofNat n :: ·)

/-- A string after its opening quote, as the text it denotes. -/
def string? (cs : Decoded) : Option (Except Bool String × Decoded) :=
  (pieces? cs).map fun (ps, rest) => ((joinPieces ps).map String.ofList, rest)

/-- The value of a string. -/
def ofString : Except Bool String → Json
  | .ok s => .str s
  | .error atEnd => .broken atEnd

/-! ## Numbers -/

/-- The digits at the start, and what follows them. -/
def digits : Decoded → List Char × Decoded
  | some c :: rest =>
    if Text.isDigit c then
      let (ds, rest) := digits rest
      (c :: ds, rest)
    else ([], some c :: rest)
  | rest => ([], rest)

/-- The digits at the start, at least one, and what follows them. -/
def someDigits? (cs : Decoded) : Option (List Char × Decoded) :=
  let (ds, rest) := digits cs
  if ds.isEmpty then none else some (ds, rest)

/-- The digits after a point, none at all when there is no point. -/
def fraction? : Decoded → Option (List Char × Decoded)
  | some '.' :: rest => someDigits? rest
  | cs => some ([], cs)

/-- The sign and the digits of an exponent after its letter. -/
def signedDigits? : Decoded → Option ((Bool × List Char) × Decoded)
  | some '-' :: rest => (someDigits? rest).map fun (ds, rest) => ((true, ds), rest)
  | some '+' :: rest => (someDigits? rest).map fun (ds, rest) => ((false, ds), rest)
  | rest => (someDigits? rest).map fun (ds, rest) => ((false, ds), rest)

/-- The exponent, none within when there is none. -/
def exponent? : Decoded → Option (Option (Bool × List Char) × Decoded)
  | some 'e' :: rest => (signedDigits? rest).map fun (e, rest) => (some e, rest)
  | some 'E' :: rest => (signedDigits? rest).map fun (e, rest) => (some e, rest)
  | rest => some (none, rest)

/-- A numeral without its sign: no leading zero but a single one. -/
def unsigned? (negative : Bool) (cs : Decoded) : Option (Numeral × Decoded) := do
  let (whole, rest) ← someDigits? cs
  if whole.head? == some '0' && whole.length != 1 then none
  else
    let (fraction, rest) ← fraction? rest
    let (exponent, rest) ← exponent? rest
    pure (⟨negative, whole, fraction, exponent⟩, rest)

/-- A numeral. -/
def numeral? : Decoded → Option (Numeral × Decoded)
  | some '-' :: rest => unsigned? true rest
  | cs => unsigned? false cs

/-- The value of a numeral. -/
def ofNumeral (n : Numeral) : Json := n.int?.elim (.real n) .int

/-! ## Values -/

mutual

/-- A value; every bracket and every item takes one of the steps. -/
def value? : Nat → Decoded → Option (Json × Decoded)
  | 0, _ => none
  | steps + 1, cs =>
    match skipSpace cs with
    | some 'n' :: some 'u' :: some 'l' :: some 'l' :: rest => some (.null, rest)
    | some 't' :: some 'r' :: some 'u' :: some 'e' :: rest => some (.bool true, rest)
    | some 'f' :: some 'a' :: some 'l' :: some 's' :: some 'e' :: rest => some (.bool false, rest)
    | some '"' :: rest => (string? rest).map fun (s, rest) => (ofString s, rest)
    | some '[' :: rest =>
      match skipSpace rest with
      | some ']' :: rest => some (.arr [], rest)
      | rest => (items? steps rest).map fun (js, rest) => (.arr js, rest)
    | some '\x7b' :: rest =>
      match skipSpace rest with
      | some '\x7d' :: rest => some (.obj [], rest)
      | rest => (members? steps rest).map fun (ms, rest) => (.obj ms, rest)
    | rest => (numeral? rest).map fun (n, rest) => (ofNumeral n, rest)

/-- The items of a list up to its closing bracket, at least one. -/
def items? : Nat → Decoded → Option (List Json × Decoded)
  | 0, _ => none
  | steps + 1, cs => do
    let (j, rest) ← value? steps cs
    match skipSpace rest with
    | some ']' :: rest => pure ([j], rest)
    | some ',' :: rest =>
      let (js, rest) ← items? steps rest
      pure (j :: js, rest)
    | _ => none

/-- The members of an object up to its closing brace, at least one. -/
def members? : Nat → Decoded → Option (List (Option String × Json) × Decoded)
  | 0, _ => none
  | steps + 1, cs =>
    match skipSpace cs with
    | some '"' :: rest => do
      let (name, rest) ← string? rest
      match skipSpace rest with
      | some ':' :: rest =>
        let (j, rest) ← value? steps rest
        match skipSpace rest with
        | some '\x7d' :: rest => pure ([(name.toOption, j)], rest)
        | some ',' :: rest =>
          let (ms, rest) ← members? steps rest
          pure ((name.toOption, j) :: ms, rest)
        | _ => none
      | _ => none
    | _ => none

end

/-- The first complete value, whatever follows it. -/
def first? (cs : Decoded) : Option Json := (value? (cs.length + 1) cs).map (·.1)

/-- A value with nothing but blanks around it. -/
def parse? (cs : Decoded) : Option Json :=
  match value? (cs.length + 1) cs with
  | some (j, rest) => if (skipSpace rest).isEmpty then some j else none
  | none => none

/-- The value of a text. -/
def ofText? (s : String) : Option Json := parse? (s.toList.map some)

/-- The value of bytes. -/
def ofBytes? (bs : Bytes) : Option Json := parse? (Utf8.decode bs)

/-- The bytes of a text say what the text says. -/
theorem ofBytes?_bytes (s : String) : ofBytes? (Utf8.bytes s) = ofText? s := by
  rw [ofBytes?, Utf8.decode_bytes, ofText?]

end SignIn.Json
