import SignIn.Json.Numeral

/-!
# JSON values

A value as its text says it : members of an object in their order, repeated names included, and
whole numbers apart from all others. A string or a name that denotes no Unicode text is kept as
such (`broken`, and `none` as a name), since a reader that skips a member does not mind.

A reader that keeps a whole value minds : it needs texts throughout, numbers within the range of
a double and at most 127 levels (`isSound`). `reading` says more exactly where it stops. A flaw at
the very end of an item ends the list as well when the item is its last, and a flaw in a name
always leaves the member's value behind.

A reader of records looks members up by name, the last of a repeated name with `member?`, none of
a repeated name with `once?`.
-/

namespace SignIn

/-- A JSON value. -/
inductive Json where
  | null
  | bool (b : Bool)
  /-- A whole number from -2^63 to 2^64-1, written without point, exponent or minus zero. -/
  | int (n : Int)
  /-- Any other number. -/
  | real (n : Numeral)
  | str (s : String)
  /-- A string that denotes no text; `atEnd` when this shows only behind its closing quote. -/
  | broken (atEnd : Bool)
  | arr (items : List Json)
  | obj (members : List (Option String × Json))

namespace Json

/-- An object with the given members. -/
def record (members : List (String × Json)) : Json := .obj (members.map fun m => (some m.1, m.2))

/-- A list of strings. -/
def strings (ss : List String) : Json := .arr (ss.map .str)

/-! ## Values that are kept -/

mutual

/-- How a reader that keeps values of at most `levels` of nesting leaves a value. -/
def reading (levels : Nat) : Json → Reading
  | .real n => n.reading
  | .broken atEnd => if atEnd then .exhausted else .stuck
  | .arr items => if levels = 0 then .stuck else readingItems (levels - 1) items
  | .obj members => if levels = 0 then .stuck else readingMembers (levels - 1) members
  | _ => .complete

/-- How it leaves the items of a list. -/
def readingItems (levels : Nat) : List Json → Reading
  | [] => .complete
  | j :: js =>
    match reading levels j with
    | .complete => readingItems levels js
    | stopped => if js.isEmpty then stopped else .stuck

/-- How it leaves the members of an object. -/
def readingMembers (levels : Nat) : List (Option String × Json) → Reading
  | [] => .complete
  | (none, _) :: _ => .stuck
  | (some _, j) :: ms =>
    match reading levels j with
    | .complete => readingMembers levels ms
    | stopped => if ms.isEmpty then stopped else .stuck

end

/-- The value can be kept. -/
def isSound (j : Json) : Bool := j.reading 127 == .complete

/-! ## Looking into values -/

/-- The text of a string. -/
def text? : Json → Option String
  | .str s => some s
  | _ => none

/-- A whole number of 64 bits with sign. -/
def int64? : Json → Option Int
  | .int n => if -9223372036854775808 ≤ n ∧ n ≤ 9223372036854775807 then some n else none
  | _ => none

/-- The texts of a list of strings. -/
def texts? : Json → Option (List String)
  | .arr items => items.mapM text?
  | _ => none

/-- The value is null. -/
def isNull : Json → Bool
  | .null => true
  | _ => false

/-- The value is an object without members. -/
def isEmptyObject : Json → Bool
  | .obj [] => true
  | _ => false

/-- The value is null or fits. -/
def nullOr (fits : Json → Bool) (j : Json) : Bool := j.isNull || fits j

/-- The word that a value stands for: a text, or the name of an only member whose value is bare. -/
def word? (isBare : Json → Bool) : Json → Option String
  | .str s => some s
  | .obj [(some name, j)] => if isBare j then some name else none
  | _ => none

/-- The value of the last member of an object with this name. -/
def member? (j : Json) (name : String) : Option Json :=
  match j with
  | .obj members => (members.reverse.find? fun m => m.1 == some name).map (·.2)
  | _ => none

/-! ## Records -/

/-- The members of an object all of whose names are texts. -/
def record? : Json → Option (List (String × Json))
  | .obj members => members.mapM fun m => m.1.map fun name => (name, m.2)
  | _ => none

/-- The value of a member that stands at most once, `some none` when it is absent and none when
it is repeated. -/
def once? (members : List (String × Json)) (name : String) : Option (Option Json) :=
  match members.filter fun m => m.1 == name with
  | [] => some none
  | [m] => some (some m.2)
  | _ => none

/-- A member that must stand exactly once, read by `read?`. -/
def required? {α : Type} (members : List (String × Json)) (name : String)
    (read? : Json → Option α) : Option α :=
  match once? members name with
  | some (some j) => read? j
  | _ => none

/-- A member that may be absent and then has the value `default`. -/
def optional? {α : Type} (members : List (String × Json)) (name : String)
    (read? : Json → Option α) (default : α) : Option α :=
  match once? members name with
  | some (some j) => read? j
  | some none => some default
  | none => none

/-- A member stands at most once, and then fits. -/
def optionalFits (members : List (String × Json)) (name : String) (fits : Json → Bool) : Bool :=
  (once? members name).any fun j => j.all fits

/-- A member stands exactly once, and fits. -/
def requiredFits (members : List (String × Json)) (name : String) (fits : Json → Bool) : Bool :=
  (once? members name).any fun j => j.any fits

end Json

end SignIn
