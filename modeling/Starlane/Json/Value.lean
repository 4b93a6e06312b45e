/-!
# JSON values

A value keeps what a text says before it is interpreted: numbers as they are spelled, and texts as
their characters and escaped UTF-16 units.  A text that escapes half of a surrogate pair is a
value that names no string.
-/

namespace Starlane

/-- One element of a text in quotes. -/
inductive Json.Piece where
  | char (c : Char)
  | unit (code : Nat)
  deriving DecidableEq, Repr

/-- A JSON value. -/
inductive Json where
  | null
  | bool (b : Bool)
  | number (spelling : List Char)
  | text (pieces : List Json.Piece)
  | list (items : List Json)
  | object (fields : List (List Json.Piece × Json))

namespace Json

/-- Whether a UTF-16 unit opens a surrogate pair. -/
def isHighSurrogate (code : Nat) : Bool :=
  0xD800 ≤ code && code < 0xDC00

/-- Whether a UTF-16 unit closes a surrogate pair. -/
def isLowSurrogate (code : Nat) : Bool :=
  0xDC00 ≤ code && code < 0xE000

/-- The characters of a text; fails on half of a surrogate pair. -/
def chars? : List Piece → Option (List Char)
  | [] => some []
  | .char c :: rest => (chars? rest).map (c :: ·)
  | .unit high :: .unit low :: rest =>
    if isHighSurrogate high then
      if isLowSurrogate low then
        let code := 0x10000 + (high - 0xD800) * 0x400 + (low - 0xDC00)
        (chars? rest).map (Char.ofNat code :: ·)
      else none
    else if isLowSurrogate high then none
    else (chars? (.unit low :: rest)).map (Char.ofNat high :: ·)
  | .unit code :: rest =>
    if isHighSurrogate code || isLowSurrogate code then none
    else (chars? rest).map (Char.ofNat code :: ·)

/-- The pieces of a string, none of them escaped. -/
def pieces (s : String) : List Piece :=
  s.toList.map .char

/-- A string as a value. -/
def ofString (s : String) : Json :=
  .text (pieces s)

/-- The decimal digits of a number. -/
def digits (n : Nat) : List Char :=
  Nat.toDigits 10 n

/-- A natural number as a value. -/
def ofNat (n : Nat) : Json :=
  .number (digits n)

/-- An integer as a value. -/
def ofInt (n : Int) : Json :=
  .number (if n < 0 then '-' :: digits n.natAbs else digits n.natAbs)

/-- An object with the given fields in the given order. -/
def ofFields (fields : List (String × Json)) : Json :=
  .object (fields.map fun field => (pieces field.1, field.2))

/-- A value that may be missing, null when it is. -/
def ofOption {α : Type} (encode : α → Json) : Option α → Json
  | some value => encode value
  | none => .null

/-- The values of a list, each encoded alike. -/
def ofList {α : Type} (encode : α → Json) (values : List α) : Json :=
  .list (values.map encode)

/-- A field that is left out when there is no value. -/
def optionalField (name : String) : Option Json → List (String × Json)
  | some value => [(name, value)]
  | none => []

@[simp] theorem chars?_pieces (cs : List Char) : chars? (cs.map .char) = some cs := by
  induction cs with
  | nil => rfl
  | cons c cs ih => simp [chars?, ih]

end Json

end Starlane
