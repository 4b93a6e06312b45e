import Starlane.Bounds
import Starlane.Json.Reader
import Starlane.Json.Writer

/-!
# Records in JSON

How typed records are read from JSON values.  A record is an object whose unknown keys are skipped
and whose known keys appear at most once, or a list of its fields in their order, which may end
early.  Integers have integer spellings in the range of their field.
-/

namespace Starlane.Json

/-- The characters of an integer spelling as an integer; none for a fraction, an exponent or a
negative zero. -/
def integer? : List Char → Option Int
  | '-' :: rest =>
    if isDigits rest ∧ rest ≠ ['0'] then some (-(Nat.ofDigitChars 10 rest 0 : Int)) else none
  | cs => if isDigits cs then some (Nat.ofDigitChars 10 cs 0 : Int) else none

/-- An integer between two bounds. -/
def intWithin? (low high : Int) : Json → Option Int
  | .number spelling => do
    let n ← integer? spelling
    if low ≤ n ∧ n ≤ high then some n else none
  | _ => none

/-- A signed amount. -/
def amount? (value : Json) : Option Int :=
  intWithin? amountMin amountMax value

/-- A counter. -/
def counter? (value : Json) : Option Nat :=
  (intWithin? 0 counterMax value).map Int.toNat

/-- An identifier or a size. -/
def identifier? (value : Json) : Option Nat :=
  (intWithin? 0 identifierMax value).map Int.toNat

/-- A truth value. -/
def bool? : Json → Option Bool
  | .bool b => some b
  | _ => none

/-- A string. -/
def string? : Json → Option String
  | .text pieces => (chars? pieces).map String.ofList
  | _ => none

/-- A list whose items are all read by the same reader. -/
def list? {α : Type} (item? : Json → Option α) : Json → Option (List α)
  | .list items => items.mapM item?
  | _ => none

/-- The name of a case: a string, or an object with that name as its only key and null as its
value. -/
def caseName? : Json → Option String
  | .text pieces => (chars? pieces).map String.ofList
  | .object [(key, .null)] => (chars? key).map String.ofList
  | _ => none

/-- The value of a key among named fields: none if it is missing, a failure if it is there twice. -/
def field? (fields : List (String × Json)) (name : String) : Option (Option Json) :=
  match fields.filter fun field => field.1 == name with
  | [] => some none
  | [field] => some (some field.2)
  | _ => none

/-- The fields of an object with their names as strings. -/
def namedFields? (fields : List (List Piece × Json)) : Option (List (String × Json)) :=
  fields.mapM fun field => (chars? field.1).map fun name => (String.ofList name, field.2)

/-- The values of a record's fields, in the order of `names`; a field that is not given is none. -/
def record? (names : List String) : Json → Option (List (Option Json))
  | .object fields => do
    let named ← namedFields? fields
    names.mapM (field? named)
  | .list items =>
    if items.length ≤ names.length then
      some (items.map some ++ List.replicate (names.length - items.length) none)
    else none
  | _ => none

/-- The value of a key of an object, the first if it is there twice. -/
def get? (value : Json) (name : String) : Option Json :=
  match value with
  | .object fields =>
    (fields.find? fun field => (chars? field.1).map String.ofList == some name).map (·.2)
  | _ => none

/-- A field that must be given. -/
def required {α : Type} (read? : Json → Option α) (field : Option Json) : Option α :=
  field.bind read?

/-- A field with a default. -/
def defaulted {α : Type} (default : α) (read? : Json → Option α) : Option Json → Option α
  | none => some default
  | some value => read? value

end Starlane.Json
