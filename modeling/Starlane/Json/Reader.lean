import Starlane.Json.Token

/-!
# Reading JSON

The second step of reading: a machine with a stack of unfinished lists and objects takes the
tokens one by one.  No text is too deep for it, and it accepts exactly one value.
-/

namespace Starlane.Json

/-- An unfinished list or object around the current value, the latest element first. -/
inductive Frame where
  | list (items : List Json)
  | object (fields : List (List Piece × Json)) (key : List Piece)

/-- Where the reader stands; `outer` holds the unfinished values, the innermost first. -/
inductive State where
  /-- A value comes next. -/
  | value (outer : List Frame)
  /-- A list has been opened: a value comes next, or its end. -/
  | firstItem (outer : List Frame)
  /-- An object has been opened: a key comes next, or its end. -/
  | firstKey (outer : List Frame)
  /-- A key comes next. -/
  | key (fields : List (List Piece × Json)) (outer : List Frame)
  /-- A colon comes next. -/
  | colon (fields : List (List Piece × Json)) (key : List Piece) (outer : List Frame)
  /-- A value is complete. -/
  | complete (value : Json) (outer : List Frame)

/-- A token where a value is expected. -/
def startValue? (outer : List Frame) : Token → Option State
  | .openObject => some (.firstKey outer)
  | .openList => some (.firstItem outer)
  | .text pieces => some (.complete (.text pieces) outer)
  | .number spelling => some (.complete (.number spelling) outer)
  | .bool b => some (.complete (.bool b) outer)
  | .null => some (.complete .null outer)
  | _ => none

/-- One token of the text. -/
def step? : State → Token → Option State
  | .value outer, token => startValue? outer token
  | .firstItem outer, .closeList => some (.complete (.list []) outer)
  | .firstItem outer, token => startValue? (.list [] :: outer) token
  | .firstKey outer, .closeObject => some (.complete (.object []) outer)
  | .firstKey outer, .text key => some (.colon [] key outer)
  | .key fields outer, .text key => some (.colon fields key outer)
  | .colon fields key outer, .colon => some (.value (.object fields key :: outer))
  | .complete value (.list items :: outer), .comma => some (.value (.list (value :: items) :: outer))
  | .complete value (.list items :: outer), .closeList =>
    some (.complete (.list (value :: items).reverse) outer)
  | .complete value (.object fields key :: outer), .comma =>
    some (.key ((key, value) :: fields) outer)
  | .complete value (.object fields key :: outer), .closeObject =>
    some (.complete (.object ((key, value) :: fields).reverse) outer)
  | _, _ => none

/-- The value of a run of tokens. -/
def ofTokens? (tokens : List Token) : Option Json :=
  match tokens.foldlM step? (.value []) with
  | some (.complete value []) => some value
  | _ => none

/-- The value of a JSON text; none if the text is malformed. -/
def parse? (text : String) : Option Json :=
  (tokens? text.toList).bind ofTokens?

end Starlane.Json
