import Starlane.Json.Value

/-!
# Writing JSON

The compact text of a value: no white space, fields in their order, and in texts only quotes,
backslashes and control characters escaped.
-/

namespace Starlane.Json

/-- A lower-case hexadecimal digit. -/
def hexDigit (n : Nat) : Char :=
  Nat.digitChar (n % 16)

/-- The escape of a UTF-16 unit. -/
def unitText (code : Nat) : List Char :=
  ['\\', 'u', hexDigit (code / 4096), hexDigit (code / 256), hexDigit (code / 16), hexDigit code]

/-- A character inside quotes. -/
def charText (c : Char) : List Char :=
  if c = '"' then ['\\', '"']
  else if c = '\\' then ['\\', '\\']
  else if c = '\x08' then ['\\', 'b']
  else if c = '\t' then ['\\', 't']
  else if c = '\n' then ['\\', 'n']
  else if c = '\x0c' then ['\\', 'f']
  else if c = '\r' then ['\\', 'r']
  else if c.toNat < 32 then unitText c.toNat
  else [c]

/-- An element of a text inside quotes. -/
def pieceText : Piece → List Char
  | .char c => charText c
  | .unit code => unitText code

/-- A text in quotes. -/
def quote (pieces : List Piece) : List Char :=
  '"' :: (pieces.flatMap pieceText ++ ['"'])

mutual

/-- The characters of a value. -/
def write : Json → List Char
  | .null => ['n', 'u', 'l', 'l']
  | .bool true => ['t', 'r', 'u', 'e']
  | .bool false => ['f', 'a', 'l', 's', 'e']
  | .number spelling => spelling
  | .text pieces => quote pieces
  | .list items => '[' :: writeItems items
  | .object fields => '\x7b' :: writeFields fields

/-- The elements of a list and its end. -/
def writeItems : List Json → List Char
  | [] => [']']
  | [item] => write item ++ [']']
  | item :: rest => write item ++ ',' :: writeItems rest

/-- The fields of an object and its end. -/
def writeFields : List (List Piece × Json) → List Char
  | [] => ['\x7d']
  | [(key, value)] => quote key ++ ':' :: (write value ++ ['\x7d'])
  | (key, value) :: rest => quote key ++ ':' :: (write value ++ ',' :: writeFields rest)

end

/-- The compact text of a value. -/
def render (value : Json) : String :=
  String.ofList (write value)

end Starlane.Json
