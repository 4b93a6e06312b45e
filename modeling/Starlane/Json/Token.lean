import Starlane.Json.Value

/-!
# JSON tokens

A JSON text is read in two steps.  This is the first: the text is cut into punctuation, texts in
quotes, numbers and the three words.  Every token ends where it must, so white space between
tokens is dropped.
-/

namespace Starlane.Json

/-- A token of a JSON text. -/
inductive Token where
  | openObject
  | closeObject
  | openList
  | closeList
  | colon
  | comma
  | text (pieces : List Piece)
  | number (spelling : List Char)
  | bool (b : Bool)
  | null
  deriving DecidableEq, Repr

/-- Where the scanner stands. -/
inductive Mode where
  /-- Between tokens. -/
  | between
  /-- Inside quotes, after the given pieces, the latest first. -/
  | quoted (pieces : List Piece)
  /-- Inside quotes, after a backslash. -/
  | escaped (pieces : List Piece)
  /-- Inside quotes, with some hexadecimal digits of a unit still to come. -/
  | unit (pieces : List Piece) (missing : Nat) (code : Nat)
  /-- Inside a number or a word, after the given characters, the latest first. -/
  | run (chars : List Char)
  deriving DecidableEq, Repr

/-- White space between tokens. -/
def isSpace (c : Char) : Bool :=
  c == ' ' || c == '\t' || c == '\n' || c == '\r'

/-- The characters of numbers and words. -/
def isRunChar (c : Char) : Bool :=
  c.isAlphanum || c == '-' || c == '+' || c == '.'

/-- Whether the characters are digits, at least one. -/
def isDigits (cs : List Char) : Bool :=
  !cs.isEmpty && cs.all Char.isDigit

/-- Whether the characters are the whole part of a number: digits without a leading zero. -/
def isWhole (cs : List Char) : Bool :=
  isDigits cs && (cs.length == 1 || cs.head? != some '0')

/-- Whether the characters are empty or an exponent. -/
def isExponent : List Char → Bool
  | [] => true
  | e :: rest =>
    (e == 'e' || e == 'E') &&
      match rest with
      | '+' :: digits => isDigits digits
      | '-' :: digits => isDigits digits
      | digits => isDigits digits

/-- Whether the characters are a fraction or nothing, then an exponent or nothing. -/
def isFraction : List Char → Bool
  | '.' :: rest =>
    isDigits (rest.takeWhile Char.isDigit) && isExponent (rest.dropWhile Char.isDigit)
  | rest => isExponent rest

/-- Whether the characters are a number without sign. -/
def isUnsigned (cs : List Char) : Bool :=
  isWhole (cs.takeWhile Char.isDigit) && isFraction (cs.dropWhile Char.isDigit)

/-- Whether the characters spell a number. -/
def isNumber : List Char → Bool
  | '-' :: rest => isUnsigned rest
  | cs => isUnsigned cs

/-- The token that a finished run spells. -/
def runToken? (cs : List Char) : Option Token :=
  if cs = ['n', 'u', 'l', 'l'] then some .null
  else if cs = ['t', 'r', 'u', 'e'] then some (.bool true)
  else if cs = ['f', 'a', 'l', 's', 'e'] then some (.bool false)
  else if isNumber cs then some (.number cs)
  else none

/-- The token that a punctuation mark is. -/
def mark? (c : Char) : Option Token :=
  if c = '\x7b' then some .openObject
  else if c = '\x7d' then some .closeObject
  else if c = '[' then some .openList
  else if c = ']' then some .closeList
  else if c = ':' then some .colon
  else if c = ',' then some .comma
  else none

/-- A character between tokens: the token it completes, if any, and the next mode. -/
def enter? (c : Char) : Option (List Token × Mode) :=
  if isSpace c then some ([], .between)
  else if c = '"' then some ([], .quoted [])
  else if isRunChar c then some ([], .run [c])
  else (mark? c).map fun token => ([token], .between)

/-- The value of a hexadecimal digit. -/
def hexValue? (c : Char) : Option Nat :=
  if c.isDigit then some (c.toNat - 48)
  else if 'a' ≤ c ∧ c ≤ 'f' then some (c.toNat - 87)
  else if 'A' ≤ c ∧ c ≤ 'F' then some (c.toNat - 55)
  else none

/-- The character that a one-letter escape stands for. -/
def escape? (c : Char) : Option Char :=
  if c = '"' ∨ c = '\\' ∨ c = '/' then some c
  else if c = 'b' then some '\x08'
  else if c = 'f' then some '\x0c'
  else if c = 'n' then some '\n'
  else if c = 'r' then some '\r'
  else if c = 't' then some '\t'
  else none

/-- One character: the tokens it completes and the next mode; none if no JSON text goes on so. -/
def advance? (c : Char) : Mode → Option (List Token × Mode)
  | .between => enter? c
  | .run chars =>
    if isRunChar c then some ([], .run (c :: chars))
    else do
      let token ← runToken? chars.reverse
      let (tokens, mode) ← enter? c
      return (token :: tokens, mode)
  | .quoted pieces =>
    if c = '"' then some ([.text pieces.reverse], .between)
    else if c = '\\' then some ([], .escaped pieces)
    else if c.toNat < 32 then none
    else some ([], .quoted (.char c :: pieces))
  | .escaped pieces =>
    if c = 'u' then some ([], .unit pieces 4 0)
    else (escape? c).map fun char => ([], .quoted (.char char :: pieces))
  | .unit pieces missing code => do
    let digit ← hexValue? c
    let code := code * 16 + digit
    return ([], if missing ≤ 1 then .quoted (.unit code :: pieces) else .unit pieces (missing - 1) code)

/-- The tokens that the end of the text completes. -/
def finish? : Mode → Option (List Token)
  | .between => some []
  | .run chars => (runToken? chars.reverse).map ([·])
  | _ => none

/-- The tokens of the rest of a text, from a mode. -/
def tokensFrom? (mode : Mode) : List Char → Option (List Token)
  | [] => finish? mode
  | c :: rest =>
    match advance? c mode with
    | none => none
    | some ([], mode) => tokensFrom? mode rest
    | some (tokens, mode) => (tokensFrom? mode rest).map (tokens ++ ·)

/-- The tokens of a text. -/
def tokens? (cs : List Char) : Option (List Token) :=
  tokensFrom? .between cs

end Starlane.Json
