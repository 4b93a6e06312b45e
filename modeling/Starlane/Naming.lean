import Starlane.Text.Blank

/-!
# Names

The rules for names that players choose, and the cleaning of messages.
-/

namespace Starlane

/-- Why a name is refused. -/
inductive NameError where
  | corpTooShort
  | corpTooLong
  | corpInvalidChars
  | planetTooShort
  | planetTooLong
  deriving DecidableEq, Repr

/-- What a player is told. -/
def NameError.message : NameError → String
  | corpTooShort => "Corporation name too short (min 3)."
  | corpTooLong => "Corporation name too long (max 32)."
  | corpInvalidChars => "Corporation name contains invalid characters."
  | planetTooShort => "Planet name is too short."
  | planetTooLong => "Planet name is too long (max 40)."

namespace Naming

/-- Whether a character may stand in a corporation's name: an ASCII letter or digit, a space, an
underscore or a hyphen. -/
def isCorpChar (c : Char) : Bool :=
  c.isAlphanum || c == ' ' || c == '_' || c == '-'

/-- A corporation's name from what the player typed: on one line, 3 to 32 characters long, of
allowed characters only. -/
def corpName (raw : String) : Except NameError String :=
  let name := Text.singleLine raw
  if name.length < 3 then .error .corpTooShort
  else if 32 < name.length then .error .corpTooLong
  else if name.toList.all isCorpChar then .ok name
  else .error .corpInvalidChars

/-- A planet's name from what the player typed: on one line, 3 to 40 characters long. -/
def planetName (raw : String) : Except NameError String :=
  let name := Text.singleLine raw
  if name.length < 3 then .error .planetTooShort
  else if 40 < name.length then .error .planetTooLong
  else .ok name

/-- A message with spaces for line breaks and without white space at its ends. -/
def cleanMessage (raw : String) : String :=
  let unbroken := (Text.trim raw).toList.map fun c => if c = '\n' ∨ c = '\r' then ' ' else c
  Text.trim (String.ofList unbroken)

end Naming

end Starlane
