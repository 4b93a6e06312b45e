import Starlane.Text.Blank
import Starlane.Text.CaseClass
import Starlane.Text.CaseTable

/-!
# Upper and lower case

Full case mapping of texts.  A character may have a longer image (a sharp s becomes two letters),
and a capital sigma becomes a final sigma where it ends a word.
-/

namespace Starlane.Text

/-- The code points of a character's upper case. -/
def upperCodes (code : Nat) : List Nat :=
  if code < 128 then [if 97 ≤ code ∧ code ≤ 122 then code - 32 else code]
  else
    match upperExpansions.lookup code with
    | some codes => codes
    | none => [caseImage upperRuns code]

/-- The code points of a character's lower case, away from a final sigma. -/
def lowerCodes (code : Nat) : List Nat :=
  if code < 128 then [if 65 ≤ code ∧ code ≤ 90 then code + 32 else code]
  else
    match lowerExpansions.lookup code with
    | some codes => codes
    | none => [caseImage lowerRuns code]

/-- A character's upper case. -/
def upperChar (c : Char) : List Char :=
  (upperCodes c.toNat).map Char.ofNat

/-- A character's lower case, away from a final sigma. -/
def lowerChar (c : Char) : List Char :=
  (lowerCodes c.toNat).map Char.ofNat

/-- The upper case of a text, character by character. -/
def upper (s : String) : String :=
  String.ofList (s.toList.flatMap upperChar)

/-- Whether the first character that is not case-ignorable exists and is cased. -/
def leadsCased (cs : List Char) : Bool :=
  match cs.dropWhile (inRanges ignorableRanges) with
  | [] => false
  | c :: _ => inRanges casedRanges c

/-- The lower case of a text; `before` holds the characters already passed, nearest first.  A
capital sigma after a cased character and not before one ends a word. -/
def lowerFrom (before : List Char) : List Char → List Char
  | [] => []
  | c :: rest =>
    let image :=
      if c = 'Σ' then [if leadsCased before && !leadsCased rest then 'ς' else 'σ']
      else lowerChar c
    image ++ lowerFrom (c :: before) rest

/-- The lower case of a text. -/
def lower (s : String) : String :=
  String.ofList (lowerFrom [] s.toList)

/-- The lower case of an ASCII letter; every other character stays. -/
def lowerAscii (c : Char) : Char :=
  if 'A' ≤ c ∧ c ≤ 'Z' then Char.ofNat (c.toNat + 32) else c

/-- Whether two texts agree up to the case of ASCII letters. -/
def sameAscii (s t : String) : Bool :=
  s.toList.map lowerAscii == t.toList.map lowerAscii

end Starlane.Text
