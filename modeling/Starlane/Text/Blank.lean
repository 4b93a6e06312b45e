/-!
# White space

The `White_Space` property of Unicode, and the three cleaning operations that rest on it: trimming
a text, splitting it into words, and putting it on one line.
-/

namespace Starlane.Text

/-- Whether a character lies in one of the closed ranges of code points. -/
def inRanges (ranges : List (Nat × Nat)) (c : Char) : Bool :=
  ranges.any fun range => range.1 ≤ c.toNat && c.toNat ≤ range.2

/-- The code points with the property `White_Space`. -/
def blankRanges : List (Nat × Nat) :=
  [(0x9, 0xD), (0x20, 0x20), (0x85, 0x85), (0xA0, 0xA0), (0x1680, 0x1680), (0x2000, 0x200A),
   (0x2028, 0x2029), (0x202F, 0x202F), (0x205F, 0x205F), (0x3000, 0x3000)]

/-- Whether a character is white space. -/
def isBlank (c : Char) : Bool :=
  inRanges blankRanges c

/-- Drops the white space at the end. -/
def dropBlankEnd (cs : List Char) : List Char :=
  (cs.reverse.dropWhile isBlank).reverse

/-- Drops the white space at both ends. -/
def trimChars (cs : List Char) : List Char :=
  dropBlankEnd (cs.dropWhile isBlank)

/-- The text without the white space at its ends. -/
def trim (s : String) : String :=
  String.ofList (trimChars s.toList)

/-- The pieces between white-space characters; two neighbours leave an empty piece between them. -/
def splitBlank : List Char → List (List Char)
  | [] => [[]]
  | c :: rest =>
    if isBlank c then [] :: splitBlank rest
    else
      match splitBlank rest with
      | [] => [[c]]
      | word :: words => (c :: word) :: words

/-- The words of a text: its longest runs without white space. -/
def words (cs : List Char) : List (List Char) :=
  (splitBlank cs).filter fun word => !word.isEmpty

/-- The words of a text with one space between neighbours. -/
def singleLineChars (cs : List Char) : List Char :=
  List.intercalate [' '] (words cs)

/-- The text on one line: line breaks and other white space become single spaces, none at the
ends. -/
def singleLine (s : String) : String :=
  String.ofList (singleLineChars s.toList)

theorem splitBlank_ne_nil (cs : List Char) : splitBlank cs ≠ [] := by
  cases cs with
  | nil => simp [splitBlank]
  | cons c rest =>
    rw [splitBlank]
    split
    · simp
    · split <;> simp

end Starlane.Text
