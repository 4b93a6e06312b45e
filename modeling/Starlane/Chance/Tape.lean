import Starlane.Chance.Dice

/-!
# Tapes of recorded words

A tape plays back a list of words, one for each draw of either width, and zeros after its end.
-/

namespace Starlane.Chance

/-- A tape of words, and how many draws it has served. -/
structure Tape where
  words : List UInt64
  draws : Nat
  deriving DecidableEq, Repr

/-- A tape before its first draw. -/
def Tape.ofWords (words : List UInt64) : Tape :=
  ⟨words, 0⟩

/-- The next word of a tape. -/
def Tape.next (tape : Tape) : UInt64 × Tape :=
  match tape.words with
  | [] => (0, ⟨[], tape.draws + 1⟩)
  | word :: words => (word, ⟨words, tape.draws + 1⟩)

/-- A draw of 32 bits takes the low half of a word.  A zero is never rejected, so a bounded draw
rejects at most the words left on the tape. -/
instance : Dice Tape where
  half tape := (tape.next.1.toUInt32, tape.next.2)
  full tape := tape.next
  patience tape := tape.words.length

end Starlane.Chance
