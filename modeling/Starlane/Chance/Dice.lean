/-!
# Drawing random numbers

A source of dice yields words of 32 or 64 bits.  Whole numbers below a bound are drawn by widening
multiplication with rejection, so that every value is equally likely.
-/

namespace Starlane.Chance

/-- A source of random words. -/
class Dice (γ : Type) where
  /-- Draws a word of 32 bits. -/
  half : γ → UInt32 × γ
  /-- Draws a word of 64 bits. -/
  full : γ → UInt64 × γ
  /-- How many words a bounded draw may reject before it takes the next one as it is. -/
  patience : γ → Nat

/-- The number of words of `width` bits. -/
def words (width : Nat) : Nat :=
  1 <<< width

/-- The largest low part that a draw of `width` bits below `n` accepts: it leaves a range whose
size is `n` shifted to the top of the word. -/
def zone (width n : Nat) : Nat :=
  n <<< (width - 1 - n.log2) - 1

/-- Draws below `n` from words of `width` bits: the high part of the product of a word and `n`, if
the low part lies in the zone; otherwise the word is rejected. -/
def boundedFrom {γ : Type} (width : Nat) (draw : γ → Nat × γ) (n : Nat) : Nat → γ → Nat × γ
  | 0, dice =>
    let (word, dice) := draw dice
    (word % words width * n / words width, dice)
  | patience + 1, dice =>
    let (word, dice) := draw dice
    let product := word % words width * n
    if product % words width ≤ zone width n then (product / words width, dice)
    else boundedFrom width draw n patience dice

section Draws

variable {γ : Type} [Dice γ]

/-- A number below `n` from words of 32 bits. -/
def below (n : Nat) (dice : γ) : Nat × γ :=
  boundedFrom 32 (fun dice => ((Dice.half dice).1.toNat, (Dice.half dice).2)) n
    (Dice.patience dice) dice

/-- An index below `n` from words of 64 bits. -/
def index (n : Nat) (dice : γ) : Nat × γ :=
  boundedFrom 64 (fun dice => ((Dice.full dice).1.toNat, (Dice.full dice).2)) n
    (Dice.patience dice) dice

/-- A fraction of `2 ^ 53` from the top 53 bits of a word of 64 bits. -/
def fraction (dice : γ) : Nat × γ :=
  let (word, dice) := Dice.full dice
  (word.toNat >>> 11, dice)

end Draws

theorem words_pos (width : Nat) : 0 < words width := by
  rw [words, Nat.one_shiftLeft]
  exact Nat.two_pow_pos width

/-- A bounded draw stays below its bound, whatever the source yields. -/
theorem boundedFrom_lt {γ : Type} (width : Nat) (draw : γ → Nat × γ) {n : Nat} (hn : 0 < n)
    (patience : Nat) (dice : γ) : (boundedFrom width draw n patience dice).1 < n := by
  have high (word : Nat) : word % words width * n / words width < n := by
    rw [Nat.div_lt_iff_lt_mul (words_pos width), Nat.mul_comm n]
    exact Nat.mul_lt_mul_of_pos_right (Nat.mod_lt _ (words_pos width)) hn
  induction patience generalizing dice with
  | zero => exact high _
  | succ patience ih =>
    simp only [boundedFrom]
    split
    · exact high _
    · exact ih _

end Starlane.Chance
