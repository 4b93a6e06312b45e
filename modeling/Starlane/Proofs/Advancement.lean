import Starlane.Proofs.Level
import Starlane.Settings

/-!
# Levels and awards are exact

The search for a level halves the levels that are left in every round, so there
are eight rounds at most, and a round never looks below level 1. Awards made one
after the other add up all that is more than nothing, up to the largest amount,
and each one tells of a rise exactly where the level rose.
-/

namespace Starlane

namespace Rank

/-- A search among levels: those from `low` to `high` are left, and `best` is the
highest one known to be met. -/
structure Bisection where
  low : Nat
  high : Nat
  best : Nat

namespace Bisection

/-- The level that a round looks at. -/
def middle (search : Bisection) : Nat :=
  (search.low + search.high) / 2

/-- One round, while any level is left. -/
def round (xp : Int) (search : Bisection) : Bisection :=
  if threshold search.middle ≤ xp then ⟨search.middle + 1, search.high, search.middle⟩
  else ⟨search.low, search.middle - 1, search.best⟩

/-- The searches for the level of some experience, by the number of rounds so far. -/
inductive Reached (xp : Int) : Nat → Bisection → Prop
  | start : Reached xp 0 ⟨1, levelMax, 1⟩
  | round {rounds : Nat} {search : Bisection} (reached : Reached xp rounds search)
      (left : search.low ≤ search.high) : Reached xp (rounds + 1) (search.round xp)

variable {xp : Int} {search : Bisection} {rounds : Nat}

theorem middle_bounds (left : search.low ≤ search.high) :
    search.low ≤ search.middle ∧ search.middle ≤ search.high := by
  unfold middle
  omega

/-- The search goes on with what a round leaves. -/
theorem bisect_round (positive : 1 ≤ search.low) (left : search.low ≤ search.high) :
    bisect xp (search.round xp).low (search.round xp).high (search.round xp).best =
      bisect xp search.low search.high search.best := by
  have bounds := middle_bounds left
  conv => rhs; rw [bisect, if_pos left]
  dsimp only
  rw [← middle, round]
  by_cases met : threshold search.middle ≤ xp
  · rw [if_pos met, if_pos met]
  · rw [if_neg met, if_neg met]
    by_cases below : search.low < search.middle
    · rw [if_pos below]
    -- no level is left below the last one
    · rw [if_neg below, bisect, if_neg (by dsimp only; omega)]

/-- A round leaves no more than half of the levels. -/
theorem round_halves (xp : Int) (positive : 1 ≤ search.low) (left : search.low ≤ search.high) :
    2 * ((search.round xp).high + 1 - (search.round xp).low) ≤
      search.high + 1 - search.low := by
  have bounds := middle_bounds left
  unfold round
  by_cases met : threshold search.middle ≤ xp
  · rw [if_pos met]
    dsimp only
    unfold middle at bounds ⊢
    omega
  · rw [if_neg met]
    dsimp only
    unfold middle at bounds ⊢
    omega

/-- A round stays among the levels. -/
theorem round_bounds (xp : Int) (positive : 1 ≤ search.low) (left : search.low ≤ search.high) :
    1 ≤ (search.round xp).low ∧ (search.round xp).high ≤ search.high := by
  have bounds := middle_bounds left
  unfold round
  split
  · exact ⟨by simp, Nat.le_refl _⟩
  · exact ⟨positive, by dsimp only; omega⟩

/-- What every search keeps: it stays among the levels, leaves a share of them that
halves from round to round, and ends with the same level. -/
structure Narrowing (xp : Int) (rounds : Nat) (search : Bisection) : Prop where
  low : 1 ≤ search.low
  high : search.high ≤ levelMax
  left : 2 ^ rounds * (search.high + 1 - search.low) ≤ levelMax
  level : bisect xp search.low search.high search.best = bisect xp 1 levelMax 1

theorem Narrowing.round (narrowing : Narrowing xp rounds search)
    (left : search.low ≤ search.high) : Narrowing xp (rounds + 1) (search.round xp) := by
  obtain ⟨low, high⟩ := round_bounds xp narrowing.low left
  refine ⟨low, Nat.le_trans high narrowing.high, ?_, ?_⟩
  · have half := round_halves xp narrowing.low left
    calc 2 ^ (rounds + 1) * ((search.round xp).high + 1 - (search.round xp).low)
        = 2 ^ rounds * (2 * ((search.round xp).high + 1 - (search.round xp).low)) := by
          rw [Nat.pow_succ, Nat.mul_assoc]
      _ ≤ 2 ^ rounds * (search.high + 1 - search.low) := Nat.mul_le_mul_left _ half
      _ ≤ levelMax := narrowing.left
  · exact (bisect_round narrowing.low left).trans narrowing.level

theorem Reached.narrowing (reached : Reached xp rounds search) : Narrowing xp rounds search := by
  induction reached with
  | start => exact ⟨by decide, by decide, by decide, rfl⟩
  | round _ left ih => exact ih.round left

/-- As long as a level is left, there have been no more than seven rounds. -/
theorem Narrowing.rounds_le (narrowing : Narrowing xp rounds search)
    (left : search.low ≤ search.high) : rounds ≤ 7 := by
  by_contra more
  have many : 2 ^ 8 ≤ 2 ^ rounds := Nat.pow_le_pow_right (by decide) (by omega)
  have some : 1 ≤ search.high + 1 - search.low := by omega
  have product : 2 ^ 8 * 1 ≤ levelMax :=
    Nat.le_trans (Nat.mul_le_mul many some) narrowing.left
  exact absurd product (by decide)

theorem Reached.rounds_le (reached : Reached xp rounds search) : rounds ≤ 8 := by
  cases reached with
  | start => decide
  | round earlier left => exact Nat.succ_le_succ (earlier.narrowing.rounds_le left)

/-- Where no level is left, the best one is the result. -/
theorem Narrowing.best (narrowing : Narrowing xp rounds search)
    (done : search.high < search.low) : search.best = bisect xp 1 levelMax 1 := by
  rw [← narrowing.level, bisect, if_neg (Nat.not_le.mpr done)]

/-- The search ends. -/
theorem exists_done (xp : Int) : ∃ rounds search, Reached xp rounds search ∧
    search.high < search.low := by
  by_contra endless
  have further : ∀ rounds, ∃ search, Reached xp rounds search := by
    intro rounds
    induction rounds with
    | zero => exact ⟨_, .start⟩
    | succ rounds ih =>
      obtain ⟨search, reached⟩ := ih
      apply Exists.intro
      apply reached.round
      apply Nat.le_of_not_lt
      exact fun done => endless ⟨rounds, search, reached, done⟩
  obtain ⟨_, reached⟩ := further 9
  exact absurd reached.rounds_le (by decide)

end Bisection

/-- What awards add up to; those of nothing or less do not count. -/
def gain (deltas : List Int) : Int :=
  (deltas.filter fun delta => decide (0 < delta)).sum

theorem gain_cons (delta : Int) (rest : List Int) :
    gain (delta :: rest) = max delta 0 + gain rest := by
  unfold gain
  rw [List.filter_cons]
  by_cases positive : 0 < delta
  · rw [if_pos (decide_eq_true positive), List.sum_cons, Int.max_eq_left (by omega)]
  · rw [if_neg (by simpa using positive), Int.max_eq_right (by omega), Int.zero_add]

theorem gain_nonneg (deltas : List Int) : 0 ≤ gain deltas := by
  induction deltas with
  | nil => decide
  | cons delta rest ih =>
    rw [gain_cons]
    omega

/-- Awards made one after the other. -/
def awardAll (deltas : List Int) (player : Player) : Player :=
  deltas.foldl (fun player delta => (award delta player).1) player

theorem awardAll_cons (delta : Int) (rest : List Int) (player : Player) :
    awardAll (delta :: rest) player = awardAll rest (award delta player).1 :=
  rfl

/-- Whether a player's experience is an amount, and the level is the one for it. -/
structure Settled (player : Player) : Prop where
  earned : 0 ≤ player.xp
  amount : player.xp ≤ amountMax
  level : player.level = levelFor player.xp

theorem award_idle {delta : Int} (none : delta ≤ 0) (player : Player) :
    award delta player = (player, Option.none) :=
  if_pos none

/-- An award of more than nothing adds up to the largest amount, and derives the level,
whatever it was before. -/
theorem award_counts {delta : Int} (positive : 0 < delta) {player : Player}
    (earned : 0 ≤ player.xp) :
    (award delta player).1.xp = min (player.xp + delta) amountMax ∧
      Settled (award delta player).1 := by
  have sum : max (clampAmount (player.xp + delta)) 0 = min (player.xp + delta) amountMax := by
    simp only [clampAmount, amountMin, amountMax]
    omega
  unfold award
  rw [if_neg (Int.not_le.mpr positive)]
  dsimp only
  rw [sum]
  refine ⟨rfl, ?_, Int.min_le_right _ _, rfl⟩
  simp only [amountMax]
  omega

/-- Once it is settled, a player stays so through every award. -/
theorem Settled.award {player : Player} (settled : Settled player) (delta : Int) :
    (award delta player).1.xp = min (player.xp + max delta 0) amountMax ∧
      Settled (award delta player).1 := by
  rcases Int.lt_or_le 0 delta with positive | none
  · rw [Int.max_eq_left (Int.le_of_lt positive)]
    exact award_counts positive settled.earned
  · rw [award_idle none, Int.max_eq_right none, Int.add_zero, Int.min_eq_left settled.amount]
    exact ⟨rfl, settled⟩

theorem Settled.awardAll {player : Player} (settled : Settled player) (deltas : List Int) :
    (awardAll deltas player).xp = min (player.xp + gain deltas) amountMax ∧
      Settled (awardAll deltas player) := by
  induction deltas generalizing player with
  | nil =>
    have none : player.xp + gain [] = player.xp := Int.add_zero _
    rw [none, Int.min_eq_left settled.amount]
    exact ⟨rfl, settled⟩
  | cons delta rest ih =>
    obtain ⟨first, next⟩ := settled.award delta
    obtain ⟨total, last⟩ := ih next
    have more := gain_nonneg rest
    rw [awardAll_cons]
    refine ⟨?_, last⟩
    rw [total, first, gain_cons]
    omega

/-- The first award that counts settles the player, and those before it change nothing. -/
theorem awardAll_counts {deltas : List Int} {player : Player} (earned : 0 ≤ player.xp)
    (counts : ∃ delta ∈ deltas, 0 < delta) :
    (awardAll deltas player).xp = min (player.xp + gain deltas) amountMax ∧
      Settled (awardAll deltas player) := by
  induction deltas with
  | nil => simp at counts
  | cons delta rest ih =>
    rw [awardAll_cons, gain_cons]
    rcases Int.lt_or_le 0 delta with positive | none
    · obtain ⟨first, settled⟩ := award_counts positive earned
      obtain ⟨total, last⟩ := settled.awardAll rest
      have more := gain_nonneg rest
      refine ⟨?_, last⟩
      rw [total, first]
      omega
    · have later : ∃ delta ∈ rest, 0 < delta := by
        obtain ⟨other, listed, positive⟩ := counts
        rcases List.mem_cons.mp listed with rfl | listed
        · omega
        · exact ⟨other, listed, positive⟩
      rw [award_idle none, Int.max_eq_right none, Int.zero_add]
      exact ih later

/-- An award tells of a rise exactly where the level for the experience rose. -/
theorem award_promotes {delta : Int} {player : Player} {promotion : Promotion} :
    (award delta player).2 = some promotion ↔
      levelFor player.xp < levelFor (award delta player).1.xp ∧
        promotion = ⟨levelFor player.xp, levelFor (award delta player).1.xp⟩ := by
  unfold award
  split
  · simp
  · simp [eq_comm]

end Rank

/-- Levels follow experience exactly. Among levels 1 to 200 those up to the level for
some experience are the ones that it meets. The search for it looks at no level below
1, so that there is one below to go on with, and ends after eight rounds at most. Awards
of which one at least is more than nothing leave the level for the experience, which
grows by all that are, up to the largest amount. Each award tells of a rise exactly
where the level for the experience rose, and from which level to which. -/
theorem levels_are_exact :
    (∀ xp level, 1 ≤ level → level ≤ Rank.levelMax →
      (level ≤ Rank.levelFor xp ↔ Rank.threshold level ≤ max xp 0)) ∧
    (∀ xp, (∃ rounds search, Rank.Bisection.Reached (max xp 0) rounds search ∧
        search.high < search.low) ∧
      ∀ rounds search, Rank.Bisection.Reached (max xp 0) rounds search → rounds ≤ 8 ∧
        (search.low ≤ search.high → 1 ≤ search.middle ∧ search.middle ≤ Rank.levelMax) ∧
        (search.high < search.low → search.best = Rank.levelFor xp)) ∧
    (∀ player deltas, 0 ≤ player.xp → (∃ delta ∈ deltas, 0 < delta) →
      (Rank.awardAll deltas player).level = Rank.levelFor (Rank.awardAll deltas player).xp ∧
      (Rank.awardAll deltas player).xp = min (player.xp + Rank.gain deltas) amountMax) ∧
    ∀ player delta promotion, (Rank.award delta player).2 = some promotion ↔
      Rank.levelFor player.xp < Rank.levelFor (Rank.award delta player).1.xp ∧
      promotion =
        ⟨Rank.levelFor player.xp, Rank.levelFor (Rank.award delta player).1.xp⟩ := by
  refine ⟨fun xp level positive top => Rank.le_levelFor_iff xp positive top,
    fun xp => ⟨Rank.Bisection.exists_done _, fun rounds search reached => ?_⟩,
    fun player deltas earned counts => ?_, fun _ _ _ => Rank.award_promotes⟩
  · have narrowing := reached.narrowing
    refine ⟨reached.rounds_le, fun left => ?_, narrowing.best⟩
    have bounds := Rank.Bisection.middle_bounds left
    have low := narrowing.low
    have high := narrowing.high
    omega
  · obtain ⟨total, settled⟩ := Rank.awardAll_counts earned counts
    exact ⟨settled.level, total⟩

/-- A recruit who is awarded 40 and then 15, and nothing in between, has 55 in the end,
which meets level 2, and rises to it with the second award. -/
theorem levels_are_exact_recruit :
    let recruit := Settings.standard.newPlayer 7 "ada" 1 ⟨1, "Season 1", 1000000⟩ 1000000
    (Rank.awardAll [40, -5, 15] recruit).xp = 55 ∧
      (Rank.awardAll [40, -5, 15] recruit).level = Rank.levelFor 55 ∧ 2 ≤ Rank.levelFor 55 ∧
      (Rank.award 15 (Rank.awardAll [40, -5] recruit)).2 = some ⟨1, 2⟩ ∧
      ∀ search, Rank.Bisection.Reached 55 8 search → search.high < search.low →
        search.best = Rank.levelFor 55 := by
  intro recruit
  obtain ⟨inverse, search, awards, rises⟩ := levels_are_exact
  obtain ⟨level, xp⟩ := awards recruit [40, -5, 15] (by decide) ⟨40, .head _, by decide⟩
  have total : min (recruit.xp + Rank.gain [40, -5, 15]) amountMax = 55 := by decide
  rw [total] at xp
  rw [xp] at level
  refine ⟨xp, level, (inverse 55 2 (by decide) (by decide)).mpr (by decide), ?_,
    fun last reached => ((search 55).2 8 last reached).2.2⟩
  exact (rises _ _ _).mpr (by decide +kernel)

end Starlane
