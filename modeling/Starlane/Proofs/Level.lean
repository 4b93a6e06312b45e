import Mathlib.Tactic.NormNum
import Mathlib.Tactic.Ring
import Starlane.Rank

/-!
# Levels follow experience

The bisection finds the highest level whose threshold is met, so the level of a
total of experience rises with it.  An award keeps every other field of the
player and never lowers experience or level.
-/

namespace Starlane.Rank

theorem threshold_eq (level : Nat) (positive : 1 ≤ level) :
    threshold level = 25 * ((min level levelMax : Nat) - 1 : Int) * (min level levelMax : Nat) := by
  simp only [threshold, ← Nat.cast_min]
  have bound : 1 ≤ min level levelMax := by unfold levelMax; omega
  generalize min level levelMax = n at bound ⊢
  split
  · have one : (n : Int) = 1 := by omega
    rw [one]
    norm_num
  · rw [show (50 * ((n : Int) - 1) * n) = 2 * (25 * ((n : Int) - 1) * n) by ring]
    exact Int.mul_ediv_cancel_left _ (by decide)

theorem threshold_mono {low high : Nat} (positive : 1 ≤ low) (order : low ≤ high) :
    threshold low ≤ threshold high := by
  rw [threshold_eq low positive, threshold_eq high (Nat.le_trans positive order)]
  have bound : 1 ≤ min low levelMax := by unfold levelMax; omega
  have order' : min low levelMax ≤ min high levelMax := by omega
  generalize min low levelMax = a at bound order'
  generalize min high levelMax = b at order'
  have first : (25 * ((a : Int) - 1)) ≤ 25 * ((b : Int) - 1) := by omega
  have second : (a : Int) ≤ b := by omega
  exact Int.mul_le_mul first second (by omega) (by omega)

/-- The bisection keeps `best` met, the levels above `high` unmet and no gap
between `best` and `low`; where it stops, the level after `best` is unmet. -/
theorem bisect_spec (xp : Int) (low high best : Nat) (positive : 1 ≤ low)
    (met : threshold best ≤ xp) (adjacent : low ≤ best + 1)
    (unmet : ∀ level, high < level → level ≤ levelMax → xp < threshold level) :
    threshold (bisect xp low high best) ≤ xp ∧
      ∀ level, bisect xp low high best < level → level ≤ levelMax → xp < threshold level := by
  fun_induction bisect xp low high best with
  | case1 low high best _ middle reached ih =>
    have inside : low ≤ middle := by omega
    exact ih (by omega) reached (by omega) unmet
  | case2 low high best _ middle missed _ ih =>
    refine ih positive met adjacent fun level above _ => ?_
    exact Int.lt_of_lt_of_le (Int.not_le.mp missed) (threshold_mono (by omega) (by omega))
  | case3 low high best _ middle missed _ =>
    refine ⟨met, fun level above _ => ?_⟩
    exact Int.lt_of_lt_of_le (Int.not_le.mp missed) (threshold_mono (by omega) (by omega))
  | case4 low high best _ => exact ⟨met, fun level above => unmet level (by omega)⟩

private theorem bisect_range (xp : Int) (low high best : Nat) (start : 1 ≤ low)
    (positive : 1 ≤ best) (below : best ≤ levelMax) (top : high ≤ levelMax) :
    1 ≤ bisect xp low high best ∧ bisect xp low high best ≤ levelMax := by
  fun_induction bisect xp low high best with
  | case1 low high best _ middle _ ih => exact ih (by omega) (by omega) (by omega) top
  | case2 low high best _ middle _ _ ih => exact ih start positive below (by omega)
  | case3 => exact ⟨positive, below⟩
  | case4 => exact ⟨positive, below⟩

theorem levelFor_range (xp : Int) : 1 ≤ levelFor xp ∧ levelFor xp ≤ levelMax :=
  bisect_range (max xp 0) 1 levelMax 1 (by decide) (by decide) (by decide) (by decide)

/-- Among levels 1 to 200 exactly those up to the level of some experience are
met by it. -/
theorem le_levelFor_iff (xp : Int) {level : Nat} (positive : 1 ≤ level) (top : level ≤ levelMax) :
    level ≤ levelFor xp ↔ threshold level ≤ max xp 0 := by
  have first : threshold 1 ≤ max xp 0 := Int.le_max_right _ _
  obtain ⟨met, unmet⟩ := bisect_spec (max xp 0) 1 levelMax 1 (by decide) first (by decide)
    (fun level above below => absurd below (Nat.not_le.mpr above))
  constructor
  · intro below
    exact Int.le_trans (threshold_mono positive below) met
  · intro reached
    by_contra above
    exact absurd reached (Int.not_le.mpr (unmet level (Nat.not_le.mp above) top))

/-- More experience never means a lower level. -/
theorem levelFor_mono {xp more : Int} (order : xp ≤ more) : levelFor xp ≤ levelFor more := by
  obtain ⟨positive, top⟩ := levelFor_range xp
  have met : threshold (levelFor xp) ≤ max xp 0 :=
    (le_levelFor_iff xp positive top).mp (Nat.le_refl _)
  exact (le_levelFor_iff more positive top).mpr (Int.le_trans met (by omega))

/-- An award touches experience and level only. -/
theorem award_frame (delta : Int) (player : Player) :
    (award delta player).1 =
      { player with xp := (award delta player).1.xp, level := (award delta player).1.level } := by
  unfold award
  split <;> rfl

theorem award_id (delta : Int) (player : Player) : (award delta player).1.id = player.id := by
  rw [award_frame]

/-- An award keeps the level in step with the experience. -/
theorem award_level (delta : Int) (player : Player) (level : player.level = levelFor player.xp) :
    (award delta player).1.level = levelFor (award delta player).1.xp := by
  unfold award
  split
  · exact level
  · rfl

/-- An award never lowers experience, which stays within its range. -/
theorem award_xp (delta : Int) (player : Player) (bounded : player.xp ≤ amountMax) :
    player.xp ≤ (award delta player).1.xp ∧ (award delta player).1.xp ≤ amountMax := by
  unfold award
  split
  · exact ⟨Int.le_refl _, bounded⟩
  · simp only [clampAmount, amountMin, amountMax] at bounded ⊢
    omega

end Starlane.Rank
