import Starlane.Proofs.Allowance

/-!
# Grants of turns compose

However often turns are granted, and in whatever order the clock is read, a
player ends up with the grants of the latest reading: the row stays the one that
some number of whole intervals since the first stamp makes of it, and a reading
only ever raises that number to the intervals that have passed by then.
-/

namespace Starlane

namespace Player

/-- The whole intervals from a stamp to a time; none if the time is earlier. -/
def intervalsDue (interval last now : Int) : Nat :=
  ((now - last) / max interval regenIntervalMin).toNat

/-- A player stamped at a time to whom the turns of some intervals have been
granted since. -/
def accrued (player : Player) (interval last : Int) (periods : Nat) : Player :=
  { player with
    turns := if 0 < periods then min (player.turns + periods) player.turnsMax else player.turns
    regenStamp := some (last + periods * max interval regenIntervalMin) }

/-- The player after grants at some times, one after the other. -/
def regenerateAll (interval : Int) (times : List Int) (player : Player) : Player :=
  times.foldl (fun player now => (player.regenerate interval now).1) player

theorem interval_pos (interval : Int) : 0 < max interval regenIntervalMin := by
  unfold regenIntervalMin
  omega

variable {player : Player} (interval last : Int)

/-- Nothing has been granted yet. -/
theorem accrued_zero (stamped : player.regenStamp = some last) :
    player.accrued interval last 0 = player := by
  cases player
  cases stamped
  simp [accrued]

/-- A later time has seen as many intervals. -/
theorem intervalsDue_mono {now later : Int} (order : now ≤ later) :
    intervalsDue interval last now ≤ intervalsDue interval last later := by
  unfold intervalsDue
  have quotients := Int.ediv_le_ediv (interval_pos interval) (Int.sub_le_sub_right order last)
  omega

/-- A sum may stop at the end of its range only where the ship stores no more. -/
theorem stored_turns {turns turnsMax : Nat} (fits : turnsMax ≤ counterMax) (periods fresh : Nat) :
    min (addCapped (if 0 < periods then min (turns + periods) turnsMax else turns)
      (min (fresh : Int).toNat counterMax)) turnsMax =
        min (turns + (periods + fresh)) turnsMax := by
  unfold addCapped
  split <;> omega

/-- A grant raises the intervals granted to those that have passed. -/
theorem regenerate_accrued (fits : player.turnsMax ≤ counterMax) (periods : Nat) (now : Int) :
    ((player.accrued interval last periods).regenerate interval now).1 =
      player.accrued interval last (max periods (intervalsDue interval last now)) := by
  have positive := interval_pos interval
  have rest := intervals_after_grant positive now last periods
  unfold regenerate
  dsimp only [accrued]
  split
  · next early =>
    have none : (now - (last + periods * max interval regenIntervalMin)) /
        max interval regenIntervalMin < 1 := by
      apply Int.ediv_lt_of_lt_mul positive
      rw [Int.one_mul]
      exact early
    have same : max periods (intervalsDue interval last now) = periods := by
      unfold intervalsDue
      omega
    rw [same]
  · next late =>
    have some : 1 ≤ (now - (last + periods * max interval regenIntervalMin)) /
        max interval regenIntervalMin := by
      apply Int.le_ediv_of_mul_le positive
      rw [Int.one_mul]
      exact Int.not_lt.mp late
    obtain ⟨fresh, counted⟩ := Int.eq_ofNat_of_zero_le (Int.le_trans (by decide) some)
    rw [counted] at some rest ⊢
    have due : max periods (intervalsDue interval last now) = periods + fresh := by
      unfold intervalsDue
      omega
    have stamp : last + periods * max interval regenIntervalMin +
        fresh * max interval regenIntervalMin =
        last + (periods + fresh : Nat) * max interval regenIntervalMin := by
      rw [Int.natCast_add, Int.add_mul, Int.add_assoc]
    rw [due, stamp, stored_turns fits, if_pos (by omega : 0 < periods + fresh)]

/-- Grants one after the other come to one for as many intervals as the latest of
the times has seen. -/
theorem regenerateAll_accrued (fits : player.turnsMax ≤ counterMax) {times : List Int}
    {latest : Int} (final : ∀ now ∈ times, now ≤ latest) (periods : Nat) :
    ∃ granted, regenerateAll interval times (player.accrued interval last periods) =
        player.accrued interval last granted ∧
      periods ≤ granted ∧ granted ≤ max periods (intervalsDue interval last latest) ∧
      (latest ∈ times → intervalsDue interval last latest ≤ granted) := by
  induction times generalizing periods with
  | nil => exact ⟨periods, rfl, Nat.le_refl _, Nat.le_max_left _ _, nofun⟩
  | cons now rest ih =>
    have sooner : intervalsDue interval last now ≤ intervalsDue interval last latest :=
      intervalsDue_mono interval last (final now (.head _))
    obtain ⟨granted, same, more, most, seen⟩ :=
      ih (fun later member => final later (.tail _ member))
        (max periods (intervalsDue interval last now))
    refine ⟨granted, ?_, by omega, by omega, fun among => ?_⟩
    · rw [← same, regenerateAll, List.foldl_cons, regenerate_accrued interval last fits]
      rfl
    · rcases List.mem_cons.mp among with rfl | among
      · omega
      · exact seen among

end Player

/-- Grants of turns at any times, in any order, leave a player with the grant at
the latest of them: one turn for each whole interval since the stamp, as far as
the ship stores them, and the stamp moved by those intervals. -/
theorem grants_compose {player : Player} {last : Int} (stamped : player.regenStamp = some last)
    (fits : player.turnsMax ≤ counterMax) (interval : Int) {times : List Int} {latest : Int}
    (among : latest ∈ times) (final : ∀ now ∈ times, now ≤ latest) :
    let periods := ((latest - last) / max 10 interval).toNat
    player.regenerateAll interval times = (player.regenerate interval latest).1 ∧
      player.regenerateAll interval times =
        { player with
          turns := if 0 < periods then min (player.turns + periods) player.turnsMax
            else player.turns
          regenStamp := some (last + periods * max 10 interval) } := by
  intro periods
  have rate : max interval Player.regenIntervalMin = max 10 interval := Int.max_comm _ _
  have due : Player.intervalsDue interval last latest = periods := by
    rw [Player.intervalsDue, rate]
  obtain ⟨granted, several, _, most, seen⟩ :=
    Player.regenerateAll_accrued interval last fits final 0
  have all : granted = periods := by
    have reached := seen among
    omega
  have once := Player.regenerate_accrued interval last fits 0 latest
  rw [Player.accrued_zero interval last stamped] at several once
  rw [Nat.zero_max, due] at once
  rw [several, once, all]
  refine ⟨rfl, ?_⟩
  rw [Player.accrued, rate]

/-- The pilot of the drill, whose clock is read late, early, and a little later
still: two intervals have passed by the latest reading. -/
theorem grants_compose_clock :
    let pilot := Settings.standard.newPlayer 7 "ada" 2 ⟨1, "Season 1", 1000⟩ 1000
    ({ pilot with turns := 5 }).regenerateAll 60 [1119, 900, 1130, 1100] =
      { pilot with turns := 7, regenStamp := some 1120 } := by
  intro pilot
  have stamped : ({ pilot with turns := 5 } : Player).regenStamp = some 1000 := rfl
  have among : 1130 ∈ [1119, 900, 1130, (1100 : Int)] := by decide
  have final : ∀ now ∈ [1119, 900, 1130, (1100 : Int)], now ≤ 1130 := by decide
  exact (grants_compose stamped (by decide) 60 among final).2

end Starlane
