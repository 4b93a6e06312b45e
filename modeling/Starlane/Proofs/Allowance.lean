import Starlane.Proofs.Filing
import Starlane.Proofs.Footprint
import Starlane.Proofs.Limit

/-!
# What turns can be spent

A turn in hand and an interval that has not been granted yet are worth the
same: a grant changes intervals into turns, a payment takes turns away, and
nothing else adds to either. So what a player spends up to some time is bounded
by the turns at the start and the intervals since the stamp, however the clock
moves in between.
-/

namespace Starlane

namespace Player

/-- A player who still has, in turns and in intervals up to a limit, what is
left of an allowance after some turns have been spent. -/
structure Affords (interval limit allowance : Int) (spent : Nat) (player : Player) : Prop where
  subject : player.isAdmin = false
  left : ∃ stamp, player.regenStamp = some stamp ∧ stamp ≤ limit ∧
    spent + player.turns + (limit - stamp) / max interval regenIntervalMin ≤ allowance

variable {interval limit allowance : Int} {spent : Nat} {player : Player}

/-- Intervals that have passed no longer count from a stamp moved by them. -/
theorem intervals_after_grant {interval : Int} (positive : 0 < interval)
    (limit stamp periods : Int) :
    (limit - (stamp + periods * interval)) / interval = (limit - stamp) / interval - periods := by
  have shifted : limit - (stamp + periods * interval) = limit - stamp + -periods * interval := by
    rw [Int.neg_mul]
    omega
  rw [shifted, Int.add_mul_ediv_right _ _ (Int.ne_of_gt positive)]
  omega

/-- A grant turns intervals into at most as many turns. -/
theorem Affords.regenerate (affords : player.Affords interval limit allowance spent) {now : Int}
    (timely : now ≤ limit) :
    (player.regenerate interval now).1.Affords interval limit allowance spent := by
  obtain ⟨subject, stamp, stamped, late, bound⟩ := affords
  have positive : 0 < max interval regenIntervalMin := by
    have ten : regenIntervalMin = 10 := rfl
    omega
  unfold Player.regenerate
  simp only [stamped]
  split
  · exact ⟨subject, stamp, stamped, late, bound⟩
  · next elapsed =>
    have moved := intervals_after_grant positive limit stamp
      ((now - stamp) / max interval regenIntervalMin)
    have within : (now - stamp) / max interval regenIntervalMin *
        max interval regenIntervalMin ≤ now - stamp := Int.ediv_mul_le _ (Int.ne_of_gt positive)
    have forward : 0 ≤ (now - stamp) / max interval regenIntervalMin :=
      Int.ediv_nonneg (by omega) (Int.le_of_lt positive)
    refine ⟨subject, _, rfl, by omega, ?_⟩
    rw [moved]
    dsimp only [addCapped]
    omega

/-- A payment takes from the turns what it adds to those spent. -/
theorem Affords.pay (affords : player.Affords interval limit allowance spent) {cost : Nat}
    (affordable : cost ≤ player.turns) :
    { player with turns := player.turns - cost }.Affords interval limit allowance
      (spent + cost) := by
  obtain ⟨subject, stamp, stamped, late, bound⟩ := affords
  refine ⟨subject, stamp, stamped, late, ?_⟩
  dsimp only
  omega

/-- Having fewer turns is no gain. -/
theorem Affords.fewer (affords : player.Affords interval limit allowance spent) {other : Player}
    (admin : other.isAdmin = player.isAdmin) (stamp : other.regenStamp = player.regenStamp)
    (turns : other.turns ≤ player.turns) : other.Affords interval limit allowance spent := by
  obtain ⟨subject, last, stamped, late, bound⟩ := affords
  refine ⟨admin.trans subject, last, stamp.trans stamped, late, ?_⟩
  omega

end Player

/-- A deed grants no turns: a smaller ship may lose some. -/
theorem Deed.commander_turns {look : Lookup} {now : Int} {commander : Commander}
    {command : Command} {effects : Effects} (deed : Deed look now commander command effects) :
    effects.commander.isAdmin = commander.isAdmin ∧
      effects.commander.regenStamp = commander.regenStamp ∧
      effects.commander.turns ≤ commander.turns := by
  cases deed with
  | moved =>
    rw [Plan.arrival_eq]
    exact ⟨rfl, rfl, Nat.le_refl _⟩
  | boughtShip | soldShip => exact ⟨rfl, rfl, Nat.min_le_left _ _⟩
  | _ => exact ⟨rfl, rfl, Nat.le_refl _⟩

/-- The turns that an answer has cost a player who is no administrator. -/
def Command.spending (command : Command) (answer : Except StoreFailure Response) : Nat :=
  if wasAccepted answer then command.turnCost else 0

/-- The runs from a start in which all commands come by a time, with the turns
that the accepted commands of a player have cost. Clocks may go backwards,
everybody may give commands, and the storage may give out. -/
inductive Outlay (settings : Settings) (player : PlayerId) (limit : Int) (start : World) :
    Nat → World → Prop
  | start : Outlay settings player limit start 0 start
  | own {spent : Nat} {storage after : Storage} {now : Int} {request : Request}
      {answer : Except StoreFailure Response}
      (before : Outlay settings player limit start spent storage.world) (timely : now ≤ limit)
      (executed : Storage.execute settings now player request storage = (answer, after)) :
      Outlay settings player limit start
        (spent + (Command.ofRequest request).spending answer) after.world
  | foreign {spent : Nat} {storage after : Storage} {now : Int} {other : PlayerId}
      {request : Request} {answer : Except StoreFailure Response}
      (before : Outlay settings player limit start spent storage.world) (timely : now ≤ limit)
      (different : other ≠ player)
      (executed : Storage.execute settings now other request storage = (answer, after)) :
      Outlay settings player limit start spent after.world
  | joined {spent : Nat} {world after : World} {id : PlayerId}
      (before : Outlay settings player limit start spent world)
      (step : Step settings world (.joined id) after) :
      Outlay settings player limit start spent after
  | ticked {spent : Nat} {world after : World}
      (before : Outlay settings player limit start spent world)
      (step : Step settings world .ticked after) :
      Outlay settings player limit start spent after

namespace Outlay

variable {settings : Settings} {player : PlayerId} {limit : Int} {start world : World}
  {spent : Nat}

theorem reachable (outlay : Outlay settings player limit start spent world)
    (before : start.Reachable) : world.Reachable := by
  induction outlay with
  | start => exact before
  | own _ _ executed ih => exact ih.executed executed
  | foreign _ _ _ executed ih => exact ih.executed executed
  | joined _ step ih => exact .step ih step
  | ticked _ step ih => exact .step ih step

end Outlay

section Requests

variable {settings : Settings} {now : Int} {player other : PlayerId} {request : Request}
  {world : World} {answer : Except StoreFailure Response} {storage after : Storage}

/-- A request leaves the rows of all others alone. -/
theorem Storage.execute_others (filed : storage.world.Filed)
    (executed : Storage.execute settings now player request storage = (answer, after))
    (different : other ≠ player) :
    after.world.players.get? other = storage.world.players.get? other := by
  rcases Storage.outcomes executed with ⟨_, _, same⟩ | ⟨_, row, _, refused⟩ |
    ⟨_, row, effects, _, accepted⟩
  · rw [same]
  · have own : row.id = player := filed.players player row refused.found
    rw [refused.committed, World.written, Player.regenerate_id, own]
    exact Table.get?_insert_of_ne _ _ different
  · obtain ⟨experience, logs, same⟩ := accepted.state (filed.players player row accepted.found)
    rw [same]
    exact Table.get?_insert_of_ne _ _ different

/-- A request that fails leaves the player's row alone, and one that is refused
grants turns: neither takes any. -/
theorem Storage.execute_unaccepted (filed : storage.world.Filed)
    (executed : Storage.execute settings now player request storage = (answer, after))
    (unaccepted : wasAccepted answer = false) {row : Player}
    (found : storage.world.players.get? player = some row) :
    after.world.players.get? player = some row ∨
      after.world.players.get? player =
        some (row.regenerate settings.turnRegenSeconds now).1 := by
  rcases Storage.outcomes executed with ⟨_, _, same⟩ | ⟨_, loaded, _, refused⟩ |
    ⟨_, _, _, rfl, accepted⟩
  · rw [same]
    exact .inl found
  · have own : loaded.id = player := filed.players player loaded refused.found
    have same := refused.found
    rw [found] at same
    cases same
    apply Or.inr
    rw [refused.committed, World.written, Player.regenerate_id, own]
    exact Table.get?_insert_self _ _ _
  · rw [wasAccepted, accepted.accepted] at unaccepted
    cases unaccepted

/-- An accepted request of a player who affords it leaves what is afforded
after it. -/
theorem Accepted.affords {command : Command} {row : Player} {effects : Effects}
    {response : Response} {later : World} {limit allowance : Int} {spent : Nat}
    (accepted : Accepted settings now player command world row effects response later)
    (filed : world.Filed) (timely : now ≤ limit)
    (affords : row.Affords settings.turnRegenSeconds limit allowance spent) :
    ∃ saved, later.players.get? player = some saved ∧
      saved.Affords settings.turnRegenSeconds limit allowance (spent + command.turnCost) := by
  obtain ⟨experience, logs, same⟩ := accepted.state (filed.players player row accepted.found)
  have granted := affords.regenerate timely
  have cost : command.costFor (world.present settings now player row) = command.turnCost := by
    have subject : (world.present settings now player row).isAdmin = false := granted.subject
    rw [Command.costFor, subject]
    rfl
  have affordable := accepted.affordable
  rw [cost] at affordable
  have paid := granted.pay affordable
  obtain ⟨admin, stamp, turns⟩ := accepted.deed.commander_turns
  rw [Command.paidBy, cost] at admin stamp turns
  refine ⟨_, by rw [same]; exact Table.get?_insert_self _ _ _, ?_⟩
  rw [Rank.award_frame]
  exact (paid.fewer admin stamp turns).fewer rfl rfl (Nat.le_refl _)

end Requests

/-- Tickers and players who join leave the row of a player alone. -/
theorem Step.player_stays {settings : Settings} {world after : World} {what : Occurrence}
    (step : Step settings world what after)
    (uncommanded : ∀ player command accepted, what ≠ .commanded player command accepted)
    {player : PlayerId} {row : Player} (found : world.players.get? player = some row) :
    after.players.get? player = some row := by
  cases step with
  | @join now id username fresh =>
    have different : player ≠ id := by
      intro same
      rw [← same, found] at fresh
      cases fresh
    obtain ⟨seasons, same | ⟨_, _, _, same⟩⟩ := world.join_cases settings now id username
    · rw [same]
      exact found
    · rw [same]
      exact (Table.get?_insert_of_ne _ _ different).trans found
  | command => exact absurd rfl (uncommanded _ _ _)
  | portTick | planetTick | protectorateTick => exact found
  | @eventTick γ _ now dice =>
    obtain ⟨_, _, _, same⟩ := world.eventTick_frame now dice
    rw [same]
    exact found

/-- Along a run a player keeps what is left of the allowance of the start. -/
theorem Outlay.affords {settings : Settings} {player : PlayerId} {limit allowance : Int}
    {start world : World} {spent : Nat} {row : Player}
    (outlay : Outlay settings player limit start spent world) (reachable : start.Reachable)
    (found : start.players.get? player = some row)
    (affords : row.Affords settings.turnRegenSeconds limit allowance 0) :
    ∃ later, world.players.get? player = some later ∧
      later.Affords settings.turnRegenSeconds limit allowance spent := by
  induction outlay with
  | start => exact ⟨row, found, affords⟩
  | @own spent storage after now request answer before timely executed ih =>
    obtain ⟨current, present, holds⟩ := ih
    have filed := (before.reachable reachable).filed
    cases verdict : wasAccepted answer with
    | true =>
      rw [Command.spending, if_pos verdict]
      rcases Storage.outcomes executed with ⟨_, rfl, _⟩ | ⟨_, _, rfl, refused⟩ |
        ⟨_, loaded, _, rfl, accepted⟩
      · cases verdict
      · rw [wasAccepted, refused.refusal] at verdict
        cases verdict
      · have same := accepted.found
        rw [present] at same
        cases same
        exact accepted.affords filed timely holds
    | false =>
      rw [Command.spending, verdict, if_neg Bool.false_ne_true]
      rcases Storage.execute_unaccepted filed executed verdict present with kept | granted
      · exact ⟨current, kept, holds⟩
      · exact ⟨_, granted, holds.regenerate timely⟩
  | foreign before _ different executed ih =>
    obtain ⟨current, present, holds⟩ := ih
    refine ⟨current, ?_, holds⟩
    rw [Storage.execute_others (before.reachable reachable).filed executed different.symm]
    exact present
  | joined _ step ih | ticked _ step ih =>
    obtain ⟨current, present, holds⟩ := ih
    exact ⟨current, step.player_stays nofun present, holds⟩

/-- Up to any time a player who is no administrator can spend no more than the
turns at the start and one for each whole interval since the stamp. Commands
that are refused or fail take no turns. -/
theorem turns_are_earned {settings : Settings} {player : PlayerId} {limit last : Int}
    {start world : World} {spent : Nat} {row : Player} (reachable : start.Reachable)
    (found : start.players.get? player = some row) (subject : row.isAdmin = false)
    (stamped : row.regenStamp = some last) (late : last ≤ limit)
    (outlay : Outlay settings player limit start spent world) :
    spent ≤ row.turns + (limit - last) / max (settings.turnRegenSeconds : Int) 10 ∧
      ∀ now request budget answer after,
        Storage.execute settings now player request ⟨world, budget⟩ = (answer, after) →
        wasAccepted answer = false →
        ∃ before, world.players.get? player = some before ∧
          (after.world.players.get? player = some before ∨
            after.world.players.get? player =
              some (before.regenerate settings.turnRegenSeconds now).1) := by
  have opening : row.Affords settings.turnRegenSeconds limit
      (row.turns + (limit - last) / max (settings.turnRegenSeconds : Int) 10) 0 := by
    refine ⟨subject, last, stamped, late, ?_⟩
    rw [Player.regenIntervalMin]
    omega
  obtain ⟨current, present, _, stamp, _, early, bound⟩ :=
    outlay.affords reachable found opening
  refine ⟨?_, fun now request budget answer after executed unaccepted => ?_⟩
  · have rest : 0 ≤ (limit - stamp) /
        max (settings.turnRegenSeconds : Int) Player.regenIntervalMin := by
      apply Int.ediv_nonneg
      · omega
      · have ten : Player.regenIntervalMin = 10 := rfl
        omega
    omega
  · have filed := (outlay.reachable reachable).filed
    exact ⟨current, present, Storage.execute_unaccepted filed executed unaccepted present⟩

/-- The drill with a pilot who has used up all turns. -/
def Drill.exhausted : World :=
  (World.empty.addUniverse layout).addPlayer
    { Settings.standard.newPlayer 7 "ada" 2 ⟨1, "Season 1", startTime⟩ startTime with turns := 0 }

/-- After one interval the exhausted pilot can scan, and that is all that the
interval pays for. -/
theorem turns_are_earned_exhausted :
    ∃ row world, Drill.exhausted.players.get? 7 = some row ∧ row.turns = 0 ∧
      Outlay .standard 7 (Drill.startTime + 120) Drill.exhausted 1 world ∧
      ((1 : Nat) : Int) ≤ row.turns + (Drill.startTime + 120 - Drill.startTime) / 120 := by
  obtain ⟨row, found⟩ := Option.isSome_iff_exists.mp
    (show (Drill.exhausted.players.get? 7).isSome = true by decide +kernel)
  have opening : (Drill.exhausted.players.get? 7).map
      (fun row => (row.isAdmin, row.turns, row.regenStamp)) =
        some (false, 0, some Drill.startTime) := by decide +kernel
  rw [found] at opening
  obtain ⟨subject, turns, stamped⟩ : row.isAdmin = false ∧ row.turns = 0 ∧
      row.regenStamp = some Drill.startTime := by simpa using opening
  obtain ⟨response, after, executed, accepted⟩ := Storage.execute_answered
    (show (Storage.execute Settings.standard (Drill.startTime + 120) 7 (.ofKind "SCAN")
      (.ofWorld Drill.exhausted)).1.toOption.map Response.ok = some true by decide +kernel)
  have cost : (Command.ofRequest (.ofKind "SCAN")).turnCost = 1 := by decide +kernel
  have idle : Outlay .standard 7 (Drill.startTime + 120) Drill.exhausted 0 Drill.exhausted :=
    .start
  have outlay := Outlay.own idle (Int.le_refl _) executed
  rw [Command.spending, wasAccepted, if_pos accepted, cost] at outlay
  have late : Drill.startTime ≤ Drill.startTime + 120 := by decide
  exact ⟨row, after.world, found, turns, outlay,
    (turns_are_earned (.seed (.seed .empty (.layout _)) (.player _)) found subject stamped late
      outlay).1⟩

end Starlane
