import Starlane.Proofs.Limit
import Starlane.Proofs.PlayerInvariant

/-!
# What shipyards are worth

A ship resells for less than it costs, upgrades are lost with their hull, and
the scout that comes for nothing resells for nothing. So a player's credits,
together with what the shipyard would pay for the ship, never rise by orders at
shipyards, whatever their number and order and whether or not they are
accepted; and no order touches the cargo or leaves it without room.
-/

namespace Starlane

namespace Ship

theorem resale_le_price (ship : Ship) : ship.resale ≤ ship.price := by
  cases ship <;> decide

theorem resale_nonneg (ship : Ship) : 0 ≤ ship.resale := by
  cases ship <;> decide

/-- Cargo that fits a new hull by the number that is shown, which is capped, fits
it unit by unit. -/
theorem units_le {ship : Ship} {goods : Goods Nat} (roomy : goods.total ≤ ship.cargoMax) :
    goods.units ≤ ship.cargoMax := by
  have small : ship.cargoMax < counterMax := by cases ship <;> decide
  rw [Goods.total_eq_min] at roomy
  omega

end Ship

theorem cargoUpgradeCost_nonneg (done : Nat) : 0 ≤ cargoUpgradeCost done := by
  unfold cargoUpgradeCost
  omega

theorem turnUpgradeCost_nonneg (done : Nat) : 0 ≤ turnUpgradeCost done := by
  unfold turnUpgradeCost
  omega

/-- The credits of a player, and those that the ship would bring. -/
def Player.worth (player : Player) : Int :=
  player.credits + player.ship.resale

/-- A scout would bring nothing. -/
theorem Player.worth_scout {player : Player} (scout : player.ship = .scout) :
    player.worth = player.credits := by
  rw [worth, scout]
  exact Int.add_zero _

/-- To spend on the ship at hand is no gain. -/
theorem Player.worth_spent (player : Player) {cost : Int} (nonneg : 0 ≤ cost) :
    player.credits - cost + player.ship.resale ≤ player.worth := by
  unfold worth
  omega

/-- What shipyards leave of a player: no more worth, the same cargo in the same
place, and room for the cargo if there was room before. Cargo is counted as it
is shown, where the number is capped, and unit by unit. -/
structure Player.NoGain (before after : Player) : Prop where
  worth : after.worth ≤ before.worth
  cargo : after.cargo = before.cargo
  sector : after.sector = before.sector
  shown : before.cargo.total ≤ before.cargoMax → after.cargo.total ≤ after.cargoMax
  units : before.cargo.units ≤ before.cargoMax → after.cargo.units ≤ after.cargoMax

namespace Player.NoGain

variable {before between after player : Player}

theorem refl (player : Player) : player.NoGain player :=
  ⟨Int.le_refl _, rfl, rfl, fun fits => fits, fun fits => fits⟩

theorem trans (first : before.NoGain between) (second : between.NoGain after) :
    before.NoGain after where
  worth := Int.le_trans second.worth first.worth
  cargo := second.cargo.trans first.cargo
  sector := second.sector.trans first.sector
  shown := second.shown ∘ first.shown
  units := second.units ∘ first.units

/-- Turns are worth nothing at a shipyard. -/
theorem turned (turns : Nat) (stamp : Option Int) (player : Player) :
    player.NoGain { player with turns, regenStamp := stamp } :=
  ⟨Int.le_refl _, rfl, rfl, fun fits => fits, fun fits => fits⟩

theorem regenerate (interval now : Int) (player : Player) :
    player.NoGain (player.regenerate interval now).1 := by
  obtain ⟨turns, stamp, same⟩ := player.regenerate_frame interval now
  rw [same]
  exact .turned turns stamp player

/-- Nor is experience. -/
theorem award (delta : Int) (player : Player) : player.NoGain (Rank.award delta player).1 := by
  rw [Rank.award_frame]
  exact ⟨Int.le_refl _, rfl, rfl, fun fits => fits, fun fits => fits⟩

/-- A new hull is no gain if the credits that are left make up for what it would
bring. -/
theorem refit {credits : Int} {ship : Ship} (roomy : player.cargo.total ≤ ship.cargoMax)
    (charged : credits + ship.resale ≤ player.worth) :
    player.NoGain (Plan.refit { player with credits } ship) where
  worth := charged
  cargo := rfl
  sector := rfl
  shown := fun _ => roomy
  units := fun _ => Ship.units_le roomy

end Player.NoGain

/-- No order at a shipyard is a gain. -/
theorem Deed.noGain {look : Lookup} {now : Int} {commander : Commander} {order : YardOrder}
    {effects : Effects} (deed : Deed look now commander (.shipyard order) effects) :
    commander.toPlayer.NoGain effects.commander.toPlayer := by
  cases deed with
  | informed => exact .refl _
  | @boughtShip _ ship _ _ _ _ _ _ _ roomy =>
    have less := ship.resale_le_price
    have kept := commander.ship.resale_nonneg
    have charged : commander.credits - ship.price + ship.resale ≤ commander.worth := by
      unfold Player.worth
      omega
    exact .refit roomy charged
  | soldShip _ _ _ roomy => exact .refit roomy (Int.le_of_eq (Int.add_zero _))
  | upgradedCargo =>
    have charged := commander.worth_spent (cargoUpgradeCost_nonneg commander.cargoUpgrades)
    exact ⟨charged, rfl, rfl, (Nat.le_add_right_of_le ·), (Nat.le_add_right_of_le ·)⟩
  | upgradedTurns =>
    have charged := commander.worth_spent (turnUpgradeCost_nonneg commander.turnUpgrades)
    exact ⟨charged, rfl, rfl, fun fits => fits, fun fits => fits⟩

/-- An accepted order at a shipyard leaves the player there, with no gain. -/
theorem Accepted.noGain {settings : Settings} {now : Int} {player : PlayerId} {order : YardOrder}
    {world after : World} {row : Player} {effects : Effects} {response : Response}
    (accepted : Accepted settings now player (.shipyard order) world row effects response after) :
    ∃ later, after.players.get? player = some later ∧ row.NoGain later := by
  obtain ⟨logs, same⟩ := accepted.tables
  obtain ⟨turns, stamp, paid⟩ :=
    Command.paidBy_frame (.shipyard order) world settings now player row
  have deed := accepted.deed
  rw [paid] at deed
  have ordered := ((Player.NoGain.turned turns stamp row).trans deed.noGain).trans
    (.award ((Command.shipyard order).rewardFor (world.present settings now player row)) _)
  rw [same]
  dsimp only
  rw [deed.players, Table.get?_insert]
  split
  · exact ⟨_, rfl, ordered⟩
  · exact ⟨row, accepted.found, .refl row⟩

/-- An order at a shipyard, behind any limit on writes, leaves the player there
with no gain, whether it fails, is refused or is accepted. -/
theorem Storage.execute_noGain {settings : Settings} {now : Int} {player : PlayerId}
    {request : Request} {order : YardOrder} {answer : Except StoreFailure Response}
    {storage after : Storage} {row : Player}
    (executed : Storage.execute settings now player request storage = (answer, after))
    (asked : Command.ofRequest request = .shipyard order)
    (found : storage.world.players.get? player = some row) :
    ∃ later, after.world.players.get? player = some later ∧ row.NoGain later := by
  rcases Storage.outcomes executed with ⟨_, _, same⟩ | ⟨_, loaded, _, refused⟩ |
    ⟨_, loaded, _, _, accepted⟩
  · rw [same]
    exact ⟨row, found, .refl row⟩
  · cases found.symm.trans refused.found
    rw [refused.committed, World.written, Table.get?_insert]
    split
    · exact ⟨_, rfl, .regenerate _ _ row⟩
    · exact ⟨row, found, .refl row⟩
  · rw [asked] at accepted
    cases found.symm.trans accepted.found
    exact accepted.noGain

/-- The worlds to which orders at shipyards by one player lead, in order. They
may name anything and be refused or fail; settings, times and limits on writes
may differ from one to the next. -/
inductive YardVisit (player : PlayerId) (start : World) : List YardOrder → World → Prop
  | start : YardVisit player start [] start
  | order {orders : List YardOrder} {order : YardOrder} {settings : Settings} {now : Int}
      {request : Request} {storage after : Storage} {answer : Except StoreFailure Response}
      (before : YardVisit player start orders storage.world)
      (asked : Command.ofRequest request = .shipyard order)
      (executed : Storage.execute settings now player request storage = (answer, after)) :
      YardVisit player start (orders ++ [order]) after.world

/-- Orders at shipyards are no gain together. -/
theorem YardVisit.noGain {player : PlayerId} {start world : World} {orders : List YardOrder}
    {row : Player} (visit : YardVisit player start orders world)
    (found : start.players.get? player = some row) :
    ∃ last, world.players.get? player = some last ∧ row.NoGain last := by
  induction visit with
  | start => exact ⟨row, found, .refl row⟩
  | order _ asked executed ih =>
    obtain ⟨current, present, kept⟩ := ih
    obtain ⟨later, saved, next⟩ := Storage.execute_noGain executed asked present
    exact ⟨later, saved, kept.trans next⟩

/-- Shipyards are no money pump: along orders at shipyards a player's credits and
what the ship would bring never rise together, so whoever ends on a scout has no
more credits than that at the start. The cargo stays the same, and fits
whenever it fitted at the start. -/
theorem shipyards_are_no_money_pump {player : PlayerId} {start between world : World}
    {earlier later : List YardOrder} {row : Player}
    (found : start.players.get? player = some row)
    (first : YardVisit player start earlier between)
    (rest : YardVisit player between later world) :
    ∃ middle last, between.players.get? player = some middle ∧
      world.players.get? player = some last ∧
      middle.worth ≤ row.worth ∧ last.worth ≤ middle.worth ∧
      (last.ship = .scout → last.credits ≤ row.credits + row.ship.resale) ∧
      last.cargo = row.cargo ∧ last.sector = row.sector ∧
      (row.cargo.total ≤ row.cargoMax → last.cargo.total ≤ last.cargoMax) ∧
      (row.cargo.units ≤ row.cargoMax → last.cargo.units ≤ last.cargoMax) := by
  obtain ⟨middle, present, before⟩ := first.noGain found
  obtain ⟨last, saved, after⟩ := rest.noGain present
  have whole := before.trans after
  refine ⟨middle, last, present, saved, before.worth, after.worth, fun scout => ?_, whole.cargo,
    whole.sector, whole.shown, whole.units⟩
  rw [← Player.worth_scout scout]
  exact whole.worth

/-- The drill after the wealthy pilot has bought and upgraded a ship. -/
def Drill.upgraded : Storage :=
  [namedRequest "SHIPYARD" "BUY" "trader", namedRequest "SHIPYARD" "UPGRADE" "cargo"].foldl
    (fun storage request => (storage.execute wealthy 1000130 7 request).2) (.ofWorld enrolled)

/-- The drill after the pilot has asked for a ship that nobody makes and sold the
one that was bought. -/
def Drill.downgraded : Storage :=
  [namedRequest "SHIPYARD" "BUY" "galleon", namedRequest "SHIPYARD" "SELL" ""].foldl
    (fun storage request => (storage.execute wealthy 1000130 7 request).2) upgraded

/-- The pilot has paid for the ship and the upgrade and got back a part. -/
theorem shipyards_are_no_money_pump_trader :
    ∃ row middle last, Drill.enrolled.players.get? 7 = some row ∧
      Drill.upgraded.world.players.get? 7 = some middle ∧
      Drill.downgraded.world.players.get? 7 = some last ∧
      row.worth = 50000 ∧ middle.worth = 40500 ∧ middle.ship = .trader ∧ last.credits = 40500 ∧
      last.ship = .scout ∧ last.credits ≤ row.credits + row.ship.resale := by
  have buys : Command.ofRequest (Drill.namedRequest "SHIPYARD" "BUY" "trader") =
      .shipyard (.buy "TRADER") := by decide +kernel
  have upgrades : Command.ofRequest (Drill.namedRequest "SHIPYARD" "UPGRADE" "cargo") =
      .shipyard (.upgrade "CARGO") := by decide +kernel
  have dreams : Command.ofRequest (Drill.namedRequest "SHIPYARD" "BUY" "galleon") =
      .shipyard (.buy "GALLEON") := by decide +kernel
  have sells : Command.ofRequest (Drill.namedRequest "SHIPYARD" "SELL" "") =
      .shipyard .sell := by decide +kernel
  have idle : YardVisit 7 Drill.enrolled [] (Storage.ofWorld Drill.enrolled).world := .start
  have first : YardVisit 7 Drill.enrolled [.buy "TRADER", .upgrade "CARGO"]
      Drill.upgraded.world := (idle.order buys rfl).order upgrades rfl
  have waiting : YardVisit 7 Drill.upgraded.world [] Drill.upgraded.world := .start
  have rest : YardVisit 7 Drill.upgraded.world [.buy "GALLEON", .sell] Drill.downgraded.world :=
    (waiting.order dreams rfl).order sells rfl
  obtain ⟨row, found⟩ := Option.isSome_iff_exists.mp
    (show (Drill.enrolled.players.get? 7).isSome = true by decide +kernel)
  obtain ⟨middle, last, present, saved, _, _, poorer, _⟩ :=
    shipyards_are_no_money_pump found first rest
  have opening : (Drill.enrolled.players.get? 7).map Player.worth = some 50000 := by
    decide +kernel
  have bought : (Drill.upgraded.world.players.get? 7).map (fun row => (row.worth, row.ship)) =
      some (40500, .trader) := by decide +kernel
  have sold : (Drill.downgraded.world.players.get? 7).map (fun row => (row.credits, row.ship)) =
      some (40500, .scout) := by decide +kernel
  rw [found] at opening
  rw [present] at bought
  rw [saved] at sold
  obtain ⟨worth, trader⟩ := Prod.ext_iff.mp (Option.some.inj bought)
  obtain ⟨credits, scout⟩ := Prod.ext_iff.mp (Option.some.inj sold)
  exact ⟨row, middle, last, found, present, saved, Option.some.inj opening, worth, trader,
    credits, scout, poorer scout⟩

end Starlane
