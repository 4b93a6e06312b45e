import Starlane.Proofs.Settlement

/-!
# Bounds of stocks

Trades and restocking change what a port has of a commodity, up to its base
quantity, and nothing else about it. Transfers and production change what a
planet stores, up to its cap. A citadel ends at its highest level, and a colony
is founded only where no planet is.
-/

namespace Starlane

open Chance

/-- What never changes about a stock: everything but its quantity. -/
def Stock.terms (stock : Stock) : TradeMode × Nat × Nat × Nat :=
  (stock.mode, stock.baseQty, stock.basePrice, stock.regen)

/-- What never changes about a port. -/
def Port.terms (port : Port) : Goods (TradeMode × Nat × Nat × Nat) :=
  port.stocks.map Stock.terms

/-- Whether no stock of a port exceeds its base quantity. -/
def Port.Within (port : Port) : Prop :=
  ∀ c, (port.stock c).qty ≤ (port.stock c).baseQty

/-- Whether a planet stores no more than its cap of anything, and its citadel is
no higher than citadels can be. -/
structure Planet.Within (planet : Planet) : Prop where
  stored : ∀ c, planet.storage.get c ≤ planet.storageMax
  built : planet.citadelLevel ≤ Planet.citadelLevelMax

namespace Port

variable {port : Port} {c : Commodity} {qty : Nat}

@[simp] theorem setQty_terms : (port.setQty c qty).terms = port.terms := by
  refine Goods.ext_get fun d => ?_
  simp only [terms, Goods.get_map]
  change ((port.setQty c qty).stock d).terms = (port.stock d).terms
  rw [setQty_stock]
  split <;> rfl

theorem Within.setQty (within : port.Within) (bound : qty ≤ (port.stock c).baseQty) :
    (port.setQty c qty).Within := by
  intro d
  rw [setQty_stock]
  split
  · next same =>
    subst same
    exact bound
  · exact within d

theorem restock_stock (port : Port) (c : Commodity) :
    port.restock.stock c = (port.stock c).restock :=
  Goods.get_map _ _ _

@[simp] theorem restock_terms : port.restock.terms = port.terms := by
  refine Goods.ext_get fun d => ?_
  simp only [terms, Goods.get_map]
  change (port.restock.stock d).terms = (port.stock d).terms
  rw [restock_stock]
  rfl

/-- Restocking stops at the base quantity, from whatever quantity. -/
theorem restock_within (port : Port) : port.restock.Within := by
  intro c
  rw [restock_stock]
  exact Nat.min_le_right _ _

end Port

/-- Production stops at the cap, from whatever store. -/
theorem Planet.Within.produce {planet : Planet} (within : planet.Within) :
    planet.produce.Within where
  stored c := by
    simp only [Planet.produce, Goods.get_ofFn]
    exact Nat.min_le_right _ _
  built := within.built

namespace World

/-- What an order of a commander makes of the ports of a world. -/
inductive Trades (world : World) (commander : Commander) : Table SectorId Port → Prop
  | spared : Trades world commander world.ports
  | traded {port : Port} {c : Commodity} {qty : Nat}
      (docked : world.ports.get? commander.sector = some port)
      (stocked : qty ≤ max (port.stock c).qty (port.stock c).baseQty) :
      Trades world commander (world.ports.insert port.sector (port.setQty c qty))

end World

/-- What a deed makes of the ports. -/
theorem Deed.trades {world : World} {now : Int} {commander : Commander} {command : Command}
    {effects : Effects} (deed : Deed world.lookup now commander command effects) :
    world.Trades commander (world.writtenAll effects.writes).ports := by
  have apart : Part.ports ∉ command.parts →
      world.Trades commander (world.writtenAll effects.writes).ports := by
    intro apart
    rw [World.writtenAll_ports
      (fun change member same => apart (same ▸ deed.parts change member)) world]
    exact .spared
  cases deed with
  | bought _ found =>
    exact .traded (Except.ok.inj found) (Nat.le_trans (Nat.sub_le _ _) (Nat.le_max_left _ _))
  | sold _ found _ _ _ demanded =>
    exact .traded (Except.ok.inj found) (Nat.le_trans demanded (Nat.le_max_right _ _))
  | informed => exact .spared
  | _ => exact apart (by simp [Command.parts])

namespace World

variable {start world after : World}

/-- What may happen to ports next. -/
theorem Next.trades (next : world.Next after) :
    after.ports = world.ports ∨
    after.ports = world.ports.mapValues (fun _ port => port.restock) ∨
    ∃ commander, world.Trades commander after.ports := by
  cases next with
  | @join settings now id username =>
    obtain ⟨_, _, _, same⟩ := world.join_frame settings now id username
    rw [same]
    exact .inl rfl
  | command executed =>
    rcases Storage.execute_deed executed with ⟨players, same⟩ |
      ⟨_, commander, _, _, _, _, deed, same⟩
    · exact .inl (by rw [same])
    · refine .inr (.inr ⟨commander, ?_⟩)
      rw [same]
      exact deed.trades
  | portTick => exact .inr (.inl rfl)
  | planetTick | protectorateTick => exact .inl rfl
  | @eventTick γ _ now dice =>
    obtain ⟨_, _, _, same⟩ := world.eventTick_frame now dice
    rw [same]
    exact .inl rfl

/-- What holds of the ports of a world on a course: they are the ports of the
start, with no more in stock than their base quantities. -/
structure Stocked (start world : World) : Prop where
  docks : world.ports.KeyedBy (·.sector)
  within : ∀ sector port, world.ports.get? sector = some port → port.Within
  terms : ∀ sector, (world.ports.get? sector).map Port.terms =
    (start.ports.get? sector).map Port.terms

/-- Whatever happens next keeps what holds of ports. -/
theorem Stocked.next (stocked : start.Stocked world) (next : world.Next after) :
    start.Stocked after := by
  rcases next.trades with same | restocked | ⟨commander, trades⟩
  · exact ⟨same ▸ stocked.docks, same ▸ stocked.within, same ▸ stocked.terms⟩
  · constructor
    · rw [restocked]
      exact stocked.docks.mapValues _ fun _ _ => rfl
    · intro sector port found
      rw [restocked, Table.get?_mapValues] at found
      obtain ⟨before, _, rfl⟩ := Option.map_eq_some_iff.mp found
      exact before.restock_within
    · intro sector
      rw [restocked, Table.get?_mapValues, Option.map_map, ← stocked.terms sector]
      refine congrArg (fun f => (world.ports.get? sector).map f) (funext fun port => ?_)
      exact Port.restock_terms
  · generalize same : after.ports = ports at trades
    cases trades with
    | spared => exact ⟨same ▸ stocked.docks, same ▸ stocked.within, same ▸ stocked.terms⟩
    | @traded port c qty docked amount =>
      have here : port.sector = commander.sector := stocked.docks _ port docked
      have before := stocked.within _ port docked
      constructor
      · rw [same]
        exact stocked.docks.insert rfl
      · intro sector other found
        rw [same, Table.get?_insert] at found
        split at found
        · cases found
          exact before.setQty (Nat.le_trans amount (Nat.max_le.mpr ⟨before c, Nat.le_refl _⟩))
        · exact stocked.within sector other found
      · intro sector
        rw [← stocked.terms sector, same, Table.get?_insert]
        split
        · next there =>
          rw [there, here, docked]
          exact congrArg some Port.setQty_terms
        · rfl

/-- Whether planets are filed under their own numbers, which have been given
out. -/
structure Plotted (world : World) : Prop where
  keyed : world.planets.KeyedBy (·.id)
  upTo : world.planets.UpTo world.lastId

/-- Giving out the next number misfiles no planet. -/
theorem Plotted.counted (plotted : world.Plotted) {lastId : Nat} (counted : world.lastId ≤ lastId) :
    { world with lastId }.Plotted :=
  ⟨plotted.keyed, plotted.upTo.grow counted⟩

/-- No admitted write misfiles a planet. -/
theorem Plotted.kept : Kept Plotted := by
  intro world change plotted admits
  have counted := plotted.counted (Nat.le_succ world.lastId)
  cases change with
  | insertPlanet planet =>
    exact ⟨plotted.keyed.insert rfl, counted.upTo.insert _ (Nat.le_refl _)⟩
  | savePlanet planet => exact ⟨plotted.keyed.insert rfl, plotted.upTo.save _ admits⟩
  | insertCorp | insertMinefield => exact ⟨counted.keyed, counted.upTo⟩
  | _ => exact ⟨plotted.keyed, plotted.upTo⟩

/-- Whatever happens next misfiles no planet. -/
theorem Plotted.next (plotted : world.Plotted) (next : world.Next after) : after.Plotted := by
  cases next with
  | @join settings now id username =>
    obtain ⟨_, _, _, same⟩ := world.join_frame settings now id username
    rw [same]
    exact ⟨plotted.keyed, plotted.upTo⟩
  | command executed => exact Storage.limited_keeps Plotted.kept executed plotted
  | planetTick => exact ⟨plotted.keyed.mapValues _ fun _ _ => rfl, plotted.upTo.mapValues _⟩
  | portTick | protectorateTick => exact ⟨plotted.keyed, plotted.upTo⟩
  | @eventTick γ _ now dice =>
    obtain ⟨_, _, counted, same⟩ := world.eventTick_frame now dice
    rw [same]
    exact ⟨plotted.keyed, plotted.upTo.grow counted⟩

/-- What holds of the planets of a world on a course: no two are in one sector,
and all are within their bounds. -/
structure Settled (world : World) : Prop extends world.Plotted where
  plots : world.planets.Apart Planet.plot
  within : ∀ id planet, world.planets.get? id = some planet → planet.Within

/-- Without planets there is nothing to hold. -/
theorem Settled.bare (bare : world.planets = .empty) : world.Settled := by
  refine { keyed := ?_, upTo := ?_, plots := ?_, within := ?_ } <;> rw [bare]
  · exact nofun
  · exact nofun
  · exact .empty
  · exact nofun

/-- A planet in the place of one in the same sector, within its bounds. -/
theorem Settled.save (settled : world.Settled) {planet saved : Planet}
    (stored : world.planets.get? planet.id = some planet) (here : saved.sector = planet.sector)
    (within : saved.Within) :
    (world.planets.insert planet.id saved).Apart Planet.plot ∧
      ∀ id other, (world.planets.insert planet.id saved).get? id = some other → other.Within := by
  refine ⟨settled.plots.save ⟨planet, stored, congrArg some here.symm⟩, fun id other found => ?_⟩
  rw [Table.get?_insert] at found
  split at found
  · cases found
    exact within
  · exact settled.within id other found

/-- Whatever happens next keeps what holds of planets: only a sector without a
planet gets one, and every order and production respect the bounds. -/
theorem Settled.next (settled : world.Settled) (next : world.Next after) : after.Settled := by
  have plotted := settled.toPlotted.next next
  suffices kept : after.planets.Apart Planet.plot ∧
      ∀ id planet, after.planets.get? id = some planet → planet.Within from
    { plotted with plots := kept.1, within := kept.2 }
  rcases next.settles with same | produced | ⟨player, row, commander, _, settles⟩
  · rw [same]
    exact ⟨settled.plots, settled.within⟩
  · rw [produced]
    refine ⟨settled.plots.mapValues fun _ _ => rfl, fun id planet found => ?_⟩
    rw [Table.get?_mapValues] at found
    obtain ⟨before, stored, rfl⟩ := Option.map_eq_some_iff.mp found
    exact (settled.within id before stored).produce
  · generalize after.planets = planets at settles
    cases settles with
    | spared => exact ⟨settled.plots, settled.within⟩
    | founded vacant =>
      refine ⟨settled.plots.add (fun id other plot stored there here => ?_) _,
        fun id planet found => ?_⟩
      · have elsewhere := planet_nowhere vacant stored
        exact elsewhere (Option.some.inj (there.trans here.symm))
      · rw [Table.get?_insert] at found
        split at found
        · cases found
          exact ⟨fun c => by cases c <;> exact Nat.zero_le _, Nat.zero_le _⟩
        · exact settled.within id planet found
    | claimed here free =>
      obtain ⟨stored, _⟩ := planet_here settled.keyed here
      have before := settled.within _ _ stored
      exact settled.save stored rfl ⟨before.stored, before.built⟩
    | used here access amounts level =>
      obtain ⟨stored, _⟩ := planet_here settled.keyed here
      have before := settled.within _ _ stored
      exact settled.save stored rfl
        ⟨fun c => Nat.le_trans (amounts c) (Nat.max_le.mpr ⟨before.stored c, Nat.le_refl _⟩),
          Nat.le_trans level (Nat.max_le.mpr ⟨before.built, Nat.le_refl _⟩)⟩

end World

/-- The ports of a checked universe hold no more than their base quantities. -/
theorem Universe.ports_within {layout : Universe} (checked : layout.error? = none) {port : Port}
    (listed : port ∈ layout.ports) : port.Within := by
  unfold error? at checked
  simp only [Option.or_eq_none_iff, List.findSome?_eq_none_iff] at checked
  have sound := checked.2 port listed
  intro c
  unfold portError? at sound
  split at sound
  · have fits := List.find?_eq_none.mp (Option.map_eq_none_iff.mp sound) c c.mem_all
    simpa using fits
  · cases sound

/-- The ports of a checked universe are what they are at the start of a course. -/
theorem World.Stocked.laid {layout : Universe} {start : World} (checked : layout.error? = none)
    (docks : start.ports = (World.empty.addUniverse layout).ports) : start.Stocked start where
  docks := by
    rw [docks]
    exact Table.KeyedBy.insertAll nofun layout.ports
  within sector port found := by
    rw [docks] at found
    rcases Table.mem_of_insertAll found with listed | present
    · exact layout.ports_within checked listed
    · cases present
  terms _ := rfl

/-- On a course from a checked universe without planets, the terms of every port
stay what they were and no stock exceeds its base quantity; no planet stores
more than its cap of anything or has a citadel above the tenth level, and no two
planets are in one sector. -/
theorem stocks_stay_bounded {layout : Universe} {start world : World}
    (checked : layout.error? = none)
    (docks : start.ports = (World.empty.addUniverse layout).ports)
    (bare : start.planets = .empty) (leads : start.Leads world) :
    (∀ sector, (world.ports.get? sector).map Port.terms =
      (start.ports.get? sector).map Port.terms) ∧
    (∀ sector port, world.ports.get? sector = some port →
      ∀ c, (port.stock c).qty ≤ (port.stock c).baseQty) ∧
    (∀ id planet, world.planets.get? id = some planet →
      (∀ c, planet.storage.get c ≤ planet.storageMax) ∧ planet.citadelLevel ≤ 10) ∧
    (∀ first second a b, world.planets.get? first = some a → world.planets.get? second = some b →
      a.sector = b.sector → first = second) := by
  have stocked := leads.keeps (World.Stocked.laid checked docks) World.Stocked.next
  have settled := leads.keeps (World.Settled.bare bare) World.Settled.next
  refine ⟨stocked.terms, stocked.within, fun id planet found => ?_,
    fun first second a b one other same => ?_⟩
  · have within := settled.within id planet found
    exact ⟨within.stored, within.built⟩
  · exact settled.plots first a second b b.sector one other (congrArg some same) rfl

/-- A purchase at the drill takes from the stock of the port and leaves its
terms. -/
theorem stocks_stay_bounded_purchase :
    let bought := (Storage.execute Settings.standard 1000130 7
      (Drill.cargoRequest "TRADE" "BUY" "ORE" 5) (.ofWorld Drill.docked)).2.world
    (bought.ports.get? 2).map Port.terms = (Drill.docked.ports.get? 2).map Port.terms ∧
      bought.ports.get? 2 ≠ Drill.docked.ports.get? 2 := by
  intro bought
  have checked : Drill.layout.error? = none := by decide
  have leads : Drill.docked.Leads bought := .single (.command rfl)
  have docks : Drill.docked.ports = (World.empty.addUniverse Drill.layout).ports := rfl
  have bare : Drill.docked.planets = .empty := rfl
  obtain ⟨terms, _⟩ := stocks_stay_bounded checked docks bare leads
  refine ⟨terms 2, ?_⟩
  decide +kernel

end Starlane
