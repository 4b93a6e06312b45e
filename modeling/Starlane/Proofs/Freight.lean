import Starlane.Proofs.Footprint

/-!
# Goods are conserved

The units of a commodity in a world are those in cargo holds, in the stocks of
ports and in the storage of planets; deployed mines count as equipment. A deed
moves units between the commander and the rest, the freight, and only mines
that go off or are swept disappear.
-/

namespace Starlane

/-- Setting the units of one commodity puts them in place of those before. -/
theorem Goods.get_set_add (goods : Goods Nat) (c d : Commodity) (value : Nat) :
    (goods.set c value).get d + (if d = c then goods.get c else 0) =
      goods.get d + if d = c then value else 0 := by
  by_cases same : d = c
  · rw [same, get_set_self, if_pos rfl, if_pos rfl, Nat.add_comm]
  · rw [get_set_of_ne _ _ same, if_neg same, if_neg same]

theorem Port.setQty_qty_add (port : Port) (c d : Commodity) (qty : Nat) :
    ((port.setQty c qty).stock d).qty + (if d = c then (port.stock c).qty else 0) =
      (port.stock d).qty + if d = c then qty else 0 := by
  unfold setQty stock
  by_cases same : d = c
  · rw [same, Goods.get_set_self, if_pos rfl, if_pos rfl, Nat.add_comm]
  · rw [Goods.get_set_of_ne _ _ same, if_neg same, if_neg same]

/-- Whether a command can make mines disappear. -/
def Command.losesMines : Command → Bool
  | move _ | mine .sweep => true
  | _ => false

theorem Command.informs_lossless {command : Command} (informs : command.informs = true) :
    command.losesMines = false := by
  unfold losesMines
  split
  · cases informs
  · cases informs
  · rfl

namespace World

variable {world : World}

/-- The units of a commodity outside cargo holds. -/
def freight (world : World) (c : Commodity) : Nat :=
  world.ports.total (fun port => (port.stock c).qty) +
    world.planets.total (fun planet => planet.storage.get c) +
      if c = .equipment then world.mines else 0

/-- The units of a commodity in a world. -/
def goods (world : World) (c : Commodity) : Nat :=
  world.players.total (fun player => player.cargo.get c) + world.freight c

section Lookups

theorem Filed.port_found (filed : world.Filed) {sector : SectorId} {port : Port}
    (found : world.lookup.port sector = .ok (some port)) :
    world.ports.get? port.sector = some port := by
  have present : world.ports.get? sector = some port := Except.ok.inj found
  have own : port.sector = sector := filed.ports sector port present
  rw [own]
  exact present

theorem Filed.planet_found (filed : world.Filed) {sector : SectorId} {planet : Planet}
    (found : world.lookup.planet sector = some planet) :
    world.planets.get? planet.id = some planet :=
  filed.planets.get?_of_mem (List.mem_of_find?_eq_some found)

theorem Filed.field_found (filed : world.Filed) {sector : SectorId} {field : Minefield}
    {wanted : Minefield → Bool}
    (found : (world.lookup.minefields sector).find? wanted = some field) :
    world.minefields.get? field.id = some field :=
  filed.minefields.get?_of_mem (List.mem_of_mem_filter (List.mem_of_find?_eq_some found))

end Lookups

section Writes

/-- Writes that concern neither ports nor planets nor minefields leave the
freight as it is. -/
theorem freight_untouched {changes : List Write}
    (apart : ∀ change ∈ changes, change.part ∉ [Part.ports, .planets, .minefields])
    (c : Commodity) : (world.writtenAll changes).freight c = world.freight c := by
  unfold freight mines
  rw [writtenAll_ports fun change member same => apart change member (by simp [same]),
    writtenAll_planets fun change member same => apart change member (by simp [same]),
    writtenAll_minefields fun change member same => apart change member (by simp [same])]

theorem freight_savePort {before port : Port}
    (found : world.ports.get? port.sector = some before) (c : Commodity) :
    (world.written (.savePort port)).freight c + (before.stock c).qty =
      world.freight c + (port.stock c).qty := by
  have saved := world.ports.total_insert port.sector port fun port => (port.stock c).qty
  rw [Table.share_of_get? _ found] at saved
  simp only [freight, mines, written_ports, written_planets, written_minefields]
  omega

theorem freight_savePlanet {before planet : Planet}
    (found : world.planets.get? planet.id = some before) (c : Commodity) :
    (world.written (.savePlanet planet)).freight c + before.storage.get c =
      world.freight c + planet.storage.get c := by
  have saved := world.planets.total_insert planet.id planet fun planet => planet.storage.get c
  rw [Table.share_of_get? _ found] at saved
  simp only [freight, mines, written_ports, written_planets, written_minefields]
  omega

/-- A port with another stock of one commodity. -/
theorem freight_restock (filed : world.Filed) {sector : SectorId} {port : Port}
    (found : world.lookup.port sector = .ok (some port)) (c d : Commodity) (qty : Nat) :
    (world.written (.savePort (port.setQty c qty))).freight d +
        (if d = c then (port.stock c).qty else 0) =
      world.freight d + if d = c then qty else 0 := by
  have present : world.ports.get? (port.setQty c qty).sector = some port := filed.port_found found
  have saved := freight_savePort present d
  have set := port.setQty_qty_add c d qty
  omega

/-- A planet with another storage of one commodity. -/
theorem freight_restore (filed : world.Filed) {sector : SectorId} {planet : Planet}
    (found : world.lookup.planet sector = some planet) (c d : Commodity) (qty : Nat) :
    (world.written (.savePlanet { planet with storage := planet.storage.set c qty })).freight d +
        (if d = c then planet.storage.get c else 0) =
      world.freight d + if d = c then qty else 0 := by
  let after : Planet := { planet with storage := planet.storage.set c qty }
  have present : world.planets.get? after.id = some planet := filed.planet_found found
  have saved := freight_savePlanet present d
  have set : after.storage.get d + _ = _ := planet.storage.get_set_add c d qty
  change (world.written (.savePlanet after)).freight d + _ = _
  omega

/-- A planet whose storage is as it was. -/
theorem freight_resave (filed : world.Filed) {sector : SectorId} {planet after : Planet}
    (found : world.lookup.planet sector = some planet) (own : after.id = planet.id)
    (same : after.storage = planet.storage) (d : Commodity) :
    (world.written (.savePlanet after)).freight d = world.freight d := by
  have present : world.planets.get? after.id = some planet := own ▸ filed.planet_found found
  have saved := freight_savePlanet present d
  rw [same] at saved
  omega

theorem freight_insertPlanet (filed : world.Filed) (planet : Planet) (c : Commodity) :
    (world.written (.insertPlanet planet)).freight c =
      world.freight c + planet.storage.get c := by
  have saved := world.planets.total_insert (world.lastId + 1)
    { planet with id := world.lastId + 1 } fun planet => planet.storage.get c
  rw [Table.share_of_absent _ filed.planetsUpTo.fresh] at saved
  simp only [freight, mines, written_ports, written_planets, written_minefields]
  dsimp only at saved
  omega

theorem freight_saveMinefield {before field : Minefield}
    (found : world.minefields.get? field.id = some before) (c : Commodity) :
    (world.written (.saveMinefield field)).freight c +
        (if c = .equipment then before.qty else 0) =
      world.freight c + if c = .equipment then field.qty else 0 := by
  have saved := world.minefields.total_insert field.id field (·.qty)
  rw [Table.share_of_get? _ found] at saved
  simp only [freight, mines, written_ports, written_planets, written_minefields]
  split
  · omega
  · rfl

theorem freight_insertMinefield (filed : world.Filed) (field : Minefield) (c : Commodity) :
    (world.written (.insertMinefield field)).freight c =
      world.freight c + if c = .equipment then field.qty else 0 := by
  have saved := world.minefields.total_insert (world.lastId + 1)
    { field with id := world.lastId + 1 } (·.qty)
  rw [Table.share_of_absent _ filed.minefieldsUpTo.fresh] at saved
  simp only [freight, mines, written_ports, written_planets, written_minefields]
  dsimp only at saved
  split
  · omega
  · rfl

end Writes

/-- The mines that a command makes disappear: those that go off on arrival, or
those that are swept. -/
def minesLost (world : World) (commander : Commander) : Command → Nat
  | .move target =>
    match Plan.destination? target with
    | some there => Plan.detonated world.lookup commander there
    | none => 0
  | .mine .sweep =>
    (Minefield.consume (Minefield.sweepOrder (world.minefieldsIn commander.sector) commander.id
      commander.corp?) Minefield.sweepCapacity).1
  | _ => 0

/-- Whether the mines that a command lays fit on the counter of the field that
they join. -/
def deployFits (world : World) (sector : SectorId) (player : PlayerId) (command : Command) :
    Prop :=
  ∀ quantity field, command = .mine (.deploy quantity) →
    ((world.minefieldsIn sector).find? fun field => field.owner.player? == some player) =
      some field →
    field.qty + quantity.toNat ≤ counterMax

theorem minesLost_eq_zero {command : Command} (lossless : command.losesMines = false)
    (commander : Commander) : world.minesLost commander command = 0 := by
  unfold minesLost
  split
  · cases lossless
  · cases lossless
  · rfl

/-- Whether what a deed takes from the freight the commander has more of, but
for the mines that are lost. -/
def Balances (world : World) (commander : Commander) (command : Command) (effects : Effects) :
    Prop :=
  ∀ d, (world.writtenAll effects.writes).freight d + effects.commander.cargo.get d +
      (if d = .equipment then world.minesLost commander command else 0) =
    world.freight d + commander.cargo.get d

end World

namespace Deed

open World

variable {world : World} {now : Int} {commander : Commander} {command : Command}
  {effects : Effects}

/-- A deed that loses mines loses as many as are counted. -/
theorem mines_lost (filed : world.Filed) (deed : Deed world.lookup now commander command effects)
    (lossy : command.losesMines = true) :
    (world.writtenAll effects.writes).mines + world.minesLost commander command =
      world.mines := by
  cases deed with
  | @moved target there event destined =>
    have stored := filed.holds_strikeOrder there commander.id commander.corp?
    have held : (world.written (.discover commander.id there)).Holds
        (Minefield.strikeOrder (world.minefieldsIn there) commander.id commander.corp?) :=
      ⟨stored.distinct, stored.stored⟩
    have lost : world.minesLost commander (.move target) =
        Plan.detonated world.lookup commander there := by
      simp only [minesLost, destined]
    rw [Plan.arrival_eq, lost]
    exact mines_consume held _
  | foundClear consumed =>
    have lost : world.minesLost commander (.mine .sweep) = 0 := congrArg Prod.fst consumed
    rw [lost]
    rfl
  | @swept taken changes consumed =>
    have taking := mines_consume (filed.holds_sweepOrder commander.sector commander.id
      commander.corp?) Minefield.sweepCapacity
    have same : Minefield.consume (Minefield.sweepOrder (world.minefieldsIn commander.sector)
        commander.id commander.corp?) Minefield.sweepCapacity = (taken, changes) := consumed
    rw [same] at taking
    rw [minesLost, same]
    exact taking
  | informed informs =>
    rw [Command.informs_lossless informs] at lossy
    cases lossy
  | _ => cases lossy

private theorem balances_kept (freight : ∀ d, (world.writtenAll effects.writes).freight d =
      world.freight d) (hold : effects.commander.cargo = commander.cargo)
    (none : world.minesLost commander command = 0) :
    world.Balances commander command effects := by
  intro d
  rw [freight, hold, none, ite_self, Nat.add_zero]

/-- A deed of a command that concerns neither ports nor planets nor minefields
keeps the balance if it keeps the cargo. -/
private theorem balances_apart (deed : Deed world.lookup now commander command effects)
    (apart : ∀ part ∈ command.parts, part ∉ [Part.ports, .planets, .minefields])
    (hold : effects.commander.cargo = commander.cargo)
    (none : world.minesLost commander command = 0) :
    world.Balances commander command effects :=
  balances_kept (freight_untouched fun change member => apart _ (deed.parts change member))
    hold none

/-- A deed that loses mines and concerns neither ports nor planets keeps the
balance if it keeps the cargo. -/
private theorem balances_mines (filed : world.Filed)
    (deed : Deed world.lookup now commander command effects)
    (apart : ∀ part ∈ command.parts, part ∉ [Part.ports, .planets])
    (lossy : command.losesMines = true)
    (hold : effects.commander.cargo = commander.cargo) :
    world.Balances commander command effects := by
  intro d
  have lost := deed.mines_lost filed lossy
  have clear := fun change member => apart _ (deed.parts change member)
  rw [hold]
  unfold freight
  rw [writtenAll_ports fun change member same => clear change member (by simp [same]),
    writtenAll_planets fun change member same => clear change member (by simp [same])]
  split
  · omega
  · rfl

/-- A deed that sets the units of one commodity on both sides keeps the balance
if the two sums are the same. -/
private theorem balances_exchange {c : Commodity} {change : Write} {outside left held : Nat}
    (writes : effects.writes = [change])
    (freight : ∀ d, (world.written change).freight d + (if d = c then outside else 0) =
      world.freight d + if d = c then left else 0)
    (cargo : effects.commander.cargo = commander.cargo.set c held)
    (none : world.minesLost commander command = 0)
    (same : left + held = outside + commander.cargo.get c) :
    world.Balances commander command effects := by
  intro d
  have exchanged := freight d
  have set := commander.cargo.get_set_add c d held
  rw [writes, cargo, none, ite_self, Nat.add_zero]
  change (world.written change).freight d + _ = _
  by_cases concerned : d = c
  · rw [if_pos concerned, if_pos concerned] at exchanged set
    omega
  · rw [if_neg concerned, if_neg concerned] at exchanged set
    omega

/-- Every deed keeps the balance. -/
theorem balances (filed : world.Filed) (deed : Deed world.lookup now commander command effects)
    (fits : world.deployFits commander.sector commander.id command) :
    world.Balances commander command effects := by
  have original := deed
  cases deed with
  | informed informs =>
    exact balances_kept (fun _ => rfl) rfl (minesLost_eq_zero (Command.informs_lossless informs) _)
  | scannedVoid | scannedPort | incorporated | enlisted | resigned | announced | deposited
  | withdrew | boughtShip | soldShip | upgradedCargo | upgradedTurns =>
    exact balances_apart original (by simp [Command.parts]) rfl rfl
  | moved =>
    refine balances_mines filed original (by simp [Command.parts]) rfl ?_
    rw [Plan.arrival_eq]
  | foundClear | swept =>
    exact balances_mines filed original (by simp [Command.parts]) rfl rfl
  | @bought c _ qty port _ _ _ found _ _ stocked =>
    refine balances_exchange rfl (fun d => freight_restock filed found c d _) rfl rfl ?_
    omega
  | @sold c _ qty port _ _ _ found _ _ carried =>
    refine balances_exchange rfl (fun d => freight_restock filed found c d _) rfl rfl ?_
    omega
  | @loaded c _ qty planet _ _ found _ _ stored =>
    refine balances_exchange rfl (fun d => freight_restore filed found c d _) rfl rfl ?_
    omega
  | @unloaded c _ qty planet _ _ found _ carried =>
    refine balances_exchange rfl (fun d => freight_restore filed found c d _) rfl rfl ?_
    omega
  | colonized named found =>
    refine balances_kept (fun d => freight_resave filed found ?_ ?_ d) rfl rfl
    · rfl
    · rfl
  | fortified found =>
    refine balances_kept (fun d => freight_resave filed found ?_ ?_ d) rfl rfl
    · rfl
    · rfl
  | founded =>
    refine balances_kept (fun d => (freight_insertPlanet filed _ d).trans ?_) rfl rfl
    cases d <;> rfl
  | @reinforced quantity sector field text positive limited found lawless carried own =>
    let after : Minefield := { field with
      qty := addCapped field.qty quantity.toNat
      owner := Owner.claimedBy commander.id commander.corp? }
    have room : after.qty = field.qty + quantity.toNat := addCapped_eq_add (fits _ _ rfl own)
    have present : world.minefields.get? after.id = some field := filed.field_found own
    refine balances_exchange (c := .equipment) rfl (freight_saveMinefield present) rfl rfl ?_
    rw [room, Goods.get]
    omega
  | @mined quantity sector text positive limited found lawless carried =>
    let field : Minefield :=
      ⟨0, commander.sector, Owner.claimedBy commander.id commander.corp?, quantity.toNat, now⟩
    have laid : ∀ d, (world.written (.insertMinefield field)).freight d +
        (if d = .equipment then 0 else 0) =
          world.freight d + if d = .equipment then quantity.toNat else 0 := by
      intro d
      rw [ite_self]
      exact freight_insertMinefield filed field d
    refine balances_exchange (c := .equipment) rfl laid rfl rfl ?_
    rw [Goods.get, Nat.zero_add]
    exact Nat.add_sub_of_le carried

end Deed

/-- What a response tells about mines that disappeared: a move names those that
went off on arrival, a sweep those that it removed, and there are none
otherwise. -/
def World.TellsLoss (world : World) (now : Int) (row : Player) (response : Response) (lost : Nat) :
    Command → Prop
  | .move target =>
    ∃ there event, Plan.destination? target = some there ∧
      world.lookup.event there now = .ok event ∧
      response.Tells (Plan.arrivalText there event row.credits now lost
        (Minefield.strikeDamage lost (row.credits - Plan.toll event row.credits)))
  | .mine .sweep =>
    response.Tells (if lost = 0 then "No hostile mines detected."
      else s!"Swept {lost} hostile mines in sector {row.sector}.")
  | _ => lost = 0

theorem Accepted.tellsLoss {settings : Settings} {now : Int} {player : PlayerId}
    {command : Command} {world after : World} {row : Player} {effects : Effects}
    {response : Response}
    (accepted : Accepted settings now player command world row effects response after) :
    world.TellsLoss now row response
      (world.minesLost (command.paidBy (world.present settings now player row)) command)
      command := by
  obtain ⟨turns, stamp, paid⟩ := command.paidBy_frame world settings now player row
  have told := accepted.told
  have deed := accepted.deed
  rw [paid] at deed ⊢
  cases deed with
  | @moved target there event destined reached happening =>
    rw [Plan.arrival_eq] at told
    simp only [World.minesLost, destined]
    exact ⟨there, event, destined, happening, told⟩
  | @foundClear changes consumed =>
    have none : world.minesLost _ (.mine .sweep) = 0 := congrArg Prod.fst consumed
    rw [none, World.TellsLoss, if_pos rfl]
    exact told
  | @swept taken changes consumed taking =>
    have lost : world.minesLost _ (.mine .sweep) = taken := congrArg Prod.fst consumed
    rw [lost, World.TellsLoss, if_neg taking]
    exact told
  | informed informs =>
    rw [World.minesLost_eq_zero (Command.informs_lossless informs)]
    unfold World.TellsLoss
    split
    · cases informs
    · cases informs
    · rfl
  | _ => exact rfl

/-- What an accepted request leaves of the goods of a world, and of its mines. -/
theorem Accepted.goods {settings : Settings} {now : Int} {player : PlayerId}
    {command : Command} {world after : World} {row : Player} {effects : Effects}
    {response : Response} (filed : world.Filed)
    (accepted : Accepted settings now player command world row effects response after)
    (fits : world.deployFits row.sector player command) :
    ∃ lost, (∀ c, after.goods c + (if c = .equipment then lost else 0) = world.goods c) ∧
      (command.losesMines = true → after.mines + lost = world.mines) ∧
      world.TellsLoss now row response lost command := by
  obtain ⟨experience, logs, same⟩ := accepted.state (filed.players player row accepted.found)
  obtain ⟨turns, stamp, paid⟩ := command.paidBy_frame world settings now player row
  have told := accepted.tellsLoss
  have deed := accepted.deed
  rw [paid] at told deed
  have own : row.id = player := filed.players player row accepted.found
  rw [← own] at fits
  refine ⟨_, fun c => ?_, fun lossy => ?_, told⟩
  · have balance := deed.balances filed fits c
    change _ = world.freight c + row.cargo.get c at balance
    have saved := world.players.total_insert player
      (Rank.award experience effects.commander.toPlayer).1 fun player => player.cargo.get c
    have cargo : (Rank.award experience effects.commander.toPlayer).1.cargo =
        effects.commander.cargo := by rw [Rank.award_frame]
    rw [Table.share_of_get? _ accepted.found, cargo] at saved
    rw [same]
    change (world.players.insert player _).total _ + (world.writtenAll effects.writes).freight c +
      _ = world.players.total _ + world.freight c
    omega
  · rw [same]
    exact deed.mines_lost filed lossy

/-- In every reachable world an accepted command conserves the goods of each
commodity, but for the mines that a move or a sweep reports, as many as it
reports. -/
theorem goods_conserved {settings : Settings} {now : Int} {player : PlayerId} {request : Request}
    {world : World} {response : Response} {after : Storage} (reachable : world.Reachable)
    (executed : Storage.execute settings now player request (.ofWorld world) =
      (.ok response, after))
    (accepted : response.ok = true)
    (fits : ∀ row, world.players.get? player = some row →
      world.deployFits row.sector player (.ofRequest request)) :
    ∃ row lost, world.players.get? player = some row ∧
      (∀ c, after.world.goods c + (if c = .equipment then lost else 0) = world.goods c) ∧
      ((Command.ofRequest request).losesMines = true →
        after.world.mines + lost = world.mines) ∧
      world.TellsLoss now row response lost (.ofRequest request) := by
  obtain ⟨row, effects, later, rfl, acceptance⟩ := Storage.execute_accepted executed accepted
  obtain ⟨lost, conserved⟩ := acceptance.goods reachable.filed (fits row acceptance.found)
  exact ⟨row, lost, acceptance.found, conserved⟩

/-- A pilot who buys five units of ore moves them from the port into the hold;
no goods appear or disappear. -/
theorem goods_conserved_purchase :
    ∃ response after,
      Storage.execute Settings.standard 1000130 7 (Drill.cargoRequest "TRADE" "BUY" "ORE" 5)
        (.ofWorld Drill.docked) = (.ok response, after) ∧
      response.ok = true ∧ ∀ c, after.world.goods c = Drill.docked.goods c := by
  have trade : Command.ofRequest (Drill.cargoRequest "TRADE" "BUY" "ORE" 5) =
      .trade (some .buy) (some .ore) 5 := by decide +kernel
  obtain ⟨response, after, executed, accepted⟩ := Storage.execute_answered
    (show (Storage.execute Settings.standard 1000130 7
      (Drill.cargoRequest "TRADE" "BUY" "ORE" 5) (.ofWorld Drill.docked)).1.toOption.map
        Response.ok = some true by decide +kernel)
  have fits : ∀ row, Drill.docked.players.get? 7 = some row →
      Drill.docked.deployFits row.sector 7
        (.ofRequest (Drill.cargoRequest "TRADE" "BUY" "ORE" 5)) := by
    intro row _ quantity field deploys
    rw [trade] at deploys
    cases deploys
  obtain ⟨row, lost, _, conserved, _, told⟩ :=
    goods_conserved Drill.docked_reachable executed accepted fits
  rw [trade] at told
  cases (show lost = 0 from told)
  refine ⟨response, after, executed, accepted, fun c => ?_⟩
  have same := conserved c
  rw [ite_self] at same
  exact same

end Starlane
