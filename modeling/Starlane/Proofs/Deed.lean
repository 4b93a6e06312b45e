import Starlane.Plan

/-!
# What accepted commands do

`Deed` lists, one constructor for each way in which a command is accepted, the
conditions under which it is, the commander afterwards and the writes.
`Command.plan_deed` derives it from the plans, so later proofs split on deeds
and never unfold a plan. The texts of messages are kept where a statement
reads them.
-/

namespace Starlane

/-- Whether a command only tells something. -/
def Command.informs : Command → Bool
  | planet .info | corp .info | mine .info | shipyard .info => true
  | market _ | route _ | events | rankings | season | help => true
  | _ => false

namespace Plan

/-- The effects of arriving in a sector where an event may be going on. -/
def arrival (look : Lookup) (now : Int) (commander : Commander) (there : SectorId)
    (event : Option Event) : Effects :=
  let met := meetEvent event now { commander with sector := there }
  let struck := meetMines (look.minefields there) met.commander
  let lines := (LogKind.action, s!"Moved to sector {there}.") :: (met.lines ++ struck.lines)
  { commander := struck.commander
    writes := .discover commander.id there :: (met.writes ++ struck.writes)
    message := "\n".intercalate (lines.map (·.2))
    lines }

/-- The writes by which a leader who is not alone hands the corporation over. -/
def handover (membership : Membership) (leaver : PlayerId) (members : List Member) : List Write :=
  match (if membership.role = .leader ∧ 1 < members.length then
      members.find? fun member => member.player != leaver
    else none) with
  | some successor => [.setRole membership.corp successor.player .leader]
  | none => []

/-- The writes by which the last member dissolves the corporation. -/
def dissolution (membership : Membership) (members : List Member) : List Write :=
  if members.length ≤ 1 then [.deleteCorp membership.corp] else []

/-- The writes that put a line into the log of every member. -/
def delivery (members : List Member) (now : Int) (line : String) : List Write :=
  members.flatMap fun member =>
    [.insertLog member.player ⟨now, .corp, line⟩, .pruneLogs member.player logKeep]

end Plan

/-- The accepted commands of a commander who has paid, with their effects. -/
inductive Deed (look : Lookup) (now : Int) (commander : Commander) : Command → Effects → Prop
  | informed {command : Command} {text : String} (informs : command.informs = true) :
      Deed look now commander command (.logged commander [] .system text)
  | scannedVoid {text : String} (empty : look.port commander.sector = .ok none) :
      Deed look now commander .scan (.logged commander
        [.discover commander.id commander.sector, .deleteIntel commander.id commander.sector]
        .action text)
  | scannedPort {port : Port} {sector : Sector} {event : Option Event} {text : String}
      (found : look.port commander.sector = .ok (some port))
      (named : look.sector commander.sector = some sector)
      (happening : look.event commander.sector now = .ok event) :
      Deed look now commander .scan (.logged commander
        [.discover commander.id commander.sector,
          .saveIntel commander.id (Intel.capture port sector.name event now)] .action text)
  | moved {target : Int} {there : SectorId} {event : Option Event}
      (destined : Plan.destination? target = some there)
      (reached : if commander.isAdmin then (look.sector there).isSome = true
        else look.hasWarp commander.sector there = true)
      (happening : look.event there now = .ok event) :
      Deed look now commander (.move target) (Plan.arrival look now commander there event)
  | bought {c : Commodity} {quantity : Int} {qty : Nat} {port : Port} {event : Option Event}
      {text : String}
      (counted : Plan.quantity? quantity = some qty)
      (found : look.port commander.sector = .ok (some port))
      (happening : look.event commander.sector now = .ok event)
      (selling : (port.stock c).mode = .sell)
      (stocked : qty ≤ (port.stock c).qty)
      (roomy : qty ≤ commander.freeCargo)
      (funded : Price.ofStock (port.stock c) c event * qty ≤ commander.credits) :
      Deed look now commander (.trade (some .buy) (some c) quantity) (.logged
        { commander with
          credits := commander.credits - Price.ofStock (port.stock c) c event * qty
          cargo := commander.cargo.set c (commander.cargo.get c + qty) }
        [.savePort (port.setQty c ((port.stock c).qty - qty))] .action text)
  | sold {c : Commodity} {quantity : Int} {qty : Nat} {port : Port} {event : Option Event}
      {text : String}
      (counted : Plan.quantity? quantity = some qty)
      (found : look.port commander.sector = .ok (some port))
      (happening : look.event commander.sector now = .ok event)
      (buying : (port.stock c).mode = .buy)
      (carried : qty ≤ commander.cargo.get c)
      (demanded : (port.stock c).qty + qty ≤ (port.stock c).baseQty) :
      Deed look now commander (.trade (some .sell) (some c) quantity) (.logged
        { commander with
          credits := commander.credits + Price.ofStock (port.stock c) c event * qty
          cargo := commander.cargo.set c (commander.cargo.get c - qty) }
        [.savePort (port.setQty c ((port.stock c).qty + qty))] .action text)
  | colonized {raw name : String} {planet : Planet} {text : String}
      (named : Naming.planetName (Plan.nameOrDefault commander.sector raw) = .ok name)
      (found : look.planet commander.sector = some planet)
      (free : planet.owner.isOwned = false)
      (funded : Planet.colonyCost ≤ commander.credits) :
      Deed look now commander (.planet (.colonize raw)) (.logged
        { commander with credits := commander.credits - Planet.colonyCost }
        [.savePlanet { planet with
          name, owner := Owner.claimedBy commander.id commander.corp? }] .action text)
  | founded {raw name : String} {text : String}
      (named : Naming.planetName (Plan.nameOrDefault commander.sector raw) = .ok name)
      (empty : look.planet commander.sector = none)
      (funded : Planet.colonyCost ≤ commander.credits) :
      Deed look now commander (.planet (.colonize raw)) (.logged
        { commander with credits := commander.credits - Planet.colonyCost }
        [.insertPlanet
          { id := 0
            sector := commander.sector
            name
            owner := Owner.claimedBy commander.id commander.corp?
            production := Planet.colonyProduction
            storage := Goods.empty
            storageMax := Planet.colonyStorageMax
            citadelLevel := 0 }] .action text)
  | loaded {c : Commodity} {quantity : Int} {qty : Nat} {planet : Planet} {text : String}
      (counted : Plan.quantity? quantity = some qty)
      (found : look.planet commander.sector = some planet)
      (access : Plan.hasAccess commander planet = true)
      (roomy : qty ≤ commander.freeCargo)
      (stored : qty ≤ planet.storage.get c) :
      Deed look now commander (.planet (.load (some c) quantity)) (.logged
        { commander with cargo := commander.cargo.set c (commander.cargo.get c + qty) }
        [.savePlanet { planet with
          storage := planet.storage.set c (planet.storage.get c - qty) }] .action text)
  | unloaded {c : Commodity} {quantity : Int} {qty : Nat} {planet : Planet} {text : String}
      (counted : Plan.quantity? quantity = some qty)
      (found : look.planet commander.sector = some planet)
      (access : Plan.hasAccess commander planet = true)
      (carried : qty ≤ commander.cargo.get c)
      (roomy : planet.storage.get c + qty ≤ planet.storageMax) :
      Deed look now commander (.planet (.unload (some c) quantity)) (.logged
        { commander with cargo := commander.cargo.set c (commander.cargo.get c - qty) }
        [.savePlanet { planet with
          storage := planet.storage.set c (planet.storage.get c + qty) }] .action text)
  | fortified {planet : Planet} {text : String}
      (found : look.planet commander.sector = some planet)
      (access : Plan.hasAccess commander planet = true)
      (unfinished : planet.citadelLevel < Planet.citadelLevelMax)
      (funded : Planet.citadelCost (planet.citadelLevel + 1) ≤ commander.credits) :
      Deed look now commander (.planet .upgradeCitadel) (.logged
        { commander with
          credits := commander.credits - Planet.citadelCost (planet.citadelLevel + 1) }
        [.savePlanet { planet with citadelLevel := planet.citadelLevel + 1 }] .action text)
  | incorporated {raw name : String} {text : String}
      (single : commander.membership = none)
      (named : Naming.corpName raw = .ok name)
      (unused : look.corpNamed name = none) :
      Deed look now commander (.corp (.create raw)) (.logged
        { commander with membership := some ⟨look.nextCorp, name, .leader, 0⟩ }
        [.insertCorp name now, .insertMember ⟨look.nextCorp, commander.id, .leader, now⟩]
        .action text)
  | enlisted {raw : String} {corp : Corporation} {text : String}
      (single : commander.membership = none)
      (found : look.corpNamed (Text.trim raw) = some corp) :
      Deed look now commander (.corp (.join raw)) (.logged
        { commander with membership := some ⟨corp.id, corp.name, .member, corp.bank⟩ }
        [.insertMember ⟨corp.id, commander.id, .member, now⟩] .action text)
  | resigned {membership : Membership} {members : List Member} {text : String}
      (belongs : commander.membership = some membership)
      (roster : look.members membership.corp = .ok members) :
      Deed look now commander (.corp .leave) (.logged
        { commander with membership := none }
        (Plan.handover membership commander.id members ++
          .deleteMember membership.corp commander.id :: Plan.dissolution membership members)
        .action text)
  | announced {raw line : String} {membership : Membership} {members : List Member}
      {text : String}
      (belongs : commander.membership = some membership)
      (worded : Naming.cleanMessage raw ≠ "")
      (short : (Naming.cleanMessage raw).length ≤ messageLengthMax)
      (roster : look.members membership.corp = .ok members) :
      Deed look now commander (.corp (.say raw)) (.silent commander
        (.insertMessage ⟨membership.corp, commander.id, Naming.cleanMessage raw, now⟩ ::
          Plan.delivery members now line) text)
  | deposited {amount : Int} {membership : Membership} {corp : Corporation} {text : String}
      (belongs : commander.membership = some membership)
      (positive : 1 ≤ amount)
      (funded : amount ≤ commander.credits)
      (found : look.corp membership.corp = some corp) :
      Deed look now commander (.corp (.deposit amount)) (.logged
        (Plan.withBank { commander with credits := commander.credits - amount }
          (corp.bank + amount))
        [.saveCorp { corp with bank := corp.bank + amount }] .action text)
  | withdrew {amount : Int} {membership : Membership} {corp : Corporation} {text : String}
      (belongs : commander.membership = some membership)
      (trusted : membership.role.canWithdraw = true)
      (positive : 1 ≤ amount)
      (found : look.corp membership.corp = some corp)
      (covered : amount ≤ corp.bank) :
      Deed look now commander (.corp (.withdraw amount)) (.logged
        (Plan.withBank { commander with credits := commander.credits + amount }
          (corp.bank - amount))
        [.saveCorp { corp with bank := corp.bank - amount }] .action text)
  | reinforced {quantity : Int} {sector : Sector} {field : Minefield} {text : String}
      (positive : 1 ≤ quantity)
      (limited : quantity ≤ Minefield.deployMax)
      (found : look.sector commander.sector = some sector)
      (lawless : sector.isProtectorate = false)
      (carried : quantity.toNat ≤ commander.cargo.equipment)
      (own : ((look.minefields commander.sector).find? fun field =>
        field.owner.player? == some commander.id) = some field) :
      Deed look now commander (.mine (.deploy quantity)) (.logged
        { commander with cargo := { commander.cargo with
          equipment := commander.cargo.equipment - quantity.toNat } }
        [.saveMinefield { field with
          qty := addCapped field.qty quantity.toNat
          owner := Owner.claimedBy commander.id commander.corp? }] .action text)
  | mined {quantity : Int} {sector : Sector} {text : String}
      (positive : 1 ≤ quantity)
      (limited : quantity ≤ Minefield.deployMax)
      (found : look.sector commander.sector = some sector)
      (lawless : sector.isProtectorate = false)
      (carried : quantity.toNat ≤ commander.cargo.equipment)
      (fresh : ((look.minefields commander.sector).find? fun field =>
        field.owner.player? == some commander.id) = none) :
      Deed look now commander (.mine (.deploy quantity)) (.logged
        { commander with cargo := { commander.cargo with
          equipment := commander.cargo.equipment - quantity.toNat } }
        [.insertMinefield ⟨0, commander.sector,
          Owner.claimedBy commander.id commander.corp?, quantity.toNat, now⟩] .action text)
  | foundClear {changes : List Minefield.Change}
      (consumed : Minefield.consume (Minefield.sweepOrder (look.minefields commander.sector)
        commander.id commander.corp?) Minefield.sweepCapacity = (0, changes)) :
      Deed look now commander (.mine .sweep)
        (.logged commander [] .system "No hostile mines detected.")
  | swept {taken : Nat} {changes : List Minefield.Change}
      (consumed : Minefield.consume (Minefield.sweepOrder (look.minefields commander.sector)
        commander.id commander.corp?) Minefield.sweepCapacity = (taken, changes))
      (taking : taken ≠ 0) :
      Deed look now commander (.mine .sweep)
        (.logged commander (changes.map Minefield.Change.toWrite) .action
          s!"Swept {taken} hostile mines in sector {commander.sector}.")
  | boughtShip {code : String} {ship : Ship} {sector : Sector} {text : String}
      (found : look.sector commander.sector = some sector)
      (yard : sector.isProtectorate = true)
      (known : Ship.ofCode? code = some ship)
      (different : ship ≠ commander.ship)
      (funded : ship.price ≤ commander.credits)
      (roomy : commander.cargo.total ≤ ship.cargoMax) :
      Deed look now commander (.shipyard (.buy code)) (.logged
        { commander with
          toPlayer := Plan.refit
            { commander.toPlayer with credits := commander.credits - ship.price } ship }
        [] .action text)
  | soldShip {sector : Sector} {text : String}
      (found : look.sector commander.sector = some sector)
      (yard : sector.isProtectorate = true)
      (saleable : commander.ship ≠ .scout)
      (roomy : commander.cargo.total ≤ Ship.scout.cargoMax) :
      Deed look now commander (.shipyard .sell) (.logged
        { commander with
          toPlayer := Plan.refit
            { commander.toPlayer with
              credits := commander.credits + commander.ship.resale } .scout }
        [] .action text)
  | upgradedCargo {sector : Sector} {text : String}
      (found : look.sector commander.sector = some sector)
      (yard : sector.isProtectorate = true)
      (unfinished : commander.cargoUpgrades < cargoUpgradesMax)
      (funded : cargoUpgradeCost commander.cargoUpgrades ≤ commander.credits) :
      Deed look now commander (.shipyard (.upgrade "CARGO")) (.logged
        { commander with
          credits := commander.credits - cargoUpgradeCost commander.cargoUpgrades
          cargoUpgrades := commander.cargoUpgrades + 1
          cargoMax := commander.cargoMax + cargoPerUpgrade }
        [] .action text)
  | upgradedTurns {sector : Sector} {text : String}
      (found : look.sector commander.sector = some sector)
      (yard : sector.isProtectorate = true)
      (unfinished : commander.turnUpgrades < turnUpgradesMax)
      (funded : turnUpgradeCost commander.turnUpgrades ≤ commander.credits) :
      Deed look now commander (.shipyard (.upgrade "TURNS")) (.logged
        { commander with
          credits := commander.credits - turnUpgradeCost commander.turnUpgrades
          turnUpgrades := commander.turnUpgrades + 1
          turnsMax := commander.turnsMax + turnsPerUpgrade }
        [] .action text)

end Starlane
