import Starlane.Proofs.Admission
import Starlane.Proofs.PlayerInvariant
import Starlane.Proofs.Rereading
import Starlane.Text.Casing

/-!
# What a world has once

A sector has one planet and one event at most and one minefield of each player,
and no two corporations have the same name in any case. Commands look before
they add, so every write of a deed respects this; nor does one write a number
that is too large for its column, or another name for a player.
-/

namespace Starlane

/-- Whoever claims something is known by it. -/
theorem Owner.claimedBy_player? (player : PlayerId) (corp : Option CorpId) :
    (Owner.claimedBy player corp).player? = some player := by
  cases corp <;> rfl

/-- Whether the numbers of a stock fit their columns. -/
structure Stock.Fits (stock : Stock) : Prop where
  qty : stock.qty ≤ counterMax
  baseQty : stock.baseQty ≤ counterMax
  basePrice : stock.basePrice ≤ counterMax

/-- Whether the numbers of a port fit their columns. -/
structure Port.Fits (port : Port) : Prop where
  sector : port.sector ≤ counterMax
  stocks : ∀ c, (port.stock c).Fits

/-- The stocks of a port with another quantity of a commodity. -/
theorem Port.setQty_stock (port : Port) (c d : Commodity) (qty : Nat) :
    (port.setQty c qty).stock d =
      if d = c then { port.stock d with qty } else port.stock d := by
  split
  · next same =>
    subst same
    exact Goods.get_set_self _ _ _
  · next different => exact Goods.get_set_of_ne _ _ different

theorem Port.Fits.setQty {port : Port} (fits : port.Fits) {c : Commodity} {qty : Nat}
    (bound : qty ≤ counterMax) : (port.setQty c qty).Fits where
  sector := fits.sector
  stocks d := by
    have stock := fits.stocks d
    rw [Port.setQty_stock]
    split
    · exact ⟨bound, stock.baseQty, stock.basePrice⟩
    · exact stock

/-- A price is an amount. -/
theorem Price.ofStock_le {stock : Stock} (fits : stock.Fits) (c : Commodity)
    (event : Option Event) : ofStock stock c event ≤ amountMax := by
  have amount : ∀ q, Number.toAmount q ≤ amountMax := by
    intro q
    unfold Number.toAmount clampAmount amountMax amountMin
    omega
  have base : adjustedBase stock.basePrice (percentUnder event c) ≤ amountMax := by
    unfold adjustedBase
    dsimp only
    split
    · have bound := fits.basePrice
      unfold counterMax at bound
      unfold amountMax
      omega
    · exact amount _
  unfold ofStock unitWithPercent unit
  dsimp only
  split
  · unfold amountMax at base ⊢
    omega
  · exact Int.max_le.mpr ⟨amount _, by decide⟩

/-- A scan of a port whose numbers fit has numbers that fit. -/
theorem Intel.Fits.capture {port : Port} (fits : port.Fits) (name : String)
    (event : Option Event) {now : Int} (low : amountMin ≤ now) (high : now ≤ amountMax) :
    (Intel.capture port name event now).Fits where
  sector := fits.sector
  scanned_low := low
  scanned_high := high
  quotes c := by
    have stock := fits.stocks c
    have price := Price.ofStock_le stock c event
    have positive := Price.ofStock_nonneg (port.stock c) c event
    have quoted : (Intel.capture port name event now).quotes.get c =
        ⟨(port.stock c).mode, (port.stock c).qty, (port.stock c).baseQty,
          Price.ofStock (port.stock c) c event⟩ := Goods.get_ofFn _ _
    rw [quoted]
    exact ⟨stock.qty, stock.baseQty, Int.le_trans (by decide) positive, price⟩

namespace Table

variable {α κ : Type} {table : Table Nat α} {key : α → Option κ}

/-- Whether no two values have the same name; a value may have none. -/
def Apart (table : Table Nat α) (key : α → Option κ) : Prop :=
  ∀ a p b q name, table.get? a = some p → table.get? b = some q → key p = some name →
    key q = some name → a = b

/-- Whether no value has the name of a new one. -/
def Free (table : Table Nat α) (key : α → Option κ) (value : α) : Prop :=
  ∀ id other name, table.get? id = some other → key other = some name → key value ≠ some name

/-- Whether a value has the name of the one in its place. -/
def Keeps (table : Table Nat α) (key : α → Option κ) (id : Nat) (value : α) : Prop :=
  ∃ old, table.get? id = some old ∧ key old = key value

theorem Apart.empty : (Table.empty : Table Nat α).Apart key := by
  intro a p b q name found
  cases found

theorem Apart.add (apart : table.Apart key) {value : α} (free : table.Free key value)
    (id : Nat) : (table.insert id value).Apart key := by
  intro a p b q name first second named named'
  rw [get?_insert] at first second
  split at first <;> split at second
  · next left right => rw [left, right]
  · cases first
    exact absurd named (free b q name second named')
  · cases second
    exact absurd named' (free a p name first named)
  · exact apart a p b q name first second named named'

/-- Values whose names were there before, in the same places, are apart as
before. -/
theorem Apart.transfer (apart : table.Apart key) {other : Table Nat α}
    (before : ∀ id value name, other.get? id = some value → key value = some name →
      ∃ old, table.get? id = some old ∧ key old = some name) : other.Apart key := by
  intro a p b q name first second named named'
  obtain ⟨p', first, named⟩ := before a p name first named
  obtain ⟨q', second, named'⟩ := before b q name second named'
  exact apart a p' b q' name first second named named'

theorem Apart.save (apart : table.Apart key) {id : Nat} {value : α}
    (keeps : table.Keeps key id value) : (table.insert id value).Apart key := by
  obtain ⟨old, stored, kept⟩ := keeps
  refine apart.transfer fun other found name present named => ?_
  rw [get?_insert] at present
  split at present
  · next same =>
    cases present
    exact ⟨old, same ▸ stored, kept.trans named⟩
  · exact ⟨found, present, named⟩

theorem Apart.erase (apart : table.Apart key) (id : Nat) : (table.erase id).Apart key := by
  refine apart.transfer fun other found name present named => ?_
  rw [get?_erase] at present
  split at present
  · cases present
  · exact ⟨found, present, named⟩

theorem Apart.mapValues (apart : table.Apart key) {f : Nat → α → α}
    (same : ∀ id value, key (f id value) = key value) : (table.mapValues f).Apart key := by
  refine apart.transfer fun id found name present named => ?_
  rw [get?_mapValues] at present
  obtain ⟨old, stored, rfl⟩ := Option.map_eq_some_iff.mp present
  exact ⟨old, stored, (same id old).symm.trans named⟩

end Table

/-- What no command changes about a player: who they are, and the season. -/
def Player.credentials (player : Player) : String × Bool × Bool × SeasonId × String :=
  (player.username, player.isAdmin, player.mustChangePassword, player.season, player.seasonName)

/-- What tells players apart: their name. -/
def Player.handle (player : Player) : Option String :=
  some player.username

/-- What tells events apart: their sector. -/
def Event.place (event : Event) : Option SectorId :=
  some event.sector

/-- What tells planets apart: their sector. -/
def Planet.plot (planet : Planet) : Option SectorId :=
  some planet.sector

/-- What tells corporations apart: their name in any case. -/
def Corporation.title (corp : Corporation) : Option String :=
  some (Text.lower corp.name)

/-- What tells minefields apart: their sector, and who laid them. -/
def Minefield.claim (field : Minefield) : Option (SectorId × PlayerId) :=
  field.owner.player?.map fun player => (field.sector, player)

namespace World

variable {world : World} {change : Write}

/-- Whether a write adds nothing that there may be only one of, and keeps what
tells records apart. -/
def Respects (world : World) : Write → Prop
  | .savePlayer player => ∃ old, world.players.get? player.id = some old ∧
      old.credentials = player.credentials
  | .savePort port => port.Fits
  | .insertPlanet planet => world.planets.Free Planet.plot planet
  | .savePlanet planet => world.planets.Keeps Planet.plot planet.id planet
  | .insertCorp name _ => world.corps.Free Corporation.title ⟨0, name, 0⟩
  | .saveCorp corp => ∃ old, world.corps.get? corp.id = some old ∧ old.name = corp.name
  | .insertMinefield field => world.minefields.Free Minefield.claim field
  | .saveMinefield field => world.minefields.Keeps Minefield.claim field.id field
  | .saveIntel _ intel => intel.Fits
  | _ => True

/-- Whether there is at most one of each of what there may be only one of, scans
are kept under their own sectors, and the numbers of all ports fit. -/
structure Distinct (world : World) : Prop where
  players : world.players.Apart Player.handle
  events : world.events.Apart Event.place
  planets : world.planets.Apart Planet.plot
  corps : world.corps.Apart Corporation.title
  fields : world.minefields.Apart Minefield.claim
  members : (world.members.map (·.player)).Nodup
  scans : ∀ key intel, world.intel.get? key = some intel → intel.sector = key.2
  ports : ∀ id port, world.ports.get? id = some port → port.Fits

/-- A write that respects what there is once keeps it so. -/
theorem Distinct.written (distinct : world.Distinct) (admits : world.Admits change)
    (respects : world.Respects change) : (world.written change).Distinct := by
  cases change with
  | savePlayer player =>
    obtain ⟨old, stored, kept⟩ := respects
    have keeps : world.players.Keeps Player.handle player.id player :=
      ⟨old, stored, congrArg some (congrArg Prod.fst kept)⟩
    exact { distinct with players := distinct.players.save keeps }
  | saveIntel player intel =>
    refine { distinct with scans := fun key other found => ?_ }
    simp only [World.written, Table.get?_insert] at found
    split at found
    · next same =>
      cases found
      rw [same]
    · exact distinct.scans key other found
  | deleteIntel player sector =>
    refine { distinct with scans := fun key other found => ?_ }
    simp only [World.written, Table.get?_erase] at found
    split at found
    · cases found
    · exact distinct.scans key other found
  | savePort port =>
    refine { distinct with ports := fun id stored found => ?_ }
    simp only [World.written, Table.get?_insert] at found
    split at found
    · cases found
      exact respects
    · exact distinct.ports id stored found
  | insertPlanet planet =>
    have free : world.planets.Free Planet.plot { planet with id := world.lastId + 1 } := respects
    exact { distinct with planets := distinct.planets.add free _ }
  | savePlanet planet => exact { distinct with planets := distinct.planets.save respects }
  | insertCorp name now =>
    have free : world.corps.Free Corporation.title ⟨world.lastId + 1, name, 0⟩ := respects
    exact { distinct with corps := distinct.corps.add free _ }
  | saveCorp corp =>
    obtain ⟨old, stored, kept⟩ := respects
    have keeps : world.corps.Keeps Corporation.title corp.id corp :=
      ⟨old, stored, congrArg (fun name => some (Text.lower name)) kept⟩
    exact { distinct with corps := distinct.corps.save keeps }
  | deleteCorp corp =>
    exact { distinct with
      corps := distinct.corps.erase corp
      members := distinct.members.sublist (List.filter_sublist.map _) }
  | insertMember member =>
    refine { distinct with members := ?_ }
    have new := memberOf?_eq_none.mp admits
    change ((world.members ++ [member]).map (·.player)).Nodup
    rw [List.map_append]
    refine List.nodup_append.mpr ⟨distinct.members, List.nodup_singleton _, ?_⟩
    rintro player among _ last rfl
    obtain ⟨line, listed, own⟩ := List.mem_map.mp among
    exact new line listed (own.trans (List.mem_singleton.mp last))
  | setRole corp player role =>
    refine { distinct with members := ?_ }
    have players : (world.members.map fun member =>
        if isMember corp player member then { member with role } else member).map (·.player) =
        world.members.map (·.player) := by
      rw [List.map_map]
      refine List.map_congr_left fun member _ => ?_
      rw [Function.comp_apply]
      split <;> rfl
    change (List.map _ (List.map _ world.members)).Nodup
    rw [players]
    exact distinct.members
  | deleteMember corp player =>
    exact { distinct with members := distinct.members.sublist (List.filter_sublist.map _) }
  | insertMinefield field =>
    have free : world.minefields.Free Minefield.claim { field with id := world.lastId + 1 } :=
      respects
    exact { distinct with fields := distinct.fields.add free _ }
  | saveMinefield field => exact { distinct with fields := distinct.fields.save respects }
  | deleteMinefield field => exact { distinct with fields := distinct.fields.erase field }
  | _ => exact { distinct with }

/-- When all of some writes, carried out in order, are admitted and respect what
there is once. -/
inductive AcceptsAll : World → List Write → Prop
  | nil {world : World} : AcceptsAll world []
  | cons {world : World} {change : Write} {rest : List Write} (admits : world.Admits change)
      (respects : world.Respects change) (others : (world.written change).AcceptsAll rest) :
      AcceptsAll world (change :: rest)

theorem AcceptsAll.append {first second : List Write} (before : world.AcceptsAll first)
    (after : (world.writtenAll first).AcceptsAll second) : world.AcceptsAll (first ++ second) := by
  induction before with
  | nil => exact after
  | cons admits respects _ ih => exact .cons admits respects (ih after)

theorem AcceptsAll.single (admits : world.Admits change) (respects : world.Respects change) :
    world.AcceptsAll [change] :=
  .cons admits respects .nil

theorem AcceptsAll.admitted {changes : List Write} (accepts : world.AcceptsAll changes) :
    world.AdmitsAll changes := by
  induction accepts with
  | nil => exact .nil
  | cons admits _ _ ih => exact .cons admits ih

theorem AcceptsAll.distinct {changes : List Write} (accepts : world.AcceptsAll changes)
    (distinct : world.Distinct) : (world.writtenAll changes).Distinct := by
  induction accepts with
  | nil => exact distinct
  | cons admits respects _ ih => exact ih (distinct.written admits respects)

/-- Writes about which there is nothing to respect. -/
theorem AcceptsAll.plain {changes : List Write} (admitted : world.AdmitsAll changes)
    (plain : ∀ change ∈ changes, ∀ world : World, world.Respects change) :
    world.AcceptsAll changes := by
  induction admitted with
  | nil => exact .nil
  | cons admits _ ih =>
    exact .cons admits (plain _ (.head _) _) (ih fun change later => plain change (.tail _ later))

/-- The changes of fields that lose mines leave the fields where they are. -/
theorem Holds.accepts_consume {fields : List Minefield} (holds : world.Holds fields)
    (amount : Nat) :
    world.AcceptsAll ((Minefield.consume fields amount).2.map Minefield.Change.toWrite) := by
  induction fields generalizing world amount with
  | nil => exact .nil
  | cons field rest ih =>
    rw [Minefield.consume]
    split
    · exact .nil
    · split
      · exact ih holds.tail amount
      · have stored := holds.stored field (.head _)
        dsimp only
        split
        · exact .cons trivial trivial (ih holds.remove.1 _)
        · refine .cons ?_ ⟨field, stored, rfl⟩ (ih (holds.shrink (Nat.min_le_left _ _)).1 _)
          exact Option.isSome_iff_exists.mpr ⟨field, stored⟩

end World

namespace Deed

variable {world : World} {now : Int} {commander : Commander} {command : Command}
  {effects : Effects}

/-- A deed leaves the credentials alone. -/
theorem credentials {look : Lookup} (deed : Deed look now commander command effects) :
    effects.commander.credentials = commander.credentials := by
  cases deed with
  | moved => rw [Plan.arrival_eq]; rfl
  | _ => rfl

/-- A deed adds nothing that there may be only one of. -/
theorem accepted (deed : Deed world.lookup now commander command effects)
    (rostered : world.Rostered) (filed : world.Filed) (distinct : world.Distinct)
    (snapshot : commander.membership = world.membershipOf commander.id)
    (low : amountMin ≤ now) (high : now ≤ amountMax) : world.AcceptsAll effects.writes := by
  have admitted := deed.admitted rostered filed snapshot
  have moored : ∀ {sector : SectorId} {port : Port},
      world.lookup.port sector = .ok (some port) → port.Fits :=
    fun found => distinct.ports _ _ (Except.ok.inj found)
  have settled : ∀ {sector : SectorId} {planet : Planet},
      world.lookup.planet sector = some planet → world.planets.get? planet.id = some planet :=
    fun found => filed.planets.get?_of_mem (List.mem_of_find?_eq_some found)
  have banked : ∀ {id : CorpId} {corp : Corporation},
      world.lookup.corp id = some corp → world.corps.get? corp.id = some corp := by
    intro id corp found
    have present : world.corps.get? id = some corp := found
    have own : corp.id = id := filed.corps id corp present
    rw [own]
    exact present
  cases deed with
  | informed | foundClear | boughtShip | soldShip | upgradedCargo | upgradedTurns => exact .nil
  | scannedVoid => exact .cons trivial trivial (.single trivial trivial)
  | @scannedPort port sector event _ found =>
    have scan := Intel.Fits.capture (moored found) sector.name event low high
    exact .cons trivial trivial (.single trivial scan)
  | moved =>
    rw [Plan.arrival_eq]
    refine .cons trivial trivial (World.Holds.accepts_consume ?_ _)
    obtain ⟨apart, stored⟩ := filed.holds_strikeOrder _ commander.id commander.corp?
    exact ⟨apart, stored⟩
  | @bought c _ _ port _ _ _ found =>
    cases admitted with
    | cons admits =>
      have stock := (moored found).stocks c
      exact .single admits ((moored found).setQty (Nat.le_trans (Nat.sub_le _ _) stock.qty))
  | @sold c _ _ port _ _ _ found _ _ _ demanded =>
    cases admitted with
    | cons admits =>
      have stock := (moored found).stocks c
      exact .single admits ((moored found).setQty (Nat.le_trans demanded stock.baseQty))
  | colonized _ found | loaded _ found | unloaded _ found | fortified found =>
    have stored := settled found
    cases admitted with
    | cons admits => exact .single admits ⟨_, stored, rfl⟩
  | founded _ empty =>
    refine .single trivial fun id other plot present named same => ?_
    have there : other.sector = commander.sector := Option.some.inj (named.trans same.symm)
    have listed : other ∈ world.planets.values :=
      (world.planets.mem_values_iff other).mpr ⟨id, present⟩
    have elsewhere := List.find?_eq_none.mp empty other listed
    exact elsewhere (beq_iff_eq.mpr there)
  | @incorporated _ name _ _ _ unused =>
    cases admitted with
    | cons _ others =>
      cases others with
      | cons admits =>
        refine .cons trivial (fun id other title present named same => ?_) (.single admits trivial)
        have equal : Text.lower other.name = Text.lower name :=
          Option.some.inj (named.trans same.symm)
        have listed : other ∈ world.corps.values :=
          (world.corps.mem_values_iff other).mpr ⟨id, present⟩
        have differs := List.find?_eq_none.mp unused other listed
        exact differs (beq_iff_eq.mpr equal)
  | enlisted =>
    refine .plain admitted fun change listed world => ?_
    rw [List.mem_singleton.mp listed]
    trivial
  | resigned =>
    refine .plain admitted fun change listed world => ?_
    rcases List.mem_append.mp listed with first | later
    · rw [Plan.handover_eq] at first
      obtain ⟨_, _, rfl⟩ := List.mem_map.mp first
      trivial
    · rcases List.mem_cons.mp later with rfl | last
      · trivial
      · unfold Plan.dissolution at last
        split at last
        · rw [List.mem_singleton.mp last]
          trivial
        · cases last
  | announced =>
    refine .plain admitted fun change listed world => ?_
    rcases List.mem_cons.mp listed with rfl | line
    · trivial
    · have logs := Plan.delivery_part line
      cases change with
      | insertLog | pruneLogs => trivial
      | _ => cases logs
  | deposited _ _ _ found | withdrew _ _ _ found =>
    have stored := banked found
    cases admitted with
    | cons admits => exact .single admits ⟨_, stored, rfl⟩
  | @reinforced _ _ field _ _ _ _ _ _ own =>
    cases admitted with
    | cons admits =>
      have listed := List.mem_of_mem_filter (List.mem_of_find?_eq_some own)
      have stored := filed.minefields.get?_of_mem listed
      have laid : field.owner.player? = some commander.id := by
        simpa using List.find?_some own
      refine .single admits ⟨field, stored, ?_⟩
      simp only [Minefield.claim, laid, Owner.claimedBy_player?]
  | mined _ _ _ _ _ fresh =>
    refine .single trivial fun id other claim present named same => ?_
    simp only [Minefield.claim, Owner.claimedBy_player?, Option.map_some, Option.some.injEq]
      at same
    subst same
    obtain ⟨player, laid, claimed⟩ := Option.map_eq_some_iff.mp named
    obtain ⟨there, own⟩ := Prod.ext_iff.mp claimed
    have listed : other ∈ world.minefieldsIn commander.sector :=
      List.mem_filter.mpr ⟨(world.minefields.mem_values_iff other).mpr ⟨id, present⟩,
        beq_iff_eq.mpr there⟩
    have missed := List.find?_eq_none.mp fresh other listed
    exact missed (beq_iff_eq.mpr (laid.trans (congrArg some own)))
  | @swept taken changes consumed =>
    have listed : (Minefield.consume (Minefield.sweepOrder (world.minefieldsIn commander.sector)
        commander.id commander.corp?) Minefield.sweepCapacity).2 = changes :=
      congrArg Prod.snd consumed
    change world.AcceptsAll (changes.map Minefield.Change.toWrite)
    rw [← listed]
    exact (filed.holds_sweepOrder _ _ _).accepts_consume _

/-- After the deed the player is saved under the same credentials, then the log. -/
theorem accepted_all (deed : Deed world.lookup now commander command effects)
    (rostered : world.Rostered) (filed : world.Filed) (distinct : world.Distinct)
    (snapshot : commander.membership = world.membershipOf commander.id) {row : Player}
    (joined : world.players.get? commander.id = some row)
    (known : row.credentials = commander.credentials)
    (low : amountMin ≤ now) (high : now ≤ amountMax) (experience : Int) :
    world.AcceptsAll ((effects.rewarded experience).allWrites now) := by
  have found : (world.writtenAll effects.writes).players.get?
      (effects.rewarded experience).commander.id = some row := by
    rw [deed.players, Effects.rewarded_player, Rank.award_id, deed.commander_id]
    exact joined
  have logs : ∀ change ∈ (effects.rewarded experience).logWrites now,
      ∀ world : World, world.Admits change ∧ world.Respects change := by
    intro change line world
    have only := Effects.logWrites_onlyLogs _ now change line
    cases change with
    | insertLog | pruneLogs => exact ⟨trivial, trivial⟩
    | _ => cases only
  rw [Effects.allWrites, Effects.rewarded_writes]
  refine (deed.accepted rostered filed distinct snapshot low high).append ?_
  refine .cons (Option.isSome_iff_exists.mpr ⟨row, found⟩) ⟨row, found, ?_⟩ (.plain (.free
    fun change line world => (logs change line world).1)
    fun change line world => (logs change line world).2)
  rw [Effects.rewarded_player, Rank.award_frame]
  exact known.trans deed.credentials.symm

end Deed

end Starlane
