import Starlane.Proofs.Course
import Starlane.Proofs.Unique

/-!
# What becomes of planets

A command leaves the planets alone, founds one in a sector without any, claims
the planet of the sector that nobody owned, or changes what the planet of the
sector stores or how strong its citadel is, which takes access. Besides
commands only production changes planets.
-/

namespace Starlane

open Chance

namespace World

/-- What an order of a commander makes of the planets of a world. -/
inductive Settles (world : World) (commander : Commander) : Table PlanetId Planet → Prop
  | spared : Settles world commander world.planets
  | founded {name : String} (vacant : world.lookup.planet commander.sector = none) :
      Settles world commander (world.planets.insert (world.lastId + 1)
        { id := world.lastId + 1
          sector := commander.sector
          name
          owner := Owner.claimedBy commander.id commander.corp?
          production := Planet.colonyProduction
          storage := Goods.empty
          storageMax := Planet.colonyStorageMax
          citadelLevel := 0 })
  | claimed {planet : Planet} {name : String}
      (here : world.lookup.planet commander.sector = some planet)
      (free : planet.owner.isOwned = false) :
      Settles world commander (world.planets.insert planet.id
        { planet with name, owner := Owner.claimedBy commander.id commander.corp? })
  | used {planet : Planet} {storage : Goods Nat} {citadelLevel : Nat}
      (here : world.lookup.planet commander.sector = some planet)
      (access : Plan.hasAccess commander planet = true)
      (stored : ∀ c, storage.get c ≤ max (planet.storage.get c) planet.storageMax)
      (built : citadelLevel ≤ max planet.citadelLevel Planet.citadelLevelMax) :
      Settles world commander (world.planets.insert planet.id
        { planet with storage, citadelLevel })

/-- The planet of a sector is stored, and in that sector. -/
theorem planet_here {world : World} (keyed : world.planets.KeyedBy (·.id)) {sector : SectorId}
    {planet : Planet} (here : world.lookup.planet sector = some planet) :
    world.planets.get? planet.id = some planet ∧ planet.sector = sector :=
  ⟨keyed.get?_of_mem (List.mem_of_find?_eq_some here), by simpa using List.find?_some here⟩

/-- A sector without a planet has none stored. -/
theorem planet_nowhere {world : World} {sector : SectorId}
    (vacant : world.lookup.planet sector = none) {id : PlanetId} {planet : Planet}
    (stored : world.planets.get? id = some planet) : planet.sector ≠ sector := by
  intro here
  have listed : planet ∈ world.planets.values :=
    (world.planets.mem_values_iff planet).mpr ⟨id, stored⟩
  exact List.find?_eq_none.mp vacant planet listed (beq_iff_eq.mpr here)

end World

/-- A store of goods with another quantity of one of them, which is within
bounds that held. -/
theorem Goods.set_le {goods : Goods Nat} {c : Commodity} {qty most : Nat}
    (bound : qty ≤ max (goods.get c) most) (d : Commodity) :
    (goods.set c qty).get d ≤ max (goods.get d) most := by
  by_cases same : d = c
  · rw [same, Goods.get_set_self]
    exact bound
  · rw [Goods.get_set_of_ne _ _ same]
    exact Nat.le_max_left _ _

/-- What a deed makes of the planets. -/
theorem Deed.settles {world : World} {now : Int} {commander : Commander} {command : Command}
    {effects : Effects} (deed : Deed world.lookup now commander command effects) :
    world.Settles commander (world.writtenAll effects.writes).planets := by
  have apart : Part.planets ∉ command.parts →
      world.Settles commander (world.writtenAll effects.writes).planets := by
    intro apart
    rw [World.writtenAll_planets
      (fun change member same => apart (same ▸ deed.parts change member)) world]
    exact .spared
  cases deed with
  | @colonized _ name planet _ _ found free =>
    exact @World.Settles.claimed world commander planet name found free
  | founded _ empty => exact .founded empty
  | @loaded c _ qty planet _ _ found access _ stored =>
    exact @World.Settles.used world commander planet
      (planet.storage.set c (planet.storage.get c - qty)) planet.citadelLevel found access
      (Goods.set_le (Nat.le_trans (Nat.sub_le _ _) (Nat.le_max_left _ _)))
      (Nat.le_max_left _ _)
  | @unloaded c _ qty planet _ _ found access _ roomy =>
    exact @World.Settles.used world commander planet
      (planet.storage.set c (planet.storage.get c + qty)) planet.citadelLevel found access
      (Goods.set_le (Nat.le_trans roomy (Nat.le_max_right _ _))) (Nat.le_max_left _ _)
  | @fortified planet _ found access unfinished =>
    exact @World.Settles.used world commander planet planet.storage (planet.citadelLevel + 1)
      found access (fun _ => Nat.le_max_left _ _)
      (Nat.le_trans unfinished (Nat.le_max_right _ _))
  | informed => exact .spared
  | _ => exact apart (by simp [Command.parts])

namespace World

variable {world after : World}

/-- What a request makes of the planets, whatever the limit on writes. -/
theorem settles_of_request {settings : Settings} {now : Int} {player : PlayerId}
    {request : Request} {storage after : Storage} {answer : Except StoreFailure Response}
    (executed : Storage.execute settings now player request storage = (answer, after)) :
    after.world.planets = storage.world.planets ∨
      ∃ row commander, storage.world.Commands player row commander ∧
        storage.world.Settles commander after.world.planets := by
  rcases Storage.execute_deed executed with ⟨players, same⟩ |
    ⟨row, commander, effects, players, logs, commands, deed, same⟩
  · exact .inl (by rw [same])
  · refine .inr ⟨row, commander, commands, ?_⟩
    rw [same]
    exact deed.settles

/-- What may happen to planets next. -/
theorem Next.settles (next : world.Next after) :
    after.planets = world.planets ∨
    after.planets = world.planets.mapValues (fun _ planet => planet.produce) ∨
    ∃ player row commander, world.Commands player row commander ∧
      world.Settles commander after.planets := by
  cases next with
  | join =>
    obtain ⟨_, _, _, same⟩ := world.join_frame _ _ _ _
    rw [same]
    exact .inl rfl
  | command executed =>
    rcases settles_of_request executed with same | ⟨row, commander, commands, settles⟩
    · exact .inl same
    · exact .inr (.inr ⟨_, row, commander, commands, settles⟩)
  | planetTick => exact .inr (.inl rfl)
  | portTick | protectorateTick => exact .inl rfl
  | @eventTick γ _ now dice =>
    obtain ⟨_, _, _, same⟩ := world.eventTick_frame now dice
    rw [same]
    exact .inl rfl

end World

end Starlane
