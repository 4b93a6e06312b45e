import Starlane.Proofs.Freight
import Starlane.Proofs.Limit

/-!
# How far a command reaches

Whatever a player does, it stays with what is theirs and with the sector that
they are in afterwards: the planets and minefields that a deed changes were
found in that sector and stay there. The rows of all others, and whatever lies
in other sectors, are spared.
-/

namespace Starlane

/-- Whether a write stays with the rows of a player and with a sector. A planet
or a minefield that is changed must have been in the sector already. Writes
about corporations and logs are told apart elsewhere. -/
def Write.Within (world : World) (player : PlayerId) (here : SectorId) : Write → Prop
  | savePlayer row => row.id = player
  | discover explorer _ => explorer = player
  | saveIntel scout _ | deleteIntel scout _ => scout = player
  | savePort port => port.sector = here
  | insertPlanet planet => planet.sector = here
  | savePlanet planet => planet.sector = here ∧
      ∃ before, world.planets.get? planet.id = some before ∧ before.sector = here
  | insertMinefield field => field.sector = here
  | saveMinefield field => field.sector = here ∧
      ∃ before, world.minefields.get? field.id = some before ∧ before.sector = here
  | deleteMinefield id => ∃ before, world.minefields.get? id = some before ∧ before.sector = here
  | insertCorp _ _ | saveCorp _ | deleteCorp _ => True
  | insertMember _ | setRole _ _ _ | deleteMember _ _ => True
  | insertMessage _ | insertLog _ _ | pruneLogs _ _ => True

/-- What concerns corporations, messages and logs is within every reach. -/
theorem Write.within_of_part {world : World} {player : PlayerId} {here : SectorId}
    {change : Write} (part : change.part ∈ [Part.corps, .messages, .logs]) :
    change.Within world player here := by
  cases change <;> simp [Write.part, Write.Within] at part ⊢

namespace Table

variable {α : Type} {wanted : α → Prop} {table other : Table Nat α} {key : Nat} {value : α}

/-- Whether two tables have the same values of some sort under the same keys. -/
def SameWhere (wanted : α → Prop) (table other : Table Nat α) : Prop :=
  ∀ id value, wanted value → (other.get? id = some value ↔ table.get? id = some value)

theorem SameWhere.refl : table.SameWhere wanted table :=
  fun _ _ _ => Iff.rfl

/-- A value of another sort, where none of the sort was, changes none of the
sort. -/
theorem SameWhere.insert (same : table.SameWhere wanted other) (unwanted : ¬ wanted value)
    (free : ∀ before, table.get? key = some before → ¬ wanted before) :
    table.SameWhere wanted (other.insert key value) := by
  intro id found sought
  rw [get?_insert]
  split
  · next here =>
    subst here
    constructor
    · intro present
      cases present
      exact absurd sought unwanted
    · intro present
      exact absurd sought (free found present)
  · exact same id found sought

theorem SameWhere.erase (same : table.SameWhere wanted other)
    (free : ∀ before, table.get? key = some before → ¬ wanted before) :
    table.SameWhere wanted (other.erase key) := by
  intro id found sought
  rw [get?_erase]
  split
  · next here =>
    subst here
    constructor
    · intro present
      cases present
    · intro present
      exact absurd sought (free found present)
  · exact same id found sought

/-- Beyond the last number there is no value of any sort. -/
theorem UpTo.free_beyond {last : Nat} (upTo : table.UpTo last) (beyond : last < key) :
    ∀ before, table.get? key = some before → ¬ wanted before := by
  intro before present
  have bound := upTo key before present
  omega

end Table

namespace World

/-- Whether a world still has what another one has beyond the reach of a player
in a sector. -/
structure Spares (world : World) (player : PlayerId) (here : SectorId) (after : World) : Prop where
  sectors : after.sectors = world.sectors
  warps : after.warps = world.warps
  events : after.events = world.events
  seasons : after.seasons = world.seasons
  players : ∀ other, other ≠ player → after.players.get? other = world.players.get? other
  discoveries : ∀ other sector, other ≠ player →
    after.discoveries.get? (other, sector) = world.discoveries.get? (other, sector)
  intel : ∀ other sector, other ≠ player →
    after.intel.get? (other, sector) = world.intel.get? (other, sector)
  ports : ∀ sector, sector ≠ here → after.ports.get? sector = world.ports.get? sector
  planets : world.planets.SameWhere (fun planet => planet.sector ≠ here) after.planets
  minefields : world.minefields.SameWhere (fun field => field.sector ≠ here) after.minefields
  counted : world.lastId ≤ after.lastId

variable {world mid : World} {player : PlayerId} {here : SectorId}

theorem Spares.refl : world.Spares player here world where
  sectors := rfl
  warps := rfl
  events := rfl
  seasons := rfl
  players _ _ := rfl
  discoveries _ _ _ := rfl
  intel _ _ _ := rfl
  ports _ _ := rfl
  planets := .refl
  minefields := .refl
  counted := Nat.le_refl _

/-- A pair with another first part is another key. -/
theorem pair_ne {first other : PlayerId} {sector there : SectorId} (different : other ≠ first) :
    (other, sector) ≠ (first, there) :=
  fun same => different (Prod.ext_iff.mp same).1

/-- A write within the reach of a player spares what lies beyond. -/
theorem Spares.write (spares : world.Spares player here mid) (filed : world.Filed)
    {change : Write} (within : change.Within world player here) :
    world.Spares player here (mid.written change) := by
  have counted := spares.counted
  cases change with
  | savePlayer row =>
    have own : row.id = player := within
    refine { spares with players := fun other different => ?_ }
    rw [← spares.players other different]
    exact Table.get?_insert_of_ne _ _ (own ▸ different)
  | discover explorer sector =>
    cases within
    refine { spares with discoveries := fun other there different => ?_ }
    rw [← spares.discoveries other there different]
    exact Table.get?_insert_of_ne _ _ (pair_ne different)
  | saveIntel scout scan =>
    cases within
    refine { spares with intel := fun other there different => ?_ }
    rw [← spares.intel other there different]
    exact Table.get?_insert_of_ne _ _ (pair_ne different)
  | deleteIntel scout sector =>
    cases within
    refine { spares with intel := fun other there different => ?_ }
    rw [← spares.intel other there different]
    exact (Table.get?_erase _ _ _).trans (if_neg (pair_ne different))
  | savePort port =>
    have located : port.sector = here := within
    refine { spares with ports := fun sector elsewhere => ?_ }
    rw [← spares.ports sector elsewhere]
    exact Table.get?_insert_of_ne _ _ (located ▸ elsewhere)
  | insertPlanet planet =>
    have located : planet.sector = here := within
    exact { spares with
      counted := Nat.le_trans counted (Nat.le_succ _)
      planets := spares.planets.insert (not_not_intro located)
        (filed.planetsUpTo.free_beyond (Nat.lt_succ_of_le counted)) }
  | savePlanet planet =>
    obtain ⟨located, before, present, there⟩ := within
    refine { spares with planets := spares.planets.insert (not_not_intro located) ?_ }
    intro found same
    cases present.symm.trans same
    exact not_not_intro there
  | insertMinefield field =>
    have located : field.sector = here := within
    exact { spares with
      counted := Nat.le_trans counted (Nat.le_succ _)
      minefields := spares.minefields.insert (not_not_intro located)
        (filed.minefieldsUpTo.free_beyond (Nat.lt_succ_of_le counted)) }
  | saveMinefield field =>
    obtain ⟨located, before, present, there⟩ := within
    refine { spares with minefields := spares.minefields.insert (not_not_intro located) ?_ }
    intro found same
    cases present.symm.trans same
    exact not_not_intro there
  | deleteMinefield gone =>
    obtain ⟨before, present, there⟩ := within
    refine { spares with minefields := spares.minefields.erase ?_ }
    intro found same
    cases present.symm.trans same
    exact not_not_intro there
  | insertCorp =>
    exact { spares with counted := Nat.le_trans counted (Nat.le_succ _) }
  | _ => exact { spares with }

/-- Writes within the reach of a player spare what lies beyond. -/
theorem Spares.writeAll (spares : world.Spares player here mid) (filed : world.Filed)
    {changes : List Write} (within : ∀ change ∈ changes, change.Within world player here) :
    world.Spares player here (mid.writtenAll changes) := by
  induction changes generalizing mid with
  | nil => exact spares
  | cons change rest ih =>
    exact ih (spares.write filed (within change (.head _))) fun later member =>
      within later (.tail _ member)

/-- The minefields that lose mines are in the sector. -/
theorem Filed.within_consume (filed : world.Filed) {fields : List Minefield}
    (present : ∀ field ∈ fields, field ∈ world.minefieldsIn here) (amount : Nat) :
    ∀ change ∈ (Minefield.consume fields amount).2.map Minefield.Change.toWrite,
      change.Within world player here := by
  have stored : ∀ field ∈ fields, field.sector = here ∧
      ∃ before, world.minefields.get? field.id = some before ∧ before.sector = here := by
    intro field member
    obtain ⟨listed, located⟩ := List.mem_filter.mp (present field member)
    exact ⟨eq_of_beq located, field, filed.minefields.get?_of_mem listed, eq_of_beq located⟩
  clear present
  induction fields generalizing amount with
  | nil => exact fun _ member => absurd member List.not_mem_nil
  | cons field rest ih =>
    have later := fun amount => ih amount fun other member => stored other (.tail _ member)
    have first := stored field (.head _)
    rw [Minefield.consume]
    split
    · exact fun _ member => absurd member List.not_mem_nil
    · split
      · exact later amount
      · intro change member
        rcases List.mem_cons.mp member with rfl | member
        · split
          · exact first.2
          · exact first
        · exact later _ change member

end World

/-- What an accepted command writes: its deed, its player and their log. -/
theorem Effects.mem_allWrites {effects : Effects} {experience now : Int} {change : Write}
    (member : change ∈ (effects.rewarded experience).allWrites now) :
    change ∈ effects.writes ∨
      change = .savePlayer (Rank.award experience effects.commander.toPlayer).1 ∨
      (∃ entry, change = .insertLog effects.commander.id entry) ∨
      change = .pruneLogs effects.commander.id logKeep := by
  have own : (effects.rewarded experience).commander.id = effects.commander.id := by
    rw [rewarded_player, Rank.award_id]
  rw [allWrites, rewarded_writes, rewarded_player, logWrites, own] at member
  rcases List.mem_append.mp member with written | member
  · exact .inl written
  · rcases List.mem_cons.mp member with saved | member
    · exact .inr (.inl saved)
    · rcases List.mem_append.mp member with line | pruning
      · obtain ⟨entry, _, rfl⟩ := List.mem_map.mp line
        exact .inr (.inr (.inl ⟨entry, rfl⟩))
      · split at pruning
        · cases pruning
        · exact .inr (.inr (.inr (List.mem_singleton.mp pruning)))

namespace Deed

variable {world : World} {now : Int} {commander : Commander} {command : Command}
  {effects : Effects}

/-- A deed stays with its commander and the sector that they are in afterwards. -/
theorem within (deed : Deed world.lookup now commander command effects) (filed : world.Filed) :
    ∀ change ∈ effects.writes,
      change.Within world commander.id effects.commander.sector := by
  have ported : ∀ {port : Port} {c : Commodity} {qty : Nat},
      world.lookup.port commander.sector = .ok (some port) →
      (Write.savePort (port.setQty c qty)).Within world commander.id commander.sector := by
    intro port c qty found
    have located : port.sector = commander.sector := filed.ports _ _ (Except.ok.inj found)
    exact located
  have settled : ∀ {planet after : Planet},
      world.lookup.planet commander.sector = some planet → after.id = planet.id →
      after.sector = planet.sector →
      (Write.savePlanet after).Within world commander.id commander.sector := by
    intro planet after found id sector
    have located : planet.sector = commander.sector := by
      simpa using List.find?_some found
    exact ⟨sector.trans located, planet, id ▸ filed.planet_found found, located⟩
  have sweeping : ∀ amount, ∀ change ∈ (Minefield.consume (Minefield.sweepOrder
      (world.minefieldsIn commander.sector) commander.id commander.corp?) amount).2.map
        Minefield.Change.toWrite, change.Within world commander.id commander.sector :=
    filed.within_consume fun field member =>
      List.mem_of_mem_filter ((List.mergeSort_perm _ _).mem_iff.mp member)
  intro change member
  have original := deed
  cases deed with
  | informed | foundClear | boughtShip | soldShip | upgradedCargo | upgradedTurns => cases member
  | scannedVoid | scannedPort =>
    rcases List.mem_cons.mp member with rfl | renewed
    · exact rfl
    · rw [List.mem_singleton.mp renewed]
      exact rfl
  | moved =>
    rw [Plan.arrival_eq] at member ⊢
    rcases List.mem_cons.mp member with rfl | struck
    · exact rfl
    · exact filed.within_consume (fun field listed =>
        List.mem_of_mem_filter ((List.mergeSort_perm _ _).mem_iff.mp listed)) _ change struck
  | bought _ found | sold _ found =>
    rw [List.mem_singleton.mp member]
    exact ported found
  | colonized _ found | loaded _ found | unloaded _ found | fortified found =>
    rw [List.mem_singleton.mp member]
    exact settled found rfl rfl
  | founded | mined =>
    rw [List.mem_singleton.mp member]
    exact rfl
  | @reinforced quantity sector field _ _ _ _ _ _ own =>
    rw [List.mem_singleton.mp member]
    have listed := List.mem_of_find?_eq_some own
    have located : field.sector = commander.sector := eq_of_beq (List.mem_filter.mp listed).2
    exact ⟨located, field, filed.field_found own, located⟩
  | swept consumed =>
    have changes := congrArg Prod.snd consumed
    dsimp only at changes
    rw [Effects.logged, ← changes] at member
    exact sweeping _ change member
  | incorporated | enlisted | resigned | announced | deposited | withdrew =>
    exact Write.within_of_part (original.parts change member)

/-- An accepted command stays with its commander, and with the sector that they
are in afterwards. -/
theorem within_all (deed : Deed world.lookup now commander command effects)
    (filed : world.Filed) (experience : Int) :
    ∀ change ∈ (effects.rewarded experience).allWrites now,
      change.Within world commander.id effects.commander.sector := by
  intro change member
  rcases Effects.mem_allWrites member with written | rfl | ⟨entry, rfl⟩ | rfl
  · exact deed.within filed change written
  · exact (Rank.award_id _ _).trans deed.commander_id
  · trivial
  · trivial

end Deed

/-- A request changes nothing at all, or spares what lies beyond the sector that
its player is in afterwards. -/
theorem Storage.execute_spares {settings : Settings} {now : Int} {player : PlayerId}
    {request : Request} {answer : Except StoreFailure Response} {storage after : Storage}
    (filed : storage.world.Filed)
    (executed : Storage.execute settings now player request storage = (answer, after)) :
    after.world = storage.world ∨
      ∃ row, after.world.players.get? player = some row ∧
        storage.world.Spares player row.sector after.world := by
  rcases Storage.outcomes executed with ⟨_, _, same⟩ | ⟨_, row, _, refused⟩ |
    ⟨_, row, effects, _, accepted⟩
  · exact .inl same
  · have own : row.id = player := filed.players player row refused.found
    have saved : (row.regenerate settings.turnRegenSeconds now).1.id = player :=
      (row.regenerate_id _ _).trans own
    refine .inr ⟨(row.regenerate settings.turnRegenSeconds now).1, ?_, ?_⟩
    · rw [refused.committed, World.written, saved]
      exact Table.get?_insert_self _ _ _
    · rw [refused.committed]
      exact World.Spares.refl.write filed saved
  · have own : row.id = player := filed.players player row accepted.found
    obtain ⟨experience, logs, same⟩ := accepted.state own
    refine .inr ⟨_, by rw [same]; exact Table.get?_insert_self _ _ _, ?_⟩
    have within := accepted.deed.within_all filed
      ((Command.ofRequest request).rewardFor (storage.world.present settings now player row))
    obtain ⟨turns, stamp, paid⟩ :=
      Command.paidBy_frame (.ofRequest request) storage.world settings now player row
    rw [paid] at within
    rw [accepted.committed, Rank.award_frame, ← own]
    exact World.Spares.refl.writeAll filed within

end Starlane
