import Starlane.Proofs.Roster

/-!
# The writes of a deed are admitted

A write fails where the row that it changes is missing, or where the roster has
a line for the player already. A deed changes rows that it has read, so on a
world with its rows filed and its rosters in order none of its writes fails.
-/

namespace Starlane

namespace World

variable {world : World}

/-- A write that is admitted is carried out. -/
theorem apply_admitted {change : Write} (admits : world.Admits change) :
    world.apply change = .ok (world.written change) := by
  cases change with
  | savePlayer | savePort | savePlanet | saveCorp | saveMinefield =>
    simp only [apply]
    rw [replace_present admits]
    rfl
  | insertMember member =>
    have free : world.memberOf? member.player = none := admits
    simp [apply, addMember, free, written]
  | setRole corp player role =>
    have present : world.members.any (isMember corp player) = true := admits
    simp only [apply, setRole, if_pos present]
    rfl
  | _ => rfl

theorem AdmitsAll.append {first second : List Write} (before : world.AdmitsAll first)
    (after : (world.writtenAll first).AdmitsAll second) : world.AdmitsAll (first ++ second) := by
  induction before with
  | nil => exact after
  | cons admits _ ih => exact .cons admits (ih after)

theorem AdmitsAll.single {change : Write} (admits : world.Admits change) :
    world.AdmitsAll [change] :=
  .cons admits .nil

/-- A log takes every line. -/
theorem admits_logs {change : Write} (part : change.part = .logs) : world.Admits change := by
  cases change with
  | insertLog | pruneLogs => trivial
  | _ => cases part

/-- Writes that are always admitted. -/
theorem AdmitsAll.free {changes : List Write}
    (free : ∀ change ∈ changes, ∀ world : World, world.Admits change) :
    world.AdmitsAll changes := by
  induction changes generalizing world with
  | nil => exact .nil
  | cons change rest ih =>
    exact .cons (free change (.head _) _) (ih fun later member => free later (.tail _ member))

/-- The changes of fields that lose mines are admitted. -/
theorem Holds.admits_consume {fields : List Minefield} (holds : world.Holds fields)
    (amount : Nat) :
    world.AdmitsAll ((Minefield.consume fields amount).2.map Minefield.Change.toWrite) := by
  induction fields generalizing world amount with
  | nil => exact .nil
  | cons field rest ih =>
    rw [Minefield.consume]
    split
    · exact .nil
    · split
      · exact ih holds.tail amount
      · dsimp only
        split
        · exact .cons trivial (ih holds.remove.1 _)
        · have stored := holds.stored field (.head _)
          have admits : world.minefields.contains field.id = true := by
            rw [Table.contains, stored]
            rfl
          exact .cons admits (ih (holds.shrink (Nat.min_le_left field.qty amount)).1 _)

/-- The writes by which a member leaves are admitted. -/
theorem admits_departure (membership : Membership) (leaver : PlayerId) :
    world.AdmitsAll (Plan.handover membership leaver
        (Member.sortByJoining (world.rosterOf membership.corp)) ++
      .deleteMember membership.corp leaver :: Plan.dissolution membership
        (Member.sortByJoining (world.rosterOf membership.corp))) := by
  refine AdmitsAll.append ?_ (.cons trivial (.free fun change member world => ?_))
  · rw [Plan.handover_eq]
    cases inherits : Plan.heir membership leaver
        (Member.sortByJoining (world.rosterOf membership.corp)) with
    | none => exact .nil
    | some heir =>
      have listed : heir ∈ world.rosterOf membership.corp :=
        (List.mergeSort_perm _ _).mem_iff.mp (Plan.heir_mem inherits)
      obtain ⟨lined, employer⟩ := mem_rosterOf.mp listed
      exact .single (List.any_eq_true.mpr ⟨heir, lined, isMember_iff.mpr ⟨employer, rfl⟩⟩)
  · unfold Plan.dissolution at member
    split at member
    · rw [List.mem_singleton.mp member]
      trivial
    · cases member

end World

namespace Deed

variable {world : World} {now : Int} {commander : Commander} {command : Command}
  {effects : Effects}

/-- No write of a deed fails. -/
theorem admitted (deed : Deed world.lookup now commander command effects)
    (rostered : world.Rostered) (filed : world.Filed)
    (snapshot : commander.membership = world.membershipOf commander.id) :
    world.AdmitsAll effects.writes := by
  have ported : ∀ {sector : SectorId} {port : Port},
      world.lookup.port sector = .ok (some port) → world.ports.contains port.sector = true := by
    intro sector port found
    have present : world.ports.get? sector = some port := Except.ok.inj found
    have own : port.sector = sector := filed.ports sector port present
    rw [own, Table.contains, present]
    rfl
  have settled : ∀ {sector : SectorId} {planet : Planet},
      world.lookup.planet sector = some planet → world.planets.contains planet.id = true := by
    intro sector planet found
    have present := filed.planets.get?_of_mem (List.mem_of_find?_eq_some found)
    exact Option.isSome_iff_exists.mpr ⟨planet, present⟩
  have banked : ∀ {id : CorpId} {corp : Corporation},
      world.lookup.corp id = some corp → world.corps.contains corp.id = true := by
    intro id corp found
    have present : world.corps.get? id = some corp := found
    have own : corp.id = id := filed.corps id corp present
    rw [own, Table.contains, present]
    rfl
  cases deed with
  | informed | foundClear | boughtShip | soldShip | upgradedCargo | upgradedTurns => exact .nil
  | scannedVoid | scannedPort => exact .cons trivial (.cons trivial .nil)
  | moved =>
    rw [Plan.arrival_eq]
    refine .cons trivial (World.Holds.admits_consume ?_ _)
    obtain ⟨distinct, stored⟩ := filed.holds_strikeOrder _ commander.id commander.corp?
    exact ⟨distinct, stored⟩
  | bought _ found | sold _ found =>
    have present := ported found
    exact .single present
  | colonized _ found | loaded _ found | unloaded _ found | fortified found =>
    have present := settled found
    exact .single present
  | founded | mined => exact .single trivial
  | incorporated single =>
    exact .cons trivial (.single (rostered.memberOf?_of_single (snapshot ▸ single)))
  | enlisted single => exact .single (rostered.memberOf?_of_single (snapshot ▸ single))
  | resigned _ roster =>
    cases roster
    exact World.admits_departure _ _
  | announced =>
    exact .cons trivial (.free fun change member world =>
      World.admits_logs (Plan.delivery_part member))
  | deposited _ _ _ found | withdrew _ _ _ found =>
    have present := banked found
    exact .single present
  | reinforced _ _ _ _ _ own =>
    have listed := List.mem_of_mem_filter (List.mem_of_find?_eq_some own)
    have stored := filed.minefields.get?_of_mem listed
    exact .single (Option.isSome_iff_exists.mpr ⟨_, stored⟩)
  | @swept taken changes consumed =>
    have listed : (Minefield.consume (Minefield.sweepOrder (world.minefieldsIn commander.sector)
        commander.id commander.corp?) Minefield.sweepCapacity).2 = changes :=
      congrArg Prod.snd consumed
    change world.AdmitsAll (changes.map Minefield.Change.toWrite)
    rw [← listed]
    exact (filed.holds_sweepOrder _ _ _).admits_consume _

/-- No write of an accepted command fails: after the deed the player is saved,
then the log. -/
theorem admitted_all (deed : Deed world.lookup now commander command effects)
    (rostered : world.Rostered) (filed : world.Filed)
    (snapshot : commander.membership = world.membershipOf commander.id)
    (joined : world.players.contains commander.id = true) (experience : Int) :
    world.AdmitsAll ((effects.rewarded experience).allWrites now) := by
  rw [Effects.allWrites, Effects.rewarded_writes]
  refine (deed.admitted rostered filed snapshot).append (.cons ?_ (.free fun change line _ => ?_))
  · change (World.writtenAll _ _).players.contains _ = true
    rw [deed.players, Effects.rewarded_player, Rank.award_id, deed.commander_id]
    exact joined
  · have logs := Effects.logWrites_onlyLogs _ now change line
    cases change with
    | insertLog | pruneLogs => trivial
    | _ => cases logs

end Deed

namespace Storage

variable {world : World}

/-- An admitted write to storage without a limit is carried out; an idle one
changes nothing anyway. -/
theorem write_admitted {change : Write} (admits : world.Admits change) :
    write change (ofWorld world) = (.ok (), ofWorld (world.written change)) := by
  unfold write
  split
  · next idle =>
    cases change with
    | pruneLogs player keep =>
      have none : world.excessLogs player keep = 0 := by simpa [isIdle, ofWorld] using idle
      rw [World.written, none, World.dropOldest]
    | _ => cases idle
  · simp only [ofWorld, spend, World.apply_admitted admits]

/-- Admitted writes to storage without a limit are all carried out. -/
theorem writeAll_admitted {changes : List Write} (admitted : world.AdmitsAll changes) :
    Store.writeAll changes (ofWorld world) = (.ok (), ofWorld (world.writtenAll changes)) := by
  induction admitted with
  | nil => rfl
  | @cons world change rest admits _ ih =>
    have carried : Store.write change (ofWorld world) = (.ok (), ofWorld (world.written change)) :=
      write_admitted admits
    simp only [Store.writeAll, carried]
    exact ih

end Storage

end Starlane
