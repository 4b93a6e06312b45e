import Starlane.Proofs.Reach
import Starlane.Proofs.Ruling

/-!
# Discovered sectors exist

A player discovers the sectors that they are in after a scan or a move, and no
command leaves them in a sector that does not exist. As long as nobody is put
into one by hand, only sectors that exist are ever discovered.
-/

namespace Starlane

/-- A deed discovers the sector that its commander is in afterwards, or none. -/
theorem Deed.discovers {look : Lookup} {now : Int} {commander : Commander} {command : Command}
    {effects : Effects} (deed : Deed look now commander command effects) {explorer : PlayerId}
    {sector : SectorId} (member : .discover explorer sector ∈ effects.writes) :
    sector = effects.commander.sector := by
  have part := deed.parts _ member
  cases deed with
  | scannedVoid | scannedPort =>
    rcases List.mem_cons.mp member with same | renewed
    · exact (Write.discover.inj same).2
    · cases List.mem_singleton.mp renewed
  | moved =>
    rw [Plan.arrival_eq] at member ⊢
    rcases List.mem_cons.mp member with same | struck
    · exact (Write.discover.inj same).2
    · cases Plan.change_part struck
  | informed => cases member
  | _ => simp [Command.parts, Write.part] at part

namespace World

variable {world after : World}

/-- What is known after some writes was known before or is discovered by one of
them. -/
theorem discovered_writtenAll {changes : List Write} {player : PlayerId} {sector : SectorId}
    (known : (world.writtenAll changes).discoveries.contains (player, sector) = true) :
    world.discoveries.contains (player, sector) = true ∨ .discover player sector ∈ changes := by
  induction changes generalizing world with
  | nil => exact .inl known
  | cons change rest ih =>
    rcases ih known with earlier | later
    · cases change with
      | discover explorer there =>
        rcases Table.contains_insert.mp earlier with same | before
        · cases same
          exact .inr (.head _)
        · exact .inl before
      | _ => exact .inl earlier
    · exact .inr (.tail _ later)

/-- The reachable worlds in which players were only ever put into sectors that
exist, and shown no others. One put by hand into a sector that does not exist
could leave it along a warp, and would know a sector that nobody can enter. -/
inductive Inhabited : World → Prop
  | empty : Inhabited World.empty
  | lay {world after : World} (before : Inhabited world) (seeded : world.Seeded after)
      (same : after.discoveries = world.discoveries) : Inhabited after
  | place {world : World} {player : Player} (before : Inhabited world)
      (there : world.sectors.contains player.sector = true) : Inhabited (world.addPlayer player)
  | step {settings : Settings} {world after : World} {what : Occurrence}
      (before : Inhabited world) (step : Step settings world what after) : Inhabited after

theorem Inhabited.reachable (inhabited : world.Inhabited) : world.Reachable := by
  induction inhabited with
  | empty => exact .empty
  | lay _ seeded _ ih => exact .seed ih seeded
  | place _ _ ih => exact .seed ih (.player _)
  | step _ step ih => exact .step ih step

/-- Whether only sectors that exist are discovered. -/
def Explored (world : World) : Prop :=
  ∀ player sector, world.discoveries.contains (player, sector) = true →
    world.sectors.contains sector = true

/-- Nothing that is laid out removes a sector. -/
theorem Seeded.sectors (seeded : world.Seeded after) {sector : SectorId}
    (exist : world.sectors.contains sector = true) : after.sectors.contains sector = true := by
  cases seeded with
  | sector => exact Table.contains_insert.mpr (.inr exist)
  | protectorate =>
    unfold Table.contains protect Table.modify
    rw [Table.get?_mapValues, Option.isSome_map]
    exact exist
  | layout layout =>
    exact (Table.contains_insertAll layout.sectors (·.id) fun sector => sector).mpr (.inr exist)
  | _ => exact exist

/-- To discover a sector that exists leaves only such sectors discovered. -/
theorem Explored.visit (explored : world.Explored) {player : PlayerId} {here : SectorId}
    (exist : world.sectors.contains here = true) (sectors : after.sectors = world.sectors)
    (discoveries : after.discoveries = world.discoveries.insert (player, here) ()) :
    after.Explored := by
  intro explorer sector known
  rw [discoveries] at known
  rw [sectors]
  rcases Table.contains_insert.mp known with same | before
  · cases same
    exact exist
  · exact explored explorer sector before

/-- An accepted command discovers a sector that exists, or none. -/
theorem Explored.accepted {settings : Settings} {now : Int} {player : PlayerId}
    {command : Command} {row : Player} {effects : Effects} {response : Response}
    (explored : world.Explored)
    (accepted : Accepted settings now player command world row effects response after) :
    after.Explored := by
  intro explorer sector known
  rw [accepted.committed] at known
  have sectors : after.sectors = world.sectors := by
    rw [accepted.committed]
    exact (world.writtenAll_map _).1
  rcases discovered_writtenAll known with before | discovered
  · rw [sectors]
    exact explored explorer sector before
  · -- The response shows the sector that the commander is in.
    have here : after.sectors.contains effects.commander.sector = true := by
      have answered := accepted.responded
      refine Decidable.byContradiction fun absent => ?_
      rw [respond_missing] at answered
      · cases answered
      · rw [Effects.rewarded_player, Rank.award_frame]
        exact absent
    rcases Effects.mem_allWrites discovered with written | same | ⟨_, same⟩ | same
    · rw [accepted.deed.discovers written]
      exact here
    · cases same
    · cases same
    · cases same

theorem Explored.step {settings : Settings} {what : Occurrence} (explored : world.Explored)
    (step : Step settings world what after) : after.Explored := by
  cases step with
  | @join now id username =>
    obtain ⟨seasons, same | ⟨start, season, known, same⟩⟩ :=
      world.join_cases settings now id username
    · rw [same]
      exact explored
    · rw [same]
      exact explored.visit (Table.mem_keys_iff.mp known) rfl rfl
  | @command now player request answer final executed =>
    rcases Storage.execute_cases executed with ⟨_, _, rfl⟩ | ⟨_, row, later, _, rfl, refused⟩ |
      ⟨_, row, effects, later, _, rfl, accepted⟩
    · exact explored
    · change later.Explored
      rw [refused.committed]
      exact explored
    · exact explored.accepted accepted
  | portTick | planetTick => exact explored
  | @protectorateTick γ _ dice =>
    intro player sector known
    exact (Table.contains_insertAll (Protectorate.muster dice world.sectors.values).1 (·.id)
      fun sector => sector).mpr (.inr (explored player sector known))
  | @eventTick γ _ now dice =>
    obtain ⟨_, _, _, same⟩ := world.eventTick_frame now dice
    rw [same]
    exact explored

/-- In inhabited worlds only sectors that exist are discovered. -/
theorem Inhabited.explored (inhabited : world.Inhabited) : world.Explored := by
  induction inhabited with
  | empty =>
    intro player sector known
    cases known
  | lay _ seeded same ih =>
    intro player sector known
    rw [same] at known
    exact seeded.sectors (ih player sector known)
  | place _ there ih => exact ih.visit there rfl rfl
  | step _ step ih => exact ih.step step

/-- Worlds founded on checked universes are inhabited. -/
theorem Founded.inhabited {joined : List PlayerId} (founded : Founded joined world) :
    world.Inhabited := by
  induction founded with
  | empty => exact .empty
  | layout _ _ ih => exact .lay ih (.layout _) rfl
  | join _ fresh success ih => exact .step ih (step_of_join fresh success)
  | step _ step ih => exact .step ih step

end World

end Starlane
