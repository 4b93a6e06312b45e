import Starlane.Proofs.Footprint
import Starlane.Proofs.History

/-!
# What holds of every player

The bounds on a player's credits, turns, cargo and upgrades are kept by each
deed, by the grant and the payment of turns and by the reward. Together with
the step a run takes they hold at every stage, and along a run neither
experience nor level ever falls.
-/

namespace Starlane

/-- The number of units, without a limit. -/
def Goods.units (goods : Goods Nat) : Nat :=
  goods.ore + goods.organics + goods.equipment

namespace Goods

theorem units_set (goods : Goods Nat) (c : Commodity) (value : Nat) :
    (goods.set c value).units + goods.get c = goods.units + value := by
  cases c <;> simp only [set, get, units] <;> omega

/-- The number that counters show is the true one, as far as it goes. -/
theorem total_eq_min (goods : Goods Nat) : goods.total = min goods.units counterMax := by
  unfold total addCapped units
  omega

end Goods

/-- A unit costs at least one credit. -/
theorem Price.unit_pos (basePrice baseQty qty : Int) : 1 ≤ unit basePrice baseQty qty := by
  unfold unit
  dsimp only
  split
  · exact Int.le_max_right _ _
  · exact Int.le_max_right _ _

theorem Price.ofStock_nonneg (stock : Stock) (c : Commodity) (event : Option Event) :
    0 ≤ ofStock stock c event :=
  Int.le_of_lt (unit_pos _ _ _)

/-- Raiders take at most what there is. -/
theorem Plan.toll_le (event : Option Event) (credits : Int) :
    toll event credits ≤ max credits 0 := by
  unfold toll
  split
  · split
    · exact Int.min_le_right _ _
    · exact Int.le_max_right _ _
  · exact Int.le_max_right _ _

/-- Whether a command changes the hull. -/
def Command.refits : Command → Bool
  | shipyard (.buy _) | shipyard .sell => true
  | _ => false

/-- What holds of a player: the bounds, the capacities that hull and upgrades
give, and the level of the experience. A player who never changed ships has the
capacities of the settings. -/
structure Player.Sound (settings : Settings) (refitted : Bool) (player : Player) : Prop where
  credits : 0 ≤ player.credits
  turns : player.turns ≤ player.turnsMax
  cargo : player.cargo.units ≤ player.cargoMax
  cargoUpgrades : player.cargoUpgrades ≤ 20
  turnUpgrades : player.turnUpgrades ≤ 10
  cargoMax : player.cargoMax =
    (if refitted then player.ship.cargoMax else settings.startCargoMax) +
      5 * player.cargoUpgrades
  turnsMax : player.turnsMax =
    (if refitted then player.ship.turnsMax else settings.startTurnsMax) +
      10 * player.turnUpgrades
  level : player.level = Rank.levelFor player.xp
  xp : player.xp ≤ amountMax

namespace Player.Sound

variable {settings : Settings} {refitted : Bool} {player : Player}

/-- Free space is what the capacity leaves, if the capacity fits on a
counter. -/
theorem free (sound : player.Sound settings refitted) (fits : player.cargoMax ≤ counterMax) :
    player.freeCargo + player.cargo.units = player.cargoMax := by
  have cargo := sound.cargo
  unfold freeCargo
  rw [Goods.total_eq_min]
  omega

/-- A grant of turns stops at the capacity. -/
theorem regenerate (sound : player.Sound settings refitted) (interval now : Int) :
    (player.regenerate interval now).1.Sound settings refitted := by
  unfold Player.regenerate
  dsimp only
  split
  · exact { sound with }
  · split
    · exact sound
    · exact { sound with turns := Nat.min_le_right _ _ }

/-- A reward keeps the level in step and moves nothing back. -/
theorem award (sound : player.Sound settings refitted) (experience : Int) :
    (Rank.award experience player).1.Sound settings refitted ∧
      player.xp ≤ (Rank.award experience player).1.xp ∧
      player.level ≤ (Rank.award experience player).1.level := by
  have level := Rank.award_level experience player sound.level
  obtain ⟨grown, bounded⟩ := Rank.award_xp experience player sound.xp
  refine ⟨?_, grown, ?_⟩
  · rw [Rank.award_frame]
    exact { sound with level := level, xp := bounded }
  · rw [level, sound.level]
    exact Rank.levelFor_mono grown

/-- A new hull has the capacities of the catalogue, if it takes the cargo. -/
theorem refit (sound : player.Sound settings refitted) (ship : Ship)
    (roomy : player.cargo.total ≤ ship.cargoMax) :
    (Plan.refit player ship).Sound settings true where
  credits := sound.credits
  turns := Nat.min_le_right _ _
  cargo := by
    have small : ship.cargoMax < counterMax := by cases ship <;> decide
    rw [Goods.total_eq_min] at roomy
    change player.cargo.units ≤ ship.cargoMax
    omega
  cargoUpgrades := Nat.zero_le _
  turnUpgrades := Nat.zero_le _
  cargoMax := rfl
  turnsMax := rfl
  level := sound.level
  xp := sound.xp

end Player.Sound

theorem Command.informs_unrefitted {command : Command} (informs : command.informs = true) :
    command.refits = false := by
  unfold refits
  split
  · cases informs
  · cases informs
  · rfl

namespace Deed

variable {look : Lookup} {now : Int} {commander : Commander} {command : Command}
  {effects : Effects} {settings : Settings} {refitted : Bool}

/-- What holds of the commander before a deed holds after it; a new hull sets
the capacities anew. -/
theorem sound (deed : Deed look now commander command effects)
    (before : commander.toPlayer.Sound settings refitted)
    (fits : commander.cargoMax ≤ counterMax) :
    effects.commander.toPlayer.Sound settings (command.refits || refitted) := by
  have free := before.free fits
  have credits := before.credits
  have cargo := before.cargo
  cases deed with
  | informed informs =>
    rw [Command.informs_unrefitted informs]
    exact before
  | scannedVoid | scannedPort | announced | incorporated | enlisted | resigned | foundClear
  | swept => exact before
  | @moved target there event =>
    rw [Plan.arrival_eq]
    have toll := Plan.toll_le event commander.credits
    have damage : Plan.repairs look commander there event ≤
        max (commander.credits - Plan.toll event commander.credits) 0 := Int.min_le_right _ _
    exact { before with credits := by dsimp only; omega }
  | @bought c _ qty _ _ _ _ _ _ _ _ roomy funded =>
    have set := commander.cargo.units_set c (commander.cargo.get c + qty)
    exact { before with
      credits := by dsimp only [Effects.logged]; omega
      cargo := by dsimp only [Effects.logged]; omega }
  | @sold c _ qty port event _ _ _ _ _ carried =>
    have set := commander.cargo.units_set c (commander.cargo.get c - qty)
    have paid : 0 ≤ Price.ofStock (port.stock c) c event * qty :=
      Int.mul_nonneg (Price.ofStock_nonneg _ _ _) (Int.natCast_nonneg qty)
    exact { before with
      credits := by dsimp only [Effects.logged]; omega
      cargo := by dsimp only [Effects.logged]; omega }
  | @loaded c _ qty _ _ _ _ _ roomy =>
    have set := commander.cargo.units_set c (commander.cargo.get c + qty)
    exact { before with cargo := by dsimp only [Effects.logged]; omega }
  | @unloaded c _ qty _ _ _ _ _ carried =>
    have set := commander.cargo.units_set c (commander.cargo.get c - qty)
    exact { before with cargo := by dsimp only [Effects.logged]; omega }
  | @reinforced quantity | @mined quantity =>
    have set := commander.cargo.units_set .equipment
      (commander.cargo.equipment - quantity.toNat)
    have held : commander.cargo.get .equipment = commander.cargo.equipment := rfl
    exact { before with
      cargo := by
        change (commander.cargo.set .equipment _).units ≤ commander.cargoMax
        omega }
  | colonized _ _ _ funded | founded _ _ funded | fortified _ _ _ funded
  | deposited _ _ funded | withdrew _ _ funded =>
    exact { before with credits := by dsimp only [Effects.logged, Plan.withBank]; omega }
  -- The payment keeps the old capacities; the new hull replaces them afterwards.
  | @boughtShip _ ship _ _ _ _ _ _ funded roomy =>
    have paid : Player.Sound settings refitted
        { commander.toPlayer with credits := commander.credits - ship.price } :=
      { before with credits := by dsimp only; omega }
    exact paid.refit ship roomy
  | @soldShip _ _ _ _ _ roomy =>
    have resale : 0 ≤ commander.ship.resale := by cases commander.ship <;> decide
    have earned : Player.Sound settings refitted
        { commander.toPlayer with credits := commander.credits + commander.ship.resale } :=
      { before with credits := by dsimp only; omega }
    exact earned.refit .scout roomy
  | upgradedCargo _ _ unfinished funded =>
    have size := before.cargoMax
    exact { before with
      credits := by dsimp only [Effects.logged]; omega
      cargo := by dsimp only [Effects.logged]; omega
      cargoUpgrades := unfinished
      cargoMax := by
        change commander.cargoMax + 5 =
          (if refitted then commander.ship.cargoMax else settings.startCargoMax) +
            5 * (commander.cargoUpgrades + 1)
        omega }
  | upgradedTurns _ _ unfinished funded =>
    have size := before.turnsMax
    have turns := before.turns
    exact { before with
      credits := by dsimp only [Effects.logged]; omega
      turns := by dsimp only [Effects.logged]; omega
      turnUpgrades := unfinished
      turnsMax := by
        change commander.turnsMax + 10 =
          (if refitted then commander.ship.turnsMax else settings.startTurnsMax) +
            10 * (commander.turnUpgrades + 1)
        omega }

end Deed

/-- Whether a step changes the hull of a player. -/
def Occurrence.refits (player : PlayerId) : Occurrence → Bool
  | commanded other command true => other == player && command.refits
  | _ => false

/-- Whether a player ever bought or sold a ship in a run. -/
def refitted (player : PlayerId) (stages : List Stage) : Bool :=
  stages.any fun stage => stage.what.refits player

/-- Whether no player's cargo space exceeds a counter. -/
def World.FitsCounters (world : World) : Prop :=
  ∀ id row, world.players.get? id = some row → row.cargoMax ≤ counterMax

/-- What holds of all players after a list of steps; someone who has not joined
has not changed ships either. -/
structure World.PlayersSound (settings : Settings) (hulls : PlayerId → Bool) (world : World) :
    Prop where
  keyed : world.players.KeyedBy (·.id)
  sound : ∀ id row, world.players.get? id = some row → row.Sound settings (hulls id)
  absent : ∀ id, world.players.get? id = none → hulls id = false

/-- Whether every player of a world is still there in another one, with no less
experience and no lower level. -/
def World.Advances (before after : World) : Prop :=
  ∀ id row, before.players.get? id = some row → ∃ later, after.players.get? id = some later ∧
    row.xp ≤ later.xp ∧ row.level ≤ later.level

namespace World

variable {settings : Settings} {world after : World} {hulls : PlayerId → Bool}
  {what : Occurrence}

theorem Advances.refl (world : World) : world.Advances world :=
  fun _ row found => ⟨row, found, Int.le_refl _, Nat.le_refl _⟩

theorem Advances.trans {between : World} (first : world.Advances between)
    (second : between.Advances after) : world.Advances after := by
  intro id row found
  obtain ⟨middle, present, xp, level⟩ := first id row found
  obtain ⟨later, kept, moreXp, higher⟩ := second id middle present
  exact ⟨later, kept, Int.le_trans xp moreXp, Nat.le_trans level higher⟩

/-- A step that leaves the players alone. -/
theorem PlayersSound.idle (sound : world.PlayersSound settings hulls)
    (players : after.players = world.players) (still : ∀ id, what.refits id = false) :
    after.PlayersSound settings (fun id => what.refits id || hulls id) ∧ world.Advances after := by
  refine ⟨⟨?_, fun id row found => ?_, fun id gone => ?_⟩, fun id row found => ?_⟩
  · rw [players]
    exact sound.keyed
  · rw [players] at found
    rw [still, Bool.false_or]
    exact sound.sound id row found
  · rw [players] at gone
    rw [still, Bool.false_or]
    exact sound.absent id gone
  · exact ⟨row, players ▸ found, Int.le_refl _, Nat.le_refl _⟩

/-- A step that sets the row of one player, who does not fall back. -/
theorem PlayersSound.update (sound : world.PlayersSound settings hulls) {player : PlayerId}
    {row : Player} (players : after.players = world.players.insert player row)
    (own : row.id = player) (others : ∀ other, other ≠ player → what.refits other = false)
    (updated : row.Sound settings (what.refits player || hulls player))
    (advanced : ∀ before, world.players.get? player = some before →
      before.xp ≤ row.xp ∧ before.level ≤ row.level) :
    after.PlayersSound settings (fun id => what.refits id || hulls id) ∧ world.Advances after := by
  refine ⟨⟨?_, fun id found present => ?_, fun id gone => ?_⟩, fun id before found => ?_⟩
  · rw [players]
    exact sound.keyed.insert own
  · rw [players, Table.get?_insert] at present
    split at present
    · next same => cases present; rw [same]; exact updated
    · next different =>
      rw [others id different, Bool.false_or]
      exact sound.sound id found present
  · rw [players, Table.get?_insert] at gone
    split at gone
    · cases gone
    · next different =>
      rw [others id different, Bool.false_or]
      exact sound.absent id gone
  · rw [players]
    by_cases same : id = player
    · rw [same] at found ⊢
      exact ⟨row, Table.get?_insert_self _ _ _, advanced before found⟩
    · exact ⟨before, (Table.get?_insert_of_ne _ _ same).trans found, Int.le_refl _, Nat.le_refl _⟩

end World

/-- A new player of settings within their bounds is sound. -/
theorem Settings.newPlayer_sound {document : String} {settings : Settings}
    (configured : Settings.read? document = some settings) (id : PlayerId) (username : String)
    (start : SectorId) (season : Season) (now : Int) :
    (settings.newPlayer id username start season now).Sound settings false := by
  obtain ⟨raw, _, rfl⟩ := Option.map_eq_some_iff.mp configured
  exact
    { credits := Int.le_max_right _ _
      turns := Nat.min_le_right _ _
      cargo := Nat.zero_le _
      cargoUpgrades := Nat.zero_le _
      turnUpgrades := Nat.zero_le _
      cargoMax := rfl
      turnsMax := rfl
      level := rfl
      xp := by
        change (0 : Int) ≤ amountMax
        decide }

/-- A sound player is sound as the commander who has paid for a command. -/
theorem Player.Sound.paidBy {settings : Settings} {hull : Bool} {row : Player}
    (sound : row.Sound settings hull) (command : Command) (world : World) (now : Int)
    (player : PlayerId) :
    (command.paidBy (world.present settings now player row)).toPlayer.Sound settings hull :=
  have granted := sound.regenerate settings.turnRegenSeconds now
  { granted with turns := Nat.le_trans (Nat.sub_le _ _) granted.turns }

/-- An accepted request saves a sound row, which is no step back. -/
theorem Accepted.sound {settings : Settings} {now : Int} {player : PlayerId} {command : Command}
    {world after : World} {row : Player} {effects : Effects} {response : Response} {hull : Bool}
    (accepted : Accepted settings now player command world row effects response after)
    (own : row.id = player) (before : row.Sound settings hull)
    (fits : row.cargoMax ≤ counterMax) :
    ∃ saved : Player, after.players = world.players.insert player saved ∧ saved.id = player ∧
      saved.Sound settings (command.refits || hull) ∧
      row.xp ≤ saved.xp ∧ row.level ≤ saved.level := by
  obtain ⟨experience, logs, same⟩ := accepted.state own
  obtain ⟨turns, stamp, paid⟩ := command.paidBy_frame world settings now player row
  have payer := before.paidBy command world now player
  have deed := accepted.deed
  rw [paid] at payer deed
  have id : effects.commander.id = player := deed.commander_id.trans own
  obtain ⟨xp, level⟩ := deed.commander_rank
  obtain ⟨sound, moreXp, higher⟩ := (deed.sound payer fits).award experience
  rw [xp] at moreXp
  rw [level] at higher
  refine ⟨_, by rw [same], ?_, sound, moreXp, higher⟩
  rw [Rank.award_id, id]

theorem World.join_players (world : World) (settings : Settings) (now : Int) (id : PlayerId)
    (username : String) :
    (world.join settings now id username).2.players = world.players ∨
      ∃ start season, (world.join settings now id username).2.players =
        world.players.insert id (settings.newPlayer id username start season now) := by
  obtain ⟨seasons, same | ⟨start, season, _, same⟩⟩ :=
    world.join_cases settings now id username
  · rw [same]
    exact .inl rfl
  · rw [same]
    exact .inr ⟨start, season, rfl⟩

theorem World.eventTick_players {γ : Type} [Chance.Dice γ] (world : World) (now : Int) (dice : γ) :
    (world.eventTick now dice).1.players = world.players := by
  obtain ⟨_, _, _, same⟩ := world.eventTick_frame now dice
  rw [same]

/-- One step keeps all players sound and lets none fall back. -/
theorem Step.players_sound {document : String} {settings : Settings} {world after : World}
    {what : Occurrence} {hulls : PlayerId → Bool}
    (configured : Settings.read? document = some settings)
    (step : Step settings world what after) (sound : world.PlayersSound settings hulls)
    (fits : world.FitsCounters) :
    after.PlayersSound settings (fun id => what.refits id || hulls id) ∧
      world.Advances after := by
  cases step with
  | @join now id username fresh =>
    rcases world.join_players settings now id username with players | ⟨start, season, players⟩
    · exact sound.idle players fun _ => rfl
    · refine sound.update players rfl (fun _ _ => rfl) ?_ fun before found => ?_
      · rw [sound.absent id fresh]
        exact Settings.newPlayer_sound configured id username start season now
      · rw [fresh] at found
        cases found
  | @command now player request answer final executed =>
    rcases Storage.execute_cases executed with ⟨failure, rfl, rfl⟩ |
      ⟨response, row, later, rfl, rfl, refused⟩ |
      ⟨response, row, effects, later, rfl, rfl, accepted⟩
    · exact sound.idle rfl fun _ => rfl
    · have own : row.id = player := sound.keyed player row refused.found
      have before := sound.sound player row refused.found
      have verdict : wasAccepted (.ok response) = false := refused.refusal
      rw [verdict]
      obtain ⟨xp, level⟩ := Player.regenerate_rank settings.turnRegenSeconds now row
      refine sound.update ?_ ((Player.regenerate_id _ _ _).trans own) (fun _ _ => rfl)
        (before.regenerate settings.turnRegenSeconds now) fun earlier found => ?_
      · change World.players later = _
        rw [refused.committed, World.written_players]
        dsimp only
        rw [Player.regenerate_id, own]
      · rw [refused.found] at found
        cases found
        rw [xp, level]
        exact ⟨Int.le_refl _, Nat.le_refl _⟩
    -- The row that is saved is the one at the player's own key, so nobody else's changes.
    · have own : row.id = player := sound.keyed player row accepted.found
      obtain ⟨saved, players, id, safe, advanced⟩ := accepted.sound own
        (sound.sound player row accepted.found) (fits player row accepted.found)
      have verdict : wasAccepted (.ok response) = true := accepted.accepted
      rw [verdict]
      refine sound.update players id (fun other different => ?_) ?_ fun earlier found => ?_
      · rw [Occurrence.refits, beq_false_of_ne (Ne.symm different), Bool.false_and]
      · rw [Occurrence.refits, beq_self_eq_true, Bool.true_and]
        exact safe
      · rw [accepted.found] at found
        cases found
        exact advanced
  | portTick | planetTick | protectorateTick => exact sound.idle rfl fun _ => rfl
  | eventTick => exact sound.idle (world.eventTick_players _ _) fun _ => rfl

/-- Nobody has joined a universe that has just been laid out. -/
theorem World.players_sound_laid_out (settings : Settings) (layout : Universe) :
    (World.empty.addUniverse layout).PlayersSound settings fun _ => false where
  keyed := fun _ _ found => nomatch found
  sound := fun _ _ found => nomatch found
  absent := fun _ _ => rfl

theorem World.fits_laid_out (layout : Universe) : (World.empty.addUniverse layout).FitsCounters :=
  fun _ _ found => nomatch found

/-- The hulls of a run are those of its stages so far and of its last step. -/
theorem refitted_append (stages : List Stage) (what : Occurrence) (world : World) :
    (fun id => refitted id (stages ++ [⟨what, world⟩])) =
      fun id => what.refits id || refitted id stages := by
  funext id
  unfold refitted
  rw [List.any_append, List.any_cons, List.any_nil, Bool.or_false, Bool.or_comm]

/-- Along a run all players stay sound, and nobody has fallen back since any of
its stages. -/
theorem Run.players_sound {document : String} {settings : Settings} {layout : Universe}
    {stages : List Stage} {world : World} (configured : Settings.read? document = some settings)
    (run : Run settings (World.empty.addUniverse layout) stages world)
    (fits : ∀ stage ∈ stages, stage.world.FitsCounters) :
    world.PlayersSound settings (fun id => refitted id stages) ∧ world.FitsCounters ∧
      ∀ stage ∈ stages, stage.world.Advances world := by
  induction run with
  | start =>
    refine ⟨World.players_sound_laid_out settings layout, World.fits_laid_out layout, ?_⟩
    intro stage member
    cases member
  | @step stages world after what run step ih =>
    obtain ⟨sound, fitted, advances⟩ :=
      ih fun stage earlier => fits stage (List.mem_append_left _ earlier)
    obtain ⟨kept, advanced⟩ := step.players_sound configured sound fitted
    refine ⟨?_, fits ⟨what, after⟩ (List.mem_append_right _ (List.mem_singleton.mpr rfl)), ?_⟩
    · rw [refitted_append]
      exact kept
    · intro stage member
      rcases List.mem_append.mp member with earlier | last
      · exact (advances stage earlier).trans advanced
      · rw [List.mem_singleton.mp last]
        exact .refl after

/-- In every run of a configured game in which cargo space fits counters, every
player is sound after every step, and has at least the experience and the level
of every step before. -/
theorem players_stay_sound {document : String} {settings : Settings} {layout : Universe}
    {stages : List Stage} {world : World} (configured : Settings.read? document = some settings)
    (run : Run settings (World.empty.addUniverse layout) stages world)
    (fits : ∀ stage ∈ stages, stage.world.FitsCounters) :
    ∀ earlier stage later, stages = earlier ++ stage :: later →
      (∀ id row, stage.world.players.get? id = some row →
        row.id = id ∧ row.Sound settings (refitted id (earlier ++ [stage]))) ∧
      ∀ before ∈ earlier, before.world.Advances stage.world := by
  intro earlier stage later parts
  have reached := run.upTo parts
  have within : ∀ member ∈ earlier ++ [stage], member ∈ stages := by
    intro member listed
    rw [parts, ← List.singleton_append, ← List.append_assoc]
    exact List.mem_append_left _ listed
  obtain ⟨sound, _, advances⟩ :=
    reached.players_sound configured fun member listed => fits member (within member listed)
  refine ⟨fun id row found => ?_, fun before listed => ?_⟩
  · exact ⟨sound.keyed id row found, sound.sound id row found⟩
  · exact advances before (List.mem_append_left _ listed)

/-- Cargo space fits counters if that of each row of the table does. -/
theorem World.FitsCounters.of_entries {world : World}
    (small : ∀ entry ∈ world.players.entries, entry.2.cargoMax ≤ counterMax) :
    world.FitsCounters :=
  fun id row found => small (id, row) ((Table.mem_entries_iff _ _ _).mpr found)

/-- Settings with enough credits for a ship. -/
def Drill.wealthy : Settings :=
  { Settings.standard with startCredits := 50000 }

/-- A pilot at the drill's first sector, of the wealthy settings. -/
def Drill.enrolled : World :=
  ((World.empty.addUniverse layout).join wealthy startTime 7 "ada").2

/-- Somebody who joins and buys a ship is sound with the capacities of the new
hull. -/
theorem players_stay_sound_new_ship :
    ∃ response after,
      Storage.execute Drill.wealthy 1000130 7 (Drill.namedRequest "SHIPYARD" "BUY" "TRADER")
        (.ofWorld Drill.enrolled) = (.ok response, after) ∧
      response.ok = true ∧
      ∃ row, after.world.players.get? 7 = some row ∧ row.Sound Drill.wealthy true ∧
        Drill.enrolled.Advances after.world := by
  have configured : Settings.read? "\x7b\"start_credits\": 50000\x7d" = some Drill.wealthy := by
    decide +kernel
  have renewed : (Command.ofRequest (Drill.namedRequest "SHIPYARD" "BUY" "TRADER")).refits =
      true := by decide +kernel
  obtain ⟨response, after, executed, accepted⟩ := Storage.execute_answered
    (show (Storage.execute Drill.wealthy 1000130 7
      (Drill.namedRequest "SHIPYARD" "BUY" "TRADER") (.ofWorld Drill.enrolled)).1.toOption.map
        Response.ok = some true by decide +kernel)
  have small : Drill.enrolled.FitsCounters := .of_entries (by decide +kernel)
  have fits : after.world.FitsCounters := by
    have roomy : ∀ entry ∈ (Storage.execute Drill.wealthy 1000130 7
        (Drill.namedRequest "SHIPYARD" "BUY" "TRADER")
        (.ofWorld Drill.enrolled)).2.world.players.entries, entry.2.cargoMax ≤ counterMax := by
      decide +kernel
    rw [executed] at roomy
    exact .of_entries roomy
  have run : Run Drill.wealthy (World.empty.addUniverse Drill.layout)
      [⟨.joined 7, Drill.enrolled⟩,
        ⟨.commanded 7 (.ofRequest (Drill.namedRequest "SHIPYARD" "BUY" "TRADER"))
          (wasAccepted (.ok response)), after.world⟩] after.world :=
    .step (.step .start (.join rfl)) (.command executed)
  obtain ⟨sound, advances⟩ := players_stay_sound configured run (fun stage member => by
    rcases List.mem_pair.mp member with rfl | rfl
    · exact small
    · exact fits) [⟨.joined 7, Drill.enrolled⟩] _ [] rfl
  have advanced : Drill.enrolled.Advances after.world := advances _ (List.mem_cons_self ..)
  obtain ⟨before, found⟩ := Option.isSome_iff_exists.mp
    (show (Drill.enrolled.players.get? 7).isSome by decide +kernel)
  obtain ⟨row, kept, _⟩ := advanced 7 before found
  refine ⟨response, after, executed, accepted, row, kept, ?_, advanced⟩
  have safe := (sound 7 row kept).2
  have hulls : refitted 7 ([⟨.joined 7, Drill.enrolled⟩] ++
      [⟨.commanded 7 (.ofRequest (Drill.namedRequest "SHIPYARD" "BUY" "TRADER"))
        (wasAccepted (.ok response)), after.world⟩]) = true := by
    simp [refitted, Occurrence.refits, wasAccepted, accepted, renewed]
  rw [hulls] at safe
  exact safe

end Starlane
