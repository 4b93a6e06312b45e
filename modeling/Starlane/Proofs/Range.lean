import Starlane.Overflow
import Starlane.Proofs.PlayerInvariant
import Starlane.Proofs.Roster

/-!
# Sums within range

The sums of trades, banks and the shipyard end the program where they overflow.
Capacities grow by upgrades only, of which a hull takes a fixed number, so they
stay in range if those of the settings leave room for all of them; settings need
not, and then an upgrade can overflow. Credits are bounded by the credits of the
whole world, since neither a player nor a bank ever has less than nothing.
-/

namespace Starlane

/-- Whether the capacities that the settings give a new player leave room for
all upgrades. -/
structure Settings.LeavesRoom (settings : Settings) : Prop where
  cargo : settings.startCargoMax + cargoUpgradesMax * cargoPerUpgrade ≤ counterMax
  turns : settings.startTurnsMax + turnUpgradesMax * turnsPerUpgrade ≤ counterMax

/-- Whether the credits, the capacities and the banks of a world are values of
their types. -/
structure World.InRange (world : World) : Prop where
  players : ∀ id row, world.players.get? id = some row → row.fits = true
  banks : ∀ id corp, world.corps.get? id = some corp → fitsAmount corp.bank = true

theorem fitsAmount_of_nonneg {x : Int} (nonneg : 0 ≤ x) (funds : x ≤ amountMax) :
    fitsAmount x = true :=
  decide_eq_true ⟨Int.le_trans (by decide) nonneg, funds⟩

theorem Player.fits_iff {player : Player} :
    player.fits = true ↔ fitsAmount player.credits = true ∧
      fitsCounter player.cargoMax = true ∧ fitsCounter player.turnsMax = true := by
  rw [fits, Bool.and_eq_true, Bool.and_eq_true, and_assoc]

namespace Player.Sound

variable {settings : Settings} {refitted : Bool} {player : Player}

/-- No number of upgrades takes a capacity out of range. -/
theorem capacities (sound : player.Sound settings refitted) (room : settings.LeavesRoom) :
    player.cargoMax ≤ counterMax ∧ player.turnsMax ≤ counterMax := by
  obtain ⟨cargo, turns⟩ := room
  have hull : player.ship.cargoMax ≤ 90 ∧ player.ship.turnsMax ≤ 140 := by
    cases player.ship <;> decide
  have cargoUpgrades := sound.cargoUpgrades
  have turnUpgrades := sound.turnUpgrades
  rw [sound.cargoMax, sound.turnsMax]
  simp only [cargoUpgradesMax, cargoPerUpgrade, turnUpgradesMax, turnsPerUpgrade, counterMax]
    at cargo turns ⊢
  constructor <;> split <;> omega

theorem fits (sound : player.Sound settings refitted) (room : settings.LeavesRoom)
    (funds : player.credits ≤ amountMax) : player.fits = true := by
  obtain ⟨cargo, turns⟩ := sound.capacities room
  simp only [Player.fits, fitsAmount_of_nonneg sound.credits funds, fitsCounter, cargo, turns,
    decide_true, Bool.and_true]

end Player.Sound

theorem World.PlayersSound.fitsCounters {settings : Settings} {hulls : PlayerId → Bool}
    {world : World} (sound : world.PlayersSound settings hulls) (room : settings.LeavesRoom) :
    world.FitsCounters :=
  fun id row found => ((sound.sound id row found).capacities room).1

/-- With room for all upgrades, cargo space fits counters at every stage of a
run. -/
theorem Run.fitsCounters {document : String} {settings : Settings} {layout : Universe}
    {stages : List Stage} {world : World} (configured : Settings.read? document = some settings)
    (room : settings.LeavesRoom)
    (run : Run settings (World.empty.addUniverse layout) stages world) :
    ∀ stage ∈ stages, stage.world.FitsCounters := by
  induction run with
  | start => exact fun _ listed => nomatch listed
  | @step stages world after what run step ih =>
    intro stage listed
    rcases List.mem_append.mp listed with earlier | last
    · exact ih stage earlier
    · obtain ⟨sound, fitted, _⟩ := run.players_sound configured ih
      rw [List.mem_singleton.mp last]
      exact (step.players_sound configured sound fitted).1.fitsCounters room

/-! ## Shares of the ledger -/

namespace World

variable {settings : Settings} {hulls : PlayerId → Bool} {world : World}

theorem Rostered.banks_nonneg (rostered : world.Rostered) : 0 ≤ world.corps.total (·.bank) :=
  Table.total_nonneg rostered.funded

theorem Rostered.bank_le (rostered : world.Rostered) {id : CorpId} {corp : Corporation}
    (found : world.corps.get? id = some corp) : corp.bank ≤ world.corps.total (·.bank) :=
  Table.share_of_get? (·.bank) found ▸ Table.share_le_total rostered.funded id

theorem PlayersSound.purses_nonneg (sound : world.PlayersSound settings hulls) :
    0 ≤ world.players.total (·.credits) :=
  Table.total_nonneg fun id row found => (sound.sound id row found).credits

/-- A player has at most what the banks leave of the ledger. -/
theorem PlayersSound.credits_le (sound : world.PlayersSound settings hulls) {id : PlayerId}
    {row : Player} (found : world.players.get? id = some row) :
    row.credits + world.corps.total (·.bank) ≤ world.ledger := by
  have share : row.credits ≤ world.players.total (·.credits) :=
    Table.share_of_get? (·.credits) found ▸
      Table.share_le_total (fun id row found => (sound.sound id row found).credits) id
  unfold ledger
  omega

/-- A world whose ledger is an amount is in range throughout. -/
theorem PlayersSound.inRange (sound : world.PlayersSound settings hulls)
    (rostered : world.Rostered) (room : settings.LeavesRoom) (funds : world.ledger ≤ amountMax) :
    world.InRange where
  players id row found := by
    have share := sound.credits_le found
    have banks := rostered.banks_nonneg
    exact (sound.sound id row found).fits room (by omega)
  banks id corp found := by
    have share := rostered.bank_le found
    have purses := sound.purses_nonneg
    refine fitsAmount_of_nonneg (rostered.funded id corp found) ?_
    unfold ledger at funds
    omega

/-- A grant and a payment of turns do not matter to what a command brings in. -/
theorem ledgerChange_paid (now : Int) (row : Player) (turns : Nat) (stamp : Option Int)
    (membership : Option Membership) (command : Command) :
    world.ledgerChange now { row with turns, regenStamp := stamp } membership command =
      world.ledgerChange now row membership command :=
  rfl

end World

/-! ## What a deed adds up -/

namespace Effects

/-- A reward adds up nothing that could overflow. -/
theorem rewarded_fits (effects : Effects) (experience : Int) :
    (effects.rewarded experience).fits = effects.fits := by
  rw [fits, fits, rewarded_player, rewarded_writes, Rank.award_frame]
  rfl

/-- Effects fit if the player and every saved bank do. -/
theorem fits_of_saved {effects : Effects} (player : effects.commander.toPlayer.fits = true)
    (banks : ∀ corp, .saveCorp corp ∈ effects.writes → fitsAmount corp.bank = true) :
    effects.fits = true := by
  refine Bool.and_eq_true_iff.mpr ⟨player, List.all_eq_true.mpr fun change listed => ?_⟩
  cases change with
  | saveCorp corp => exact banks corp listed
  | _ => rfl

end Effects

namespace Deed

variable {world : World} {now : Int} {commander : Commander} {command : Command}
  {effects : Effects} {settings : Settings} {refitted : Bool}

/-- A bank that a deed saves is there afterwards. -/
theorem saved_corp {look : Lookup} (deed : Deed look now commander command effects)
    {corp : Corporation} (saved : .saveCorp corp ∈ effects.writes) (world : World) :
    (world.writtenAll effects.writes).corps.get? corp.id = some corp := by
  have listed := deed.parts _ saved
  cases deed with
  | deposited | withdrew =>
    cases List.mem_singleton.mp saved
    exact Table.get?_insert_self _ _ _
  | enlisted => cases List.mem_singleton.mp saved
  | incorporated =>
    rcases List.mem_pair.mp saved with same | same <;> cases same
  | resigned =>
    rcases List.mem_append.mp saved with handed | saved
    · unfold Plan.handover at handed
      split at handed
      · cases List.mem_singleton.mp handed
      · cases handed
    · rcases List.mem_cons.mp saved with same | dissolved
      · cases same
      · unfold Plan.dissolution at dissolved
        split at dissolved
        · cases List.mem_singleton.mp dissolved
        · cases dissolved
  | announced =>
    rcases List.mem_cons.mp saved with same | delivered
    · cases same
    · cases Plan.delivery_part delivered
  | informed => cases saved
  | _ => simp [Write.part, Command.parts] at listed

/-- A deed of a sound commander adds up only what fits, if all credits together
are an amount afterwards. -/
theorem fits (deed : Deed world.lookup now commander command effects) (filed : world.Filed)
    (rostered : world.Rostered)
    (snapshot : commander.membership = world.membershipOf commander.id)
    (before : commander.toPlayer.Sound settings refitted) (room : settings.LeavesRoom)
    (funds : commander.credits + world.corps.total (·.bank) +
      world.ledgerChange now commander.toPlayer commander.membership command ≤ amountMax) :
    effects.fits = true := by
  have sound := deed.sound before (before.capacities room).1
  have banked := deed.rostered rostered filed snapshot
  have balance := deed.ledger filed snapshot
  have credits := sound.credits
  have banks := banked.banks_nonneg
  refine Effects.fits_of_saved (sound.fits room (by omega)) fun corp saved => ?_
  have found := deed.saved_corp saved world
  have share := banked.bank_le found
  exact fitsAmount_of_nonneg (banked.funded corp.id corp found) (by omega)

end Deed

/-- A request that overflows has been planned, and does not fit. -/
theorem Store.overflows_planned {σ : Type} [Store σ] {settings : Settings} {now : Int}
    {player : PlayerId} {request : Request} {store : σ}
    (overflowed : overflows settings now player request store = true) :
    ∃ loaded effects, (lookup store).commander player = .ok loaded ∧
      (Command.ofRequest request).outcome (lookup store) now
        (loaded.regenerate settings.turnRegenSeconds now) = .ok effects ∧
      effects.fits = false := by
  unfold overflows at overflowed
  dsimp only at overflowed
  split at overflowed
  · cases overflowed
  · next loaded loads =>
    split at overflowed
    · cases overflowed
    · next effects planned =>
      exact ⟨loaded, effects, loads, planned,
        by simpa using (Bool.and_eq_true_iff.mp overflowed).1⟩

/-! ## Overflows along runs -/

/-- In every run of a game whose settings leave room for all upgrades, no
capacity ever leaves the range of a counter, and a world whose ledger is an
amount is in range throughout. A request that overflows adds up more credits
than an amount can count: more than the ledger has with what the command brings
in. -/
theorem sums_stay_in_range {document : String} {settings : Settings} {layout : Universe}
    {stages : List Stage} {world : World} (configured : Settings.read? document = some settings)
    (room : settings.LeavesRoom)
    (run : Run settings (World.empty.addUniverse layout) stages world) :
    (∀ id row, world.players.get? id = some row →
      row.cargoMax ≤ counterMax ∧ row.turnsMax ≤ counterMax) ∧
    (world.ledger ≤ amountMax → world.InRange) ∧
    ∀ now player request,
      Store.overflows settings now player request (Storage.ofWorld world) = true →
      ∃ row, world.players.get? player = some row ∧
        amountMax < world.ledger +
          world.ledgerChange now row (world.membershipOf player) (.ofRequest request) := by
  obtain ⟨sound, _, _⟩ := run.players_sound configured (run.fitsCounters configured room)
  have reachable := run.reachable (.seed .empty (.layout layout))
  have filed := reachable.filed
  have rostered := reachable.rostered
  refine ⟨fun id row found => (sound.sound id row found).capacities room,
    sound.inRange rostered room, fun now player request overflowed => ?_⟩
  obtain ⟨loaded, effects, loads, planned, unfit⟩ := Store.overflows_planned overflowed
  obtain ⟨row, found, rfl⟩ := World.commander_success loads
  refine ⟨row, found, Int.not_le.mp fun funds => ?_⟩
  have own : row.id = player := filed.players player row found
  obtain ⟨_, _, done, deed, same⟩ := Command.outcome_success planned
  have deed : Deed world.lookup now
      ((Command.ofRequest request).paidBy (world.present settings now player row))
      (.ofRequest request) done := deed
  obtain ⟨turns, stamp, paid⟩ := (Command.ofRequest request).paidBy_frame world settings now
    player row
  have payer := (sound.sound player row found).paidBy (.ofRequest request) world now player
  rw [paid] at payer deed
  have share := sound.credits_le found
  have fits := deed.fits filed rostered (congrArg world.membershipOf own.symm) payer room (by
    rw [World.ledgerChange_paid]
    dsimp only
    omega)
  rw [same, Effects.rewarded_fits, fits] at unfit
  cases unfit

/-- Settings of ships with some cargo space, and credits for an upgrade. -/
def Drill.spacious (cargoMax : Nat) : Settings :=
  { Settings.standard with startCredits := 5000, startCargoMax := cargoMax }

/-- A pilot at the shipyard of the drill's first sector, with some cargo
space. -/
def Drill.berthed (cargoMax : Nat) : World :=
  ((World.empty.addUniverse layout).join (spacious cargoMax) startTime 7 "ada").2

/-- An upgrade of the largest cargo space that leaves room for all of them. -/
theorem sums_stay_in_range_upgrade :
    (Drill.berthed 4294967195).InRange ∧
      Store.overflows (Drill.spacious 4294967195) 1000000 7
        (Drill.namedRequest "SHIPYARD" "UPGRADE" "CARGO")
        (Storage.ofWorld (Drill.berthed 4294967195)) = false := by
  have configured : Settings.read?
      "\x7b\"start_credits\": 5000, \"start_cargo_max\": 4294967195\x7d" =
        some (Drill.spacious 4294967195) := by decide +kernel
  have run : Run (Drill.spacious 4294967195) (World.empty.addUniverse Drill.layout)
      [⟨.joined 7, Drill.berthed 4294967195⟩] (Drill.berthed 4294967195) :=
    .step .start (.join rfl)
  have funds : (Drill.berthed 4294967195).ledger = 5000 := by decide +kernel
  have order : Command.ofRequest (Drill.namedRequest "SHIPYARD" "UPGRADE" "CARGO") =
      .shipyard (.upgrade "CARGO") := by decide +kernel
  obtain ⟨_, inRange, overflow⟩ :=
    sums_stay_in_range configured ⟨by decide, by decide⟩ run
  refine ⟨inRange (by rw [funds]; decide), Bool.eq_false_iff.mpr fun overflowed => ?_⟩
  obtain ⟨row, _, beyond⟩ := overflow 1000000 7 _ overflowed
  rw [order, funds] at beyond
  simp only [World.ledgerChange, if_true, amountMax] at beyond
  omega

/-- Accepted settings may give new players the largest cargo space that a
counter can show. Then the first upgrade at a shipyard, which is paid for and
allowed, overflows: the exact sum is no counter. -/
theorem upgrade_overflows :
    Settings.read? "\x7b\"start_credits\": 5000, \"start_cargo_max\": 4294967295\x7d" =
      some (Drill.spacious 4294967295) ∧
    Drill.layout.validate = .ok Drill.layout ∧
    Run (Drill.spacious 4294967295) (World.empty.addUniverse Drill.layout)
      [⟨.joined 7, Drill.berthed 4294967295⟩] (Drill.berthed 4294967295) ∧
    Store.overflows (Drill.spacious 4294967295) 1000000 7
      (Drill.namedRequest "SHIPYARD" "UPGRADE" "CARGO")
      (Storage.ofWorld (Drill.berthed 4294967295)) = true ∧
    ((Storage.execute (Drill.spacious 4294967295) 1000000 7
      (Drill.namedRequest "SHIPYARD" "UPGRADE" "CARGO")
      (.ofWorld (Drill.berthed 4294967295))).2.world.players.get? 7).map (·.cargoMax) =
        some (counterMax + 5) :=
  ⟨by decide +kernel, by decide +kernel, .step .start (.join rfl), by decide +kernel,
    by decide +kernel⟩

end Starlane
