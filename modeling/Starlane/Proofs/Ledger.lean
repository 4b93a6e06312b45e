import Starlane.Proofs.Footprint

/-!
# The ledger of credits

Credits are held by players and by the banks of corporations. What an accepted
command adds to them or takes away depends on the state before it; all other
commands, payments into and out of a bank included, only move credits about.
-/

namespace Starlane

theorem Role.canWithdraw_trusted {role : Role} (trusted : role.canWithdraw = true) :
    role = .leader ∨ role = .officer := by
  cases role with
  | leader => exact .inl rfl
  | officer => exact .inr rfl
  | member => cases trusted

theorem Plan.quantity_found {quantity : Int} {qty : Nat}
    (counted : Plan.quantity? quantity = some qty) : (qty : Int) = quantity := by
  unfold quantity? at counted
  split at counted
  · cases counted
    omega
  · cases counted

namespace World

variable {world : World}

/-- All credits of a world. -/
def ledger (world : World) : Int :=
  world.players.total (·.credits) + world.corps.total (·.bank)

/-- The bank of a corporation; nothing if there is none. -/
def bank (world : World) (corp : CorpId) : Int :=
  world.corps.share (·.bank) corp

/-- The event that counts in a sector. -/
def eventAt (world : World) (sector : SectorId) (now : Int) : Option Event :=
  Event.soonest? ((world.activeEvents now).filter fun event => event.sector == sector)

/-- What the port of a sector charges and pays for a unit. -/
def priceAt (world : World) (sector : SectorId) (now : Int) (c : Commodity) : Int :=
  match world.ports.get? sector with
  | some port => Price.ofStock (port.stock c) c (world.eventAt sector now)
  | none => 0

/-- The roster of a corporation. -/
def rosterOf (world : World) (corp : CorpId) : List Member :=
  world.members.filter fun member => member.corp == corp

/-- What arriving in a sector costs a player with some credits: the raiders come
first, then up to five hostile mines. -/
def arrivalCost (world : World) (now : Int) (there : SectorId) (player : PlayerId)
    (corp : Option CorpId) (credits : Int) : Int :=
  let toll := Plan.toll (world.eventAt there now) credits
  toll + Minefield.strikeDamage
    (min (world.hostileMines there player corp) Minefield.triggerCap) (credits - toll)

/-- What an accepted command of a player adds to the credits of a world. -/
def ledgerChange (world : World) (now : Int) (row : Player) (membership : Option Membership) :
    Command → Int
  | .trade (some .buy) (some c) quantity => -(world.priceAt row.sector now c * quantity)
  | .trade (some .sell) (some c) quantity => world.priceAt row.sector now c * quantity
  | .planet (.colonize _) => -1500
  | .planet .upgradeCitadel =>
    match world.lookup.planet row.sector with
    | some planet => -(5000 * (planet.citadelLevel + 1))
    | none => 0
  | .shipyard (.buy code) =>
    match Ship.ofCode? code with
    | some ship => -ship.price
    | none => 0
  | .shipyard .sell => row.ship.price * 70 / 100
  | .shipyard (.upgrade part) =>
    if part = "CARGO" then -(2000 * (row.cargoUpgrades + 1))
    else if part = "TURNS" then -(1500 * (row.turnUpgrades + 1))
    else 0
  | .move target =>
    match Plan.destination? target with
    | some there =>
      -world.arrivalCost now there row.id (membership.map (·.corp)) row.credits
    | none => 0
  | .corp .leave =>
    match membership with
    | some membership =>
      if (world.rosterOf membership.corp).length = 1 then -world.bank membership.corp else 0
    | none => 0
  | _ => 0

theorem price_found {sector : SectorId} {now : Int} {port : Port} {event : Option Event}
    (found : world.lookup.port sector = .ok (some port))
    (happening : world.lookup.event sector now = .ok event) (c : Commodity) :
    world.priceAt sector now c = Price.ofStock (port.stock c) c event := by
  have present : world.ports.get? sector = some port := Except.ok.inj found
  have same : world.eventAt sector now = event := Except.ok.inj happening
  rw [priceAt, present, same]

theorem ledgerChange_informs {command : Command} (informs : command.informs = true) (now : Int)
    (row : Player) (membership : Option Membership) :
    world.ledgerChange now row membership command = 0 := by
  unfold ledgerChange
  split <;> first | cases informs | rfl

/-- A snapshot of a membership repeats a line of the roster. -/
theorem membership_found (filed : world.Filed) {player : PlayerId} {membership : Membership}
    (belongs : world.membershipOf player = some membership) :
    ∃ member ∈ world.rosterOf membership.corp, member.player = player ∧
      member.role = membership.role := by
  unfold membershipOf at belongs
  obtain ⟨member, listed, belongs⟩ := Option.bind_eq_some_iff.mp belongs
  obtain ⟨corp, found, belongs⟩ := Option.bind_eq_some_iff.mp belongs
  cases belongs
  have own : corp.id = member.corp := filed.corps member.corp corp found
  have named := List.find?_some listed
  refine ⟨member, ?_, by simpa using named, rfl⟩
  exact List.mem_filter.mpr ⟨List.mem_of_find?_eq_some listed, by simp [own]⟩

end World

namespace Deed

open World

variable {world : World} {now : Int} {commander : Commander} {command : Command}
  {effects : Effects}

theorem corps_apart (deed : Deed world.lookup now commander command effects)
    (apart : Part.corps ∉ command.parts) :
    (world.writtenAll effects.writes).corps = world.corps :=
  writtenAll_corps (fun change member same => apart (same ▸ deed.parts change member)) world

/-- The corporations after a member has left: all of them, but for the one that
lost its only member. -/
theorem resigned_corps {membership : Membership} {members : List Member} {leaver : PlayerId} :
    (world.writtenAll (Plan.handover membership leaver members ++
      .deleteMember membership.corp leaver :: Plan.dissolution membership members)).corps =
      if members.length ≤ 1 then world.corps.erase membership.corp else world.corps := by
  rw [writtenAll_append]
  have handed : (world.writtenAll (Plan.handover membership leaver members)).corps =
      world.corps := by
    unfold Plan.handover
    split <;> rfl
  unfold Plan.dissolution
  split
  · change (Table.erase _ _) = _
    rw [← handed]
    rfl
  · rw [← handed]
    rfl

/-- A message and its delivery leave the corporations alone. -/
theorem announced_corps {message : CorpMessage} {members : List Member} {line : String} :
    (world.writtenAll (.insertMessage message :: Plan.delivery members now line)).corps =
      world.corps := by
  refine writtenAll_corps (fun change member same => ?_) world
  rcases List.mem_cons.mp member with rfl | delivered
  · cases same
  · rw [Plan.delivery_part delivered] at same
    cases same

/-- A saved corporation replaces its bank. -/
theorem saved_corps (filed : world.Filed) {id : CorpId} {corp : Corporation}
    (found : world.lookup.corp id = some corp) (bank : Int) :
    (world.corps.insert corp.id { corp with bank }).total (·.bank) + corp.bank =
      world.corps.total (·.bank) + bank := by
  have own : corp.id = id := filed.corps id corp found
  have saved := world.corps.total_insert corp.id { corp with bank } (·.bank)
  have present : world.corps.get? corp.id = some corp := own ▸ found
  rw [Table.share_of_get? _ present] at saved
  exact saved

/-- A deed that leaves the banks alone. -/
private theorem ledger_apart {change : Int}
    (corps : (world.writtenAll effects.writes).corps = world.corps)
    (credits : effects.commander.credits = commander.credits + change) :
    effects.commander.credits + (world.writtenAll effects.writes).corps.total (·.bank) =
      commander.credits + world.corps.total (·.bank) + change := by
  rw [corps, credits]
  omega

/-- What a deed does to the credits of the commander and to the banks together. -/
theorem ledger (filed : world.Filed) (deed : Deed world.lookup now commander command effects)
    (snapshot : commander.membership = world.membershipOf commander.id) :
    effects.commander.credits + (world.writtenAll effects.writes).corps.total (·.bank) =
      commander.credits + world.corps.total (·.bank) +
        world.ledgerChange now commander.toPlayer commander.membership command := by
  have original := deed
  cases deed with
  | informed informs =>
    refine ledger_apart rfl ?_
    rw [ledgerChange_informs informs]
    exact (Int.add_zero _).symm
  | scannedVoid | scannedPort | loaded | unloaded | reinforced | mined | foundClear | swept =>
    exact ledger_apart (original.corps_apart (by simp [Command.parts])) (Int.add_zero _).symm
  | @moved target there event destined reached happening =>
    refine ledger_apart (original.corps_apart (by simp [Command.parts])) ?_
    have same : world.eventAt there now = event := Except.ok.inj happening
    have taken : Plan.detonated world.lookup commander there =
        min (world.hostileMines there commander.id commander.corp?) Minefield.triggerCap :=
      Plan.strike_taken _ _ _
    rw [Plan.arrival_eq, Plan.repairs, taken]
    simp only [ledgerChange, destined, arrivalCost, same, Commander.corp?]
    change _ - _ - _ = _
    omega
  | bought counted found happening =>
    refine ledger_apart (original.corps_apart (by simp [Command.parts])) ?_
    rw [ledgerChange, price_found found happening, ← Plan.quantity_found counted]
    rfl
  | sold counted found happening =>
    refine ledger_apart (original.corps_apart (by simp [Command.parts])) ?_
    rw [ledgerChange, price_found found happening, ← Plan.quantity_found counted]
    rfl
  | colonized | founded =>
    exact ledger_apart (original.corps_apart (by simp [Command.parts])) rfl
  | @fortified planet _ found =>
    refine ledger_apart (original.corps_apart (by simp [Command.parts])) ?_
    have cost : Planet.citadelCost (planet.citadelLevel + 1) =
        5000 * (planet.citadelLevel + 1) := by
      unfold Planet.citadelCost
      omega
    simp only [ledgerChange, found]
    rw [cost]
    rfl
  | boughtShip _ _ known =>
    refine ledger_apart (original.corps_apart (by simp [Command.parts])) ?_
    simp only [ledgerChange, known]
    rfl
  | soldShip =>
    exact ledger_apart (original.corps_apart (by simp [Command.parts])) rfl
  | upgradedCargo =>
    exact ledger_apart (original.corps_apart (by simp [Command.parts])) rfl
  | upgradedTurns =>
    exact ledger_apart (original.corps_apart (by simp [Command.parts])) rfl
  | announced =>
    exact ledger_apart announced_corps (Int.add_zero _).symm
  | enlisted => exact ledger_apart rfl (Int.add_zero _).symm
  | @incorporated raw name =>
    have founded := world.corps.total_insert (world.lastId + 1) ⟨world.lastId + 1, name, 0⟩ (·.bank)
    rw [Table.share_of_absent _ filed.corpsUpTo.fresh] at founded
    change _ + 0 = _ + (0 : Int) at founded
    change commander.credits + (world.corps.insert (world.lastId + 1) _).total _ = _ + _ + 0
    omega
  | @resigned membership members text belongs roster =>
    have listed : members.length = (world.rosterOf membership.corp).length := by
      rw [← Except.ok.inj roster]
      exact (List.mergeSort_perm _ _).length_eq
    obtain ⟨member, present, _⟩ := membership_found filed (snapshot ▸ belongs)
    -- The roster lists the commander, so at most one line means exactly one.
    have some : 0 < (world.rosterOf membership.corp).length := List.length_pos_of_mem present
    have erased := world.corps.total_erase membership.corp (·.bank)
    change _ + world.bank _ = _ at erased
    rw [Effects.logged, resigned_corps, listed]
    simp only [ledgerChange, belongs]
    split
    · rw [if_pos (by omega)]
      omega
    · rw [if_neg (by omega)]
      omega
  | @deposited amount membership corp _ belongs positive funded found =>
    have saved := saved_corps filed found (corp.bank + amount)
    change commander.credits - amount + (world.corps.insert corp.id _).total _ = _ + _ + 0
    omega
  | @withdrew amount membership corp _ belongs trusted positive found =>
    have saved := saved_corps filed found (corp.bank - amount)
    change commander.credits + amount + (world.corps.insert corp.id _).total _ = _ + _ + 0
    omega

/-- What a deed does to a bank: nothing, or it is the bank of the commander's
own corporation. -/
inductive BankMove (before after : World) (membership : Membership) (corp : CorpId) :
    Command → Prop
  | deposit {amount : Int} (positive : 1 ≤ amount)
      (grown : after.bank corp = before.bank corp + amount) :
      BankMove before after membership corp (.corp (.deposit amount))
  | withdrawal {amount : Int} (trusted : membership.role.canWithdraw = true)
      (shrunk : after.bank corp = before.bank corp - amount) :
      BankMove before after membership corp (.corp (.withdraw amount))
  | dissolution (gone : after.corps.get? corp = none) :
      BankMove before after membership corp (.corp .leave)

/-- A bank shrinks through a trusted withdrawal, or with its corporation. -/
theorem BankMove.shrunk {before after : World} {membership : Membership} {corp : CorpId}
    {command : Command} (moved : BankMove before after membership corp command)
    (less : after.bank corp < before.bank corp) :
    (∃ amount, command = .corp (.withdraw amount) ∧
        (membership.role = .leader ∨ membership.role = .officer)) ∨
      (command = .corp .leave ∧ after.corps.get? corp = none) := by
  cases moved with
  | deposit positive grown => omega
  | withdrawal trusted => exact .inl ⟨_, rfl, Role.canWithdraw_trusted trusted⟩
  | dissolution gone => exact .inr ⟨rfl, gone⟩

private theorem bank_apart (corps : (world.writtenAll effects.writes).corps = world.corps)
    (corp : CorpId) : (world.writtenAll effects.writes).bank corp = world.bank corp := by
  unfold bank
  rw [corps]

/-- A saved corporation changes its own bank only. -/
theorem saved_bank (filed : world.Filed) {id : CorpId} {corp : Corporation}
    (found : world.lookup.corp id = some corp) (bank : Int) (other : CorpId) :
    (world.corps.insert corp.id { corp with bank }).share (·.bank) other =
      if other = id then world.bank id + (bank - corp.bank) else world.bank other := by
  have own : corp.id = id := filed.corps id corp found
  have balance : world.bank id = corp.bank := Table.share_of_get? _ found
  rw [Table.share_insert, own]
  split
  · rw [balance]
    change bank = _
    omega
  · rfl

/-- A deed changes no bank but that of the commander's own corporation. -/
theorem bank_move (filed : world.Filed) (deed : Deed world.lookup now commander command effects)
    {after : World} (same : after.corps = (world.writtenAll effects.writes).corps)
    (corp : CorpId) :
    after.bank corp = world.bank corp ∨
      ∃ membership, commander.membership = some membership ∧ membership.corp = corp ∧
        BankMove world after membership corp command := by
  have original := deed
  have moved : after.bank corp = (world.writtenAll effects.writes).bank corp := by
    unfold bank
    rw [same]
  cases deed with
  | informed | enlisted => exact .inl moved
  | announced => exact .inl (moved.trans (bank_apart announced_corps corp))
  | incorporated =>
    refine .inl (moved.trans ?_)
    change (world.corps.insert (world.lastId + 1) _).share (·.bank) corp = world.bank corp
    rw [Table.share_insert]
    split
    · next new => rw [new, bank, Table.share_of_absent _ filed.corpsUpTo.fresh]
    · rfl
  | @resigned membership members text belongs roster =>
    rw [Effects.logged, resigned_corps] at same
    by_cases last : members.length ≤ 1
    · rw [if_pos last] at same
      by_cases own : corp = membership.corp
      · refine .inr ⟨membership, belongs, own.symm, .dissolution ?_⟩
        rw [same, Table.get?_erase, if_pos own]
      · refine .inl ?_
        unfold bank
        rw [same, Table.share_erase, if_neg own]
    · rw [if_neg last] at same
      refine .inl ?_
      unfold bank
      rw [same]
  | @deposited amount membership held _ belongs positive funded found =>
    have saved := moved.trans (saved_bank filed found (held.bank + amount) corp)
    by_cases own : corp = membership.corp
    · rw [if_pos own, ← own] at saved
      refine .inr ⟨membership, belongs, own.symm, .deposit positive (saved.trans ?_)⟩
      omega
    · rw [if_neg own] at saved
      exact .inl saved
  | @withdrew amount membership held _ belongs trusted positive found =>
    have saved := moved.trans (saved_bank filed found (held.bank - amount) corp)
    by_cases own : corp = membership.corp
    · rw [if_pos own, ← own] at saved
      refine .inr ⟨membership, belongs, own.symm, .withdrawal trusted (saved.trans ?_)⟩
      omega
    · rw [if_neg own] at saved
      exact .inl saved
  | _ => exact .inl (moved.trans (bank_apart (original.corps_apart (by simp [Command.parts])) corp))

end Deed

/-- What an accepted request does to the credits of a world. -/
theorem Accepted.ledger {settings : Settings} {now : Int} {player : PlayerId} {command : Command}
    {world after : World} {row : Player} {effects : Effects} {response : Response}
    (filed : world.Filed)
    (accepted : Accepted settings now player command world row effects response after) :
    after.ledger = world.ledger +
        world.ledgerChange now row (world.membershipOf player) command ∧
      (∀ other, other ≠ player → after.players.get? other = world.players.get? other) ∧
      ∀ corp, after.bank corp = world.bank corp ∨
        ∃ membership, world.membershipOf player = some membership ∧ membership.corp = corp ∧
          Deed.BankMove world after membership corp command := by
  have own : row.id = player := filed.players player row accepted.found
  obtain ⟨experience, logs, same⟩ := accepted.state own
  obtain ⟨turns, stamp, paid⟩ := command.paidBy_frame world settings now player row
  have deed := accepted.deed
  rw [paid] at deed
  have corps : after.corps = (world.writtenAll effects.writes).corps := by rw [same]
  refine ⟨?_, fun other different => ?_, fun corp => ?_⟩
  · have balance := deed.ledger filed (congrArg world.membershipOf own.symm)
    have saved := world.players.total_insert player
      (Rank.award experience effects.commander.toPlayer).1 (·.credits)
    have credits : (Rank.award experience effects.commander.toPlayer).1.credits =
        effects.commander.credits := by rw [Rank.award_frame]
    rw [Table.share_of_get? _ accepted.found, credits] at saved
    have players : after.players = world.players.insert player
      (Rank.award experience effects.commander.toPlayer).1 := by rw [same]
    unfold World.ledger
    rw [players, corps]
    change _ = row.credits + _ +
      world.ledgerChange now row (world.membershipOf player) command at balance
    omega
  · rw [same]
    exact Table.get?_insert_of_ne _ _ different
  · exact deed.bank_move filed corps corp

/-- In every reachable world an accepted command changes all credits together by
exactly what the ledger says. Of the players only the commander's own row
changes, of the banks only that of their corporation; a bank shrinks only
through a withdrawal by its leader or an officer, or with its corporation. -/
theorem credits_accounted {settings : Settings} {now : Int} {player : PlayerId}
    {request : Request} {world : World} {response : Response} {after : Storage}
    (reachable : world.Reachable)
    (executed : Storage.execute settings now player request (.ofWorld world) =
      (.ok response, after))
    (accepted : response.ok = true) :
    ∃ row, world.players.get? player = some row ∧
      after.world.ledger = world.ledger +
        world.ledgerChange now row (world.membershipOf player) (.ofRequest request) ∧
      (∀ other, other ≠ player → after.world.players.get? other = world.players.get? other) ∧
      (∀ corp, after.world.bank corp ≠ world.bank corp →
        ∃ member ∈ world.rosterOf corp, member.player = player) ∧
      ∀ corp, after.world.bank corp < world.bank corp →
        (∃ amount, Command.ofRequest request = .corp (.withdraw amount) ∧
          ∃ member ∈ world.rosterOf corp, member.player = player ∧
            (member.role = .leader ∨ member.role = .officer)) ∨
        (Command.ofRequest request = .corp .leave ∧ after.world.corps.get? corp = none) := by
  obtain ⟨row, effects, later, rfl, acceptance⟩ := Storage.execute_accepted executed accepted
  have filed := reachable.filed
  obtain ⟨balance, others, banks⟩ := acceptance.ledger filed
  refine ⟨row, acceptance.found, balance, others, fun corp changed => ?_, fun corp less => ?_⟩
  · rcases banks corp with same | ⟨membership, belongs, rfl, _⟩
    · exact absurd same changed
    · obtain ⟨member, listed, named, _⟩ := World.membership_found filed belongs
      exact ⟨member, listed, named⟩
  · rcases banks corp with same | ⟨membership, belongs, rfl, moved⟩
    · exact absurd same (Int.ne_of_lt less)
    · obtain ⟨member, listed, named, role⟩ := World.membership_found filed belongs
      rcases moved.shrunk less with ⟨amount, withdrawn, trusted⟩ | dissolved
      · exact .inl ⟨amount, withdrawn, member, listed, named, role ▸ trusted⟩
      · exact .inr dissolved

/-- Five units of ore at the price of a full port, ten credits each. -/
theorem credits_accounted_purchase :
    ∃ response after,
      Storage.execute Settings.standard 1000130 7 (Drill.cargoRequest "TRADE" "BUY" "ORE" 5)
        (.ofWorld Drill.docked) = (.ok response, after) ∧
      response.ok = true ∧ after.world.ledger = Drill.docked.ledger - 50 := by
  have trade : Command.ofRequest (Drill.cargoRequest "TRADE" "BUY" "ORE" 5) =
      .trade (some .buy) (some .ore) 5 := by decide +kernel
  have price : Drill.docked.priceAt 2 1000130 .ore = 10 := by decide +kernel
  have start : (Drill.docked.players.get? 7).map (·.sector) = some 2 := by decide +kernel
  obtain ⟨response, after, executed, accepted⟩ := Storage.execute_answered
    (show (Storage.execute Settings.standard 1000130 7
      (Drill.cargoRequest "TRADE" "BUY" "ORE" 5) (.ofWorld Drill.docked)).1.toOption.map
        Response.ok = some true by decide +kernel)
  obtain ⟨row, found, balance, _⟩ := credits_accounted Drill.docked_reachable executed accepted
  rw [found] at start
  have here : row.sector = 2 := Option.some.inj start
  rw [trade, World.ledgerChange, here, price] at balance
  exact ⟨response, after, executed, accepted, balance⟩

end Starlane
