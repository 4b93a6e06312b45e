import Starlane.Proofs.Bargain
import Starlane.Proofs.Parallel

/-!
# Trades in instalments

A trade made in parts leaves no more credits and turns than the whole trade at
once, which is accepted wherever the parts are, also behind a limit on writes: it
asks for as many as its first part.
-/

namespace Starlane

/-- The turns that a player pays for a trade. -/
def Player.tradeFee (player : Player) : Nat :=
  if player.isAdmin then 0 else 1

namespace World

/-- What a trade of a player at a port makes of both. -/
def counterAfter (world : World) (now : Int) (side : TradeSide) (c : Commodity) (row : Player)
    (port : Port) (qty : Nat) : Counter :=
  (row.counter port).traded (world.eventAt row.sector now) c qty row.tradeFee side

/-- What the effects of a trade leave of the player, the ports and the events. -/
theorem written_dealt {world after : World} {commander : Commander} {counter : Counter}
    {text : String} {experience now : Int}
    (state : after = world.writtenAll
      (((Plan.dealt commander counter text).rewarded experience).allWrites now)) :
    ∃ xp level, after.players.get? commander.id =
        some { commander.toPlayer with
          credits := counter.credits, cargo := counter.cargo, xp, level } ∧
      after.ports = world.ports.insert counter.port.sector counter.port ∧
      after.events = world.events := by
  obtain ⟨logs, tables⟩ :=
    world.writtenAll_rewarded (Plan.dealt commander counter text) experience now
  rw [tables, Rank.award_frame] at state
  rw [state]
  exact ⟨_, _, Table.get?_insert_self _ _ _, rfl, rfl⟩

/-- Whether a player can make a trade: they have a row when they give the command
and a port where they are, and the two of them allow it. -/
structure CanTrade (settings : Settings) (now : Int) (player : PlayerId) (side : TradeSide)
    (c : Commodity) (row : Player) (port : Port) (qty : Nat) (world : World) : Prop where
  ready : world.granted settings now player = some row
  found : world.ports.get? row.sector = some port
  positive : 1 ≤ qty
  allows : (row.counter port).Allows (world.eventAt row.sector now) c qty side

/-- What an accepted trade leaves of the player and the port. -/
structure Traded (settings : Settings) (now : Int) (player : PlayerId) (side : TradeSide)
    (c : Commodity) (row : Player) (port : Port) (qty : Nat) (world after : World) : Prop
    extends world.CanTrade settings now player side c row port qty where
  saved : ∃ saved, after.players.get? player = some saved ∧
    saved.UpToDate settings.turnRegenSeconds now ∧ saved.sector = row.sector ∧
    saved.isAdmin = row.isAdmin ∧
    saved.counter (world.counterAfter now side c row port qty).port =
      world.counterAfter now side c row port qty
  ports : after.ports =
    world.ports.insert row.sector (world.counterAfter now side c row port qty).port
  events : after.events = world.events

end World

namespace Storage

variable {storage after : Storage} {settings : Settings} {now : Int} {player : PlayerId}
  {request : Request} {side : TradeSide} {c : Commodity} {quantity : Int}

/-- What an accepted trade comes to. -/
theorem trade_accepted {response : Response} (filed : storage.world.Filed)
    (asked : Command.ofRequest request = .trade (some side) (some c) quantity)
    (executed : execute settings now player request storage = (.ok response, after))
    (accepted : response.ok = true) :
    ∃ (row : Player) (port : Port) (qty : Nat), (qty : Int) = quantity ∧ qty ≤ 1000000 ∧
      storage.world.Traded settings now player side c row port qty after.world := by
  obtain ⟨stored, effects, found, planned, written, here⟩ := accepted_outcome executed accepted
  rw [asked] at planned
  obtain ⟨_, _, done, made, rfl⟩ := Command.outcome_planned planned
  obtain ⟨qty, port, event, text, counted, positive, few, offered, happening, allows, rfl⟩ :=
    (Command.plan_deed _ made).bargained 0
  cases happening
  have same := congrArg Storage.world (writeAll_success (writeAll_unlimited written)).2
  obtain ⟨xp, level, saved, ports, events⟩ := World.written_dealt same
  have own : stored.id = player := filed.players player stored found
  have identity : ((Command.trade (some side) (some c) quantity).paidBy
      (storage.world.present settings now player stored)).id = player :=
    (stored.regenerate_id settings.turnRegenSeconds now).trans own
  rw [identity] at saved
  have offered : storage.world.ports.get?
    (stored.regenerate settings.turnRegenSeconds now).1.sector = some port := Except.ok.inj offered
  have there : port.sector = _ := filed.ports _ port offered
  refine ⟨(stored.regenerate settings.turnRegenSeconds now).1, port, qty, counted, few,
    ⟨?_, offered, positive, allows⟩, ⟨_, saved, ?_, rfl, rfl, rfl⟩, ?_, events⟩
  · rw [World.granted, found]
    rfl
  · exact stored.regenerate_upToDate settings.turnRegenSeconds now
  · rw [← there]
    exact ports

end Storage

namespace Plan

variable {commander : Commander} {counter other : Counter} {text text' : String}

/-- The entries about a trade: what it tells, and a rise that goes by the experience
of the commander alone. -/
theorem dealt_entries (worded : text ≠ "") (counter : Counter) (experience now : Int) :
    ((dealt commander counter text).rewarded experience).entries now =
      ⟨now, .action, text⟩ ::
        (((Rank.award experience commander.toPlayer).2.toList.map fun promotion =>
          (LogKind.system, promotion.announcement)).filter fun line => !line.2.isEmpty).map
            fun line => ⟨now, line.1, line.2⟩ := by
  have rise : (Rank.award experience (settled commander counter).toPlayer).2 =
      (Rank.award experience commander.toPlayer).2 := by
    unfold Rank.award
    split <;> rfl
  have kept : (!text.isEmpty) = true := by simpa using worded
  rw [Effects.entries, Effects.rewarded_lines]
  change List.map _ (List.filter _ ((LogKind.action, text) :: List.map _
    (Rank.award experience (settled commander counter).toPlayer).2.toList)) = _
  rw [List.filter_cons_of_pos (p := fun line : LogKind × String => !line.2.isEmpty) kept,
    List.map_cons, rise]

/-- Two trades of a commander at one port write alike. -/
theorem dealt_parallel (worded : text ≠ "") (worded' : text' ≠ "")
    (same : other.port.sector = counter.port.sector) (experience now : Int) :
    List.Forall₂ Write.Parallel
      (((dealt commander counter text).rewarded experience).allWrites now)
      (((dealt commander other text').rewarded experience).allWrites now) := by
  have lines : ∀ lines : List LogEntry, List.Forall₂ Write.Parallel
      (lines.map (Write.insertLog commander.id) ++ [.pruneLogs commander.id logKeep])
      (lines.map (Write.insertLog commander.id) ++ [.pruneLogs commander.id logKeep]) := by
    intro lines
    induction lines with
    | nil => exact .cons (.pruneLogs _ _) .nil
    | cons line rest ih => exact .cons (.insertLog _ _ _) ih
  rw [Effects.allWrites, Effects.allWrites, Effects.logWrites, Effects.logWrites,
    Effects.rewarded_writes, Effects.rewarded_writes, Effects.rewarded_player,
    Effects.rewarded_player, Rank.award_id, Rank.award_id, dealt_entries worded,
    dealt_entries worded']
  refine .cons (.savePort same) (.cons (.savePlayer ?_) (.cons (.insertLog _ _ _) (lines _)))
  exact (Rank.award_id _ _).trans (Rank.award_id _ (settled commander counter).toPlayer).symm

/-- Two trades that can be made in one place write alike. -/
theorem trade_parallel {look : Lookup} {now : Int} {side : TradeSide} {c : Commodity}
    {quantity quantity' : Int} {effects effects' : Effects}
    (planned : trade look now commander (some side) (some c) quantity = .ok effects)
    (planned' : trade look now commander (some side) (some c) quantity' = .ok effects')
    (experience : Int) :
    List.Forall₂ Write.Parallel ((effects.rewarded experience).allWrites now)
      ((effects'.rewarded experience).allWrites now) := by
  have worded := trade_worded planned
  have worded' := trade_worded planned'
  obtain ⟨_, port, _, _, _, _, _, offered, _, _, rfl⟩ := (trade_deed planned).bargained 0
  obtain ⟨_, port', _, _, _, _, _, offered', _, _, rfl⟩ := (trade_deed planned').bargained 0
  rw [offered] at offered'
  cases offered'
  have sector : ∀ event qty, ((commander.counter port).traded event c qty 0 side).port.sector =
      port.sector := fun _ _ => rfl
  exact dealt_parallel worded worded' ((sector _ _).trans (sector _ _).symm) experience now

end Plan

/-- Where a trade has effects every other one of the goods that the port and the
player can make has effects that are written alike. -/
theorem Command.trade_outcome {look : Lookup} {now : Int} {commander : Commander}
    {side : TradeSide} {c : Commodity} {quantity : Int} {effects : Effects}
    (outcome : (Command.trade (some side) (some c) quantity).outcome look now commander =
      .ok effects) {port : Port} {event : Option Event} {qty : Nat}
    (found : look.port commander.sector = .ok (some port))
    (happening : look.event commander.sector now = .ok event) (positive : 1 ≤ qty)
    (few : qty ≤ 1000000) (allows : (commander.counter port).Allows event c qty side) :
    ∃ effects', (Command.trade (some side) (some c) qty).outcome look now commander =
        .ok effects' ∧
      List.Forall₂ Write.Parallel (effects.allWrites now) (effects'.allWrites now) ∧
      effects'.commander.sector = effects.commander.sector := by
  obtain ⟨free, affordable, done, made, rfl⟩ := Command.outcome_planned outcome
  obtain ⟨text, planned⟩ := @Plan.trade_made look now
    ((Command.trade (some side) (some c) quantity).paidBy commander) side c qty port event
    positive few found happening allows 0
  refine ⟨_, Command.outcome_made free affordable planned, Plan.trade_parallel made planned _, ?_⟩
  obtain ⟨_, _, _, _, _, _, _, _, _, _, rfl⟩ := (Command.plan_deed _ made).bargained 0
  rw [Effects.rewarded_player, Effects.rewarded_player, Rank.award_frame, Rank.award_frame]
  rfl

namespace Storage

variable {storage after : Storage} {settings : Settings} {now : Int} {player : PlayerId}
  {request : Request} {side : TradeSide} {c : Commodity} {quantity : Int}

/-- Where a trade is accepted every other one of the goods that the port and the
player can make is accepted in its place. -/
theorem trade_instead {response : Response}
    (asked : Command.ofRequest request = .trade (some side) (some c) quantity)
    (executed : execute settings now player request storage = (.ok response, after))
    (accepted : response.ok = true) {row : Player} {port : Port} {qty : Nat}
    (can : storage.world.CanTrade settings now player side c row port qty) (few : qty ≤ 1000000)
    {instead : Request}
    (asked' : Command.ofRequest instead = .trade (some side) (some c) qty) :
    ∃ response' after', execute settings now player instead storage = (.ok response', after') ∧
      response'.ok = true := by
  obtain ⟨stored, effects, present, outcome, written, here⟩ := accepted_outcome executed accepted
  rw [asked] at outcome
  have granted : (storage.world.present settings now player stored).toPlayer = row := by
    have ready := can.ready
    rw [World.granted, present] at ready
    exact Option.some.inj ready
  subst granted
  obtain ⟨effects', outcome', alike, stays⟩ :=
    Command.trade_outcome outcome (congrArg Except.ok can.found) rfl can.positive few can.allows
  rw [← asked'] at outcome'
  exact accepted_instead present outcome' written here alike stays

end Storage

namespace World

variable {settings : Settings} {now : Int} {player : PlayerId} {side : TradeSide} {c : Commodity}
  {row : Player} {port : Port} {qty : Nat} {world mid after : World}

/-- Whether a world after some trades has the goods that one trade would have left,
and the player no more credits and turns. -/
structure Yields (settings : Settings) (now : Int) (player : PlayerId) (side : TradeSide)
    (c : Commodity) (row : Player) (port : Port) (qty : Nat) (world after : World) : Prop
    extends world.CanTrade settings now player side c row port qty where
  last : ∃ last, after.players.get? player = some last ∧
    (world.counterAfter now side c row port qty).Tops
      (last.counter (world.counterAfter now side c row port qty).port)
  ports : after.ports =
    world.ports.insert row.sector (world.counterAfter now side c row port qty).port

theorem Traded.yields (trades : world.Traded settings now player side c row port qty after) :
    world.Yields settings now player side c row port qty after where
  toCanTrade := trades.toCanTrade
  last := by
    obtain ⟨saved, stored, _, _, _, same⟩ := trades.saved
    exact ⟨saved, stored, same ▸ .refl _⟩
  ports := trades.ports

/-- Nothing is due a second time, so a trade at the same time finds what the one
before it has left. -/
theorem Traded.finds (first : world.Traded settings now player side c row port qty mid)
    {row' : Player} {port' : Port} {more : Nat}
    (can : mid.CanTrade settings now player side c row' port' more) :
    row'.counter port' = world.counterAfter now side c row port qty ∧
      row'.sector = row.sector ∧ row'.tradeFee = row.tradeFee ∧
      mid.eventAt row'.sector now = world.eventAt row.sector now := by
  obtain ⟨saved, stored, upToDate, sector, admin, held⟩ := first.saved
  have same : saved = row' := by
    have ready := can.ready
    rw [granted, stored] at ready
    exact upToDate.regenerate.symm.trans (Option.some.inj ready)
  subst same
  have there : (world.counterAfter now side c row port qty).port = port' := by
    have found := can.found
    rw [first.ports, sector, Table.get?_insert_self] at found
    exact Option.some.inj found
  subst there
  refine ⟨held, sector, ?_, ?_⟩
  · rw [Player.tradeFee, Player.tradeFee, admin]
  · simp only [eventAt, activeEvents, first.events, sector]

/-- A trade can be made together with those after it. -/
theorem Traded.merge (first : world.Traded settings now player side c row port qty mid)
    {row' : Player} {port' : Port} {more : Nat}
    (rest : mid.Yields settings now player side c row' port' more after)
    (bound : row.cargoMax ≤ counterMax) :
    world.Yields settings now player side c row port (qty + more) after := by
  obtain ⟨held, sector, fee, event⟩ := first.finds rest.toCanTrade
  have again : mid.counterAfter now side c row' port' more =
      (world.counterAfter now side c row port qty).traded
        (world.eventAt row.sector now) c more row.tradeFee side := by
    rw [counterAfter, held, event, fee]
  have allows := rest.allows
  rw [held, event] at allows
  obtain ⟨whole, tops⟩ :
      (row.counter port).Allows (world.eventAt row.sector now) c (qty + more) side ∧
        (world.counterAfter now side c row port (qty + more)).Tops
          ((world.counterAfter now side c row port qty).traded
            (world.eventAt row.sector now) c more row.tradeFee side) :=
    Counter.merge bound first.positive first.allows allows
  obtain ⟨last, present, under⟩ := rest.last
  have ports := rest.ports
  rw [again] at under ports
  rw [first.ports, sector, Table.insert_insert] at ports
  rw [← tops.port] at under ports
  exact ⟨⟨first.ready, first.found, Nat.le_add_right_of_le first.positive, whole⟩,
    ⟨last, present, tops.trans under⟩, ports⟩

end World

namespace Storage

/-- Accepted trades of the same goods, one after the other and at one time. -/
inductive Instalments (settings : Settings) (now : Int) (player : PlayerId) (side : TradeSide)
    (c : Commodity) : Storage → List Int → Storage → Prop
  | none {storage : Storage} : Instalments settings now player side c storage [] storage
  | part {storage mid after : Storage} {request : Request} {response : Response} {quantity : Int}
      {rest : List Int}
      (asked : Command.ofRequest request = .trade (some side) (some c) quantity)
      (executed : execute settings now player request storage = (.ok response, mid))
      (accepted : response.ok = true)
      (later : Instalments settings now player side c mid rest after) :
      Instalments settings now player side c storage (quantity :: rest) after

variable {storage after : Storage} {settings : Settings} {now : Int} {player : PlayerId}
  {side : TradeSide} {c : Commodity} {quantities : List Int}

/-- What instalments come to. -/
theorem Instalments.yields (filed : storage.world.Filed)
    (fits : ∀ row, storage.world.players.get? player = some row → row.cargoMax ≤ counterMax)
    (parts : Instalments settings now player side c storage quantities after)
    (nonempty : quantities ≠ []) :
    ∃ (row : Player) (port : Port) (qty : Nat), (qty : Int) = quantities.sum ∧
      storage.world.Yields settings now player side c row port qty after.world := by
  induction parts with
  | none => exact absurd rfl nonempty
  | @part storage mid after request response quantity rest asked executed accepted later ih =>
    obtain ⟨row, port, qty, counted, _, first⟩ := trade_accepted filed asked executed accepted
    have bound : row.cargoMax ≤ counterMax := by
      obtain ⟨stored, found, granted⟩ := Option.map_eq_some_iff.mp first.ready
      obtain ⟨turns, stamp, same⟩ := stored.regenerate_frame settings.turnRegenSeconds now
      rw [← granted, same]
      exact fits stored found
    cases later with
    | none =>
      exact ⟨row, port, qty, by rw [counted, List.sum_singleton], first.yields⟩
    | part asked' executed' accepted' later =>
      obtain ⟨saved, stored, _, _, _, held⟩ := first.saved
      have fits' : ∀ row, mid.world.players.get? player = some row →
          row.cargoMax ≤ counterMax := by
        intro row found
        rw [stored] at found
        cases found
        exact (congrArg Counter.cargoMax held).trans_le bound
      obtain ⟨row', port', more, counted', rest⟩ :=
        ih (filed.next (.command executed)) fits' (List.cons_ne_nil _ _)
      exact ⟨row, port, qty + more, by rw [List.sum_cons, Int.natCast_add, counted, counted'],
        first.merge rest bound⟩

/-- An accepted trade adds up no more than an amount, if it leaves no more. -/
theorem trade_in_range {request : Request} {response : Response} {quantity : Int}
    {stored saved : Player} (filed : storage.world.Filed)
    (found : storage.world.players.get? player = some stored) (fits : stored.fits = true)
    (asked : Command.ofRequest request = .trade (some side) (some c) quantity)
    (executed : execute settings now player request storage = (.ok response, after))
    (accepted : response.ok = true) (present : after.world.players.get? player = some saved)
    (funds : side = .buy ∨ saved.credits ≤ amountMax) :
    Store.overflows settings now player request storage = false := by
  refine Bool.eq_false_iff.mpr fun overflowed => ?_
  obtain ⟨loaded, effects, loads, planned, unfit⟩ := Store.overflows_planned overflowed
  obtain ⟨_, effects', found', planned', written, _⟩ := accepted_outcome executed accepted
  obtain ⟨_, found'', rfl⟩ := World.commander_success loads
  cases found.symm.trans found'
  cases found.symm.trans found''
  cases planned.symm.trans planned'
  obtain ⟨turns, stamp, paid⟩ :=
    (Command.ofRequest request).paidBy_frame storage.world settings now player stored
  rw [asked] at planned' paid
  obtain ⟨_, _, done, made, rfl⟩ := Command.outcome_planned planned'
  rw [paid] at made
  obtain ⟨qty, port, event, text, _, _, _, _, _, allows, rfl⟩ :=
    (Command.plan_deed _ made).bargained 0
  have same := congrArg Storage.world (writeAll_success (writeAll_unlimited written)).2
  obtain ⟨_, _, left, _⟩ := World.written_dealt same
  have own : stored.id = player := filed.players player stored found
  rw [← own] at present
  cases left.symm.trans present
  rw [Effects.rewarded_fits, Plan.dealt_fits fits allows funds] at unfit
  cases unfit

end Storage

/-- Splitting a trade never pays: where its parts are accepted one after the other
the whole is accepted at once, also behind a limit on writes. It leaves the same
ports and the same hold, and the player no fewer credits and turns. Its sum is in
range if it is a purchase or leaves no more credits than an amount. -/
theorem splitting_never_pays {storage after : Storage} {settings : Settings} {now : Int}
    {player : PlayerId} {side : TradeSide} {c : Commodity} {quantities : List Int}
    {request : Request} (filed : storage.world.Filed)
    (fits : ∀ row, storage.world.players.get? player = some row → row.fits = true)
    (nonempty : quantities ≠ []) (few : quantities.sum ≤ 1000000)
    (parts : storage.Instalments settings now player side c quantities after)
    (asked : Command.ofRequest request = .trade (some side) (some c) quantities.sum) :
    ∃ response whole saved last,
      storage.execute settings now player request = (.ok response, whole) ∧
      response.ok = true ∧
      whole.world.players.get? player = some saved ∧
      after.world.players.get? player = some last ∧
      whole.world.ports = after.world.ports ∧
      saved.cargo = last.cargo ∧ last.credits ≤ saved.credits ∧ last.turns ≤ saved.turns ∧
      (side = .buy ∨ saved.credits ≤ amountMax →
        Store.overflows settings now player request storage = false) := by
  have capacities : ∀ row, storage.world.players.get? player = some row →
      row.cargoMax ≤ counterMax :=
    fun row found => of_decide_eq_true (Player.fits_iff.mp (fits row found)).2.1
  obtain ⟨row, port, qty, counted, yields⟩ := parts.yields filed capacities nonempty
  have sum : qty ≤ 1000000 := by omega
  rw [← counted] at asked
  -- the first part stands for the limit on writes, which lets the whole through as well
  obtain ⟨response, whole, executed, accepted⟩ : ∃ response whole,
      storage.execute settings now player request = (.ok response, whole) ∧
        response.ok = true := by
    cases parts with
    | none => exact absurd rfl nonempty
    | part asked' executed' accepted' =>
      exact Storage.trade_instead asked' executed' accepted' yields.toCanTrade sum asked
  obtain ⟨row', port', qty', counted', _, trades⟩ :=
    Storage.trade_accepted filed asked executed accepted
  obtain rfl : row = row' := Option.some.inj (yields.ready.symm.trans trades.ready)
  obtain rfl : port = port' := Option.some.inj (yields.found.symm.trans trades.found)
  obtain rfl : qty' = qty := Int.ofNat.inj counted'
  obtain ⟨saved, stored, _, _, _, held⟩ := trades.saved
  obtain ⟨last, present, tops⟩ := yields.last
  refine ⟨response, whole, saved, last, executed, accepted, stored, present,
    trades.ports.trans yields.ports.symm, (congrArg Counter.cargo held).trans tops.cargo,
    tops.credits.trans_eq (congrArg Counter.credits held).symm,
    tops.turns.trans_eq (congrArg Counter.turns held).symm, fun funds => ?_⟩
  obtain ⟨before, found, _⟩ := Option.map_eq_some_iff.mp trades.ready
  exact Storage.trade_in_range filed found (fits before found) asked executed accepted stored funds

/-- Two units of ore and then three cost no less than five at once. -/
theorem splitting_never_pays_twice :
    ∃ after response whole saved last,
      (Storage.ofWorld Drill.docked).Instalments .standard 1000130 7 .buy .ore [2, 3] after ∧
      Storage.execute .standard 1000130 7 (Drill.cargoRequest "TRADE" "BUY" "ORE" 5)
        (.ofWorld Drill.docked) = (.ok response, whole) ∧
      whole.world.players.get? 7 = some saved ∧ after.world.players.get? 7 = some last ∧
      saved.cargo = last.cargo ∧ last.credits ≤ saved.credits ∧ last.turns ≤ saved.turns ∧
      Store.overflows .standard 1000130 7 (Drill.cargoRequest "TRADE" "BUY" "ORE" 5)
        (Storage.ofWorld Drill.docked) = false := by
  obtain ⟨first, mid, bought, allowed⟩ := Storage.execute_answered
    (show (Storage.execute Settings.standard 1000130 7
      (Drill.cargoRequest "TRADE" "BUY" "ORE" 2) (.ofWorld Drill.docked)).1.toOption.map
        Response.ok = some true by decide +kernel)
  have again : (Storage.execute Settings.standard 1000130 7
      (Drill.cargoRequest "TRADE" "BUY" "ORE" 3) (Storage.execute Settings.standard 1000130 7
        (Drill.cargoRequest "TRADE" "BUY" "ORE" 2) (.ofWorld Drill.docked)).2).1.toOption.map
          Response.ok = some true := by decide +kernel
  rw [bought] at again
  obtain ⟨second, after, bought', allowed'⟩ := Storage.execute_answered again
  have parts : (Storage.ofWorld Drill.docked).Instalments .standard 1000130 7 .buy .ore [2, 3]
      after :=
    .part (by decide +kernel) bought allowed (.part (by decide +kernel) bought' allowed' .none)
  have asked : Command.ofRequest (Drill.cargoRequest "TRADE" "BUY" "ORE" 5) =
      .trade (some .buy) (some .ore) [2, 3].sum := by decide +kernel
  have fits : ∀ row, Drill.docked.players.get? 7 = some row → row.fits = true := by
    intro row found
    have all : (Drill.docked.players.get? 7).map Player.fits = some true := by decide +kernel
    rw [found] at all
    exact Option.some.inj all
  obtain ⟨response, whole, saved, last, executed, _, stored, present, _, cargo, credits, turns,
      funds⟩ :=
    splitting_never_pays Drill.docked_reachable.filed fits (by decide) (by decide) parts asked
  exact ⟨after, response, whole, saved, last, parts, executed, stored, present, cargo, credits,
    turns, funds (.inl rfl)⟩

end Starlane
