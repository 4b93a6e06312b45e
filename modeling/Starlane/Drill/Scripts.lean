import Starlane.Drill.Basic
import Starlane.World.Tick

/-!
# Scripts of players

The parts of the drill in which players give commands: trading, turns, planets and corporations,
and what a failure of the storage leaves behind.
-/

namespace Starlane.Drill

/-- A trader carries ore from one port to the next. -/
def tradeLoop (layout : Universe) : Part :=
  let (joined, session) := (Session.ofLayout layout).join 1 "trader"
  let (moved, session) := session.runOk 1 (moveTo 2)
  let (bought, session) := session.runOk 1 (cargoRequest "TRADE" "BUY" "ORE" 20)
  let (_, session) := session.runOk 1 (moveTo 3)
  let (sold, _) := session.runOk 1 (cargoRequest "TRADE" "SELL" "ORE" 20)
  let creditsOf := fun response : Option Response =>
    (response.map fun r => r.status.credits).getD 0
  let turns := (sold.map fun r => r.status.turns).getD 0
  { title := "Trade Loop"
    notes := []
    checks := [
      ⟨"trade_join", joined, "player created in sector 1"⟩,
      ⟨"trade_move_to_port",
        moved.any fun r => r.status.sector == 2 && r.sector.port.isSome,
        "moved into Vega, port visible"⟩,
      ⟨"trade_buy", bought.any fun r => r.status.cargo.ore == 20 && decide (r.status.credits < 1000),
        s!"credits after buy: {creditsOf bought}"⟩,
      ⟨"trade_sell",
        sold.any fun r =>
          r.status.cargo.ore == 0 && decide (creditsOf bought < r.status.credits),
        s!"credits after sell: {creditsOf sold}"⟩,
      ⟨"trade_turns_charged", turns == 96, s!"{turns} turns left after 4 one-turn commands"⟩,
      ⟨"trade_response_json",
        sold.any fun r =>
          (Json.parse? r.toJson.render).isSome && r.ok && r.status.sector == 3,
        "response serializes with ok/state/sector"⟩] }

/-- A pilot runs out of turns and waits for more. -/
def turnGrants (layout : Universe) : Part :=
  let (_, session) := (Session.ofLayout layout).join 1 "pilot"
  let session := session.edit 1 fun player =>
    { player with turns := 0, regenStamp := some startTime }
  let (starved, session) := session.run 1 (.ofKind "SCAN")
  let wait := 10 * (Settings.standard.turnRegenSeconds : Int)
  let session := { session with now := session.now + wait }
  let (scanned, session) := session.runOk 1 (.ofKind "SCAN")
  let turns := (scanned.map fun r => r.status.turns).getD 0
  let (strayed, session) := session.run 1 (moveTo 7)
  let (unknown, _) := session.run 1 (.ofKind "WARPDRIVE")
  let refusedWith := fun (code : String) (response : Response) =>
    response.refusal.map Refusal.code == some code
  { title := "Turns"
    notes := []
    checks := [
      ⟨"turns_exhausted_rejected", starved.any (refusedWith "NOT_ENOUGH_TURNS"),
        "SCAN with zero turns"⟩,
      ⟨"turns_regenerate", turns == 9, s!"{turns} turns after 10 regen periods and one SCAN"⟩,
      ⟨"move_without_warp_rejected",
        strayed.any fun r =>
          refusedWith "INVALID_MOVE" r && r.status.sector == 1 && r.status.turns == 9,
        "no warp 1 -> 7; turns unchanged"⟩,
      ⟨"unknown_command_rejected", unknown.any (refusedWith "UNKNOWN_COMMAND"), "WARPDRIVE"⟩] }

/-- A founder settles a planet for a corporation, and a recruit uses it. -/
def planetsAndCorps (layout : Universe) : Part :=
  let (_, session) := (Session.ofLayout layout).join 1 "founder"
  let (_, session) := session.join 2 "recruit"
  let session := session.edit 1 fun player => { player with credits := 50000 }
  let (created, session) := session.runOk 1 (namedRequest "CORP" "CREATE" "Frontier Guild")
  let (joined, session) := session.runOk 2 (namedRequest "CORP" "JOIN" "frontier guild")
  let (_, session) := session.runOk 1 (moveTo 2)
  let (_, session) := session.runOk 1 (moveTo 4)
  let (colonized, session) := session.runOk 1 (namedRequest "PLANET" "COLONIZE" "Haven")
  let settled := session.world.planets.values
  let (world, produced) := session.world.planetTick
  let session := session.change fun _ => world
  let stored := session.world.planets.values.foldl (fun sum planet => sum + planet.storage.total) 0
  let (_, session) := session.runOk 2 (moveTo 2)
  let (_, session) := session.runOk 2 (moveTo 4)
  let (loaded, _) := session.runOk 2 (cargoRequest "PLANET" "LOAD" "ORE" 5)
  let membershipOf := fun response : Response => response.status.membership
  { title := "Planets & Corps"
    notes := []
    checks := [
      ⟨"corp_create", created.any fun r => (membershipOf r).any fun m => m.role == .leader,
        "founder leads Frontier Guild"⟩,
      ⟨"corp_join_case_insensitive",
        joined.any fun r => (membershipOf r).any fun m => m.name == "Frontier Guild",
        "recruit joined by lower-case name"⟩,
      ⟨"planet_colonize", colonized.isSome && settled.length == 1,
        "Haven established in Altair"⟩,
      ⟨"planet_owned_by_corp", settled.all fun planet => planet.owner.corp?.isSome,
        "colonizing while in a corp attributes the planet to the corp"⟩,
      ⟨"planet_production", produced == 1 && decide (0 < stored),
        s!"{produced} planet produced, {stored} units stored"⟩,
      ⟨"planet_corp_access", loaded.any fun r => r.status.cargo.ore == 5,
        "corp member loaded 5 ore from Haven"⟩] }

/-- The storage gives out in the middle of a command. -/
def rollback (layout : Universe) : Part :=
  let (_, session) := (Session.ofLayout layout).join 1 "unlucky"
  let session := { session with storage := session.storage.limited 1 }
  let (lost, session) := session.run 1 (moveTo 2)
  let untouched := (session.world.players.get? 1).any fun player =>
    player.sector == 1 && player.turns == 100
  let discovered := session.world.discoveries.contains (1, 2)
  let (retried, _) := session.runOk 1 (moveTo 2)
  { title := "Rollback"
    notes := []
    checks := [
      ⟨"failed_command_rolls_back", lost.isNone && untouched,
        "injected store failure leaves the player untouched"⟩,
      ⟨"failed_command_no_discovery", !discovered, "discovery write discarded"⟩,
      ⟨"retry_after_failure", retried.isSome,
        "same command succeeds once the store recovers"⟩] }

end Starlane.Drill
