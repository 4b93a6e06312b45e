import Starlane.Drill.Basic
import Starlane.Drill.Layout
import Starlane.Proofs.Commit

/-!
# A refusal commits the grant of turns and nothing else

Whatever the command and wherever it is refused, the store afterwards differs
from the store before in the row of the player, and there only by the grant.
A refusal takes nothing back: what a plan has written before it is refused stays
written. That no plan has written anything by then is shown plan by plan, see
`Command.plan_stops`.
-/

namespace Starlane

/-- A request that is answered and refused has saved the player's row with the
grant of turns; no other part of the world changes, and the response shows that
row. -/
theorem refusal_saves_grant {settings : Settings} {now : Int} {player : PlayerId}
    {request : Request} {world : World} {response : Response} {after : Storage}
    (executed : Storage.execute settings now player request (.ofWorld world) =
      (.ok response, after))
    (refused : response.ok = false) :
    ∃ row, world.players.get? player = some row ∧
      after = .ofWorld { world with
        players := world.players.insert row.id
          (row.regenerate settings.turnRegenSeconds now).1 } ∧
      response.status = .ofCommander
        { toPlayer := (row.regenerate settings.turnRegenSeconds now).1
          membership := world.membershipOf player } := by
  obtain ⟨row, later, stored, refusal⟩ := Storage.execute_refused executed refused
  refine ⟨row, refusal.found, ?_, refusal.status⟩
  rw [stored, refusal.committed]
  simp only [World.written, Player.regenerate_id]

/-- The universe of the drill with one pilot, at the start. -/
def Drill.piloted : World :=
  ((Session.ofLayout layout).join 7 "ada").2.world

/-- A pilot who asks for a ship that is too dear is refused, and a turn later
nothing but that turn has been granted. -/
theorem refusal_saves_grant_dear_ship :
    ∃ response after row,
      Storage.execute Settings.standard 1000130 7 (Drill.namedRequest "SHIPYARD" "BUY" "TRADER")
        (.ofWorld Drill.piloted) = (.ok response, after) ∧
      response.ok = false ∧ Drill.piloted.players.get? 7 = some row ∧
      after = .ofWorld { Drill.piloted with
        players := Drill.piloted.players.insert row.id
          (row.regenerate Settings.standard.turnRegenSeconds 1000130).1 } := by
  obtain ⟨response, after, executed, refused⟩ := Storage.execute_answered
    (show (Storage.execute Settings.standard 1000130 7
      (Drill.namedRequest "SHIPYARD" "BUY" "TRADER") (.ofWorld Drill.piloted)).1.toOption.map
        Response.ok = some false by decide +kernel)
  obtain ⟨row, found, saved, _⟩ := refusal_saves_grant executed refused
  exact ⟨response, after, row, executed, refused, found, saved⟩

end Starlane
