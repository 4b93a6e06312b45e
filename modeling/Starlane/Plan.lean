import Starlane.Plan.Briefing
import Starlane.Plan.Colony
import Starlane.Plan.Company
import Starlane.Plan.Flight
import Starlane.Plan.Mining
import Starlane.Plan.Shipyard

/-!
# Planning a command
-/

namespace Starlane

/-- Plans a command of a commander who has paid its turns. -/
def Command.plan (look : Lookup) (now : Int) (commander : Commander) : Command → Plan Effects
  | .scan => Plan.scan look now commander
  | .move target => Plan.move look now commander target
  | .trade side commodity quantity => Plan.trade look now commander side commodity quantity
  | .planet order => Plan.planet look commander order
  | .corp order => Plan.corp look now commander order
  | .mine order => Plan.mine look now commander order
  | .shipyard order => Plan.shipyard look commander order
  | .market filter => Plan.market look now commander filter
  | .route filter => Plan.route look now commander filter
  | .events => Plan.events look now commander
  | .rankings => Plan.rankings look commander
  | .season => Plan.season look commander
  | .help => return Plan.briefing commander Command.helpText
  | .unknown => Plan.refuse .unknownCommand

/-- What a command writes before it has read all that it needs: a scan and a move have discovered
a sector by then, and a message to a corporation has been sent. -/
def Command.opening (now : Int) (commander : Commander) : Command → List Write
  | .scan => [.discover commander.id commander.sector]
  | .move target =>
    (Plan.destination? target).toList.map fun there => .discover commander.id there
  | .corp (.say text) =>
    commander.membership.toList.map fun membership =>
      .insertMessage ⟨membership.corp, commander.id, Naming.cleanMessage text, now⟩
  | _ => []

end Starlane
