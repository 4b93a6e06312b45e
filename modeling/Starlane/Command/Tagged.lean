import Starlane.Command

/-!
# Commands as tagged records

The JSON form of what a request was understood to mean: the name of the command, and of its order
if it has one, then what the command carries.
-/

namespace Starlane

/-- The fields of a quantity of a commodity. -/
def Command.cargoFields (commodity : Option Commodity) (quantity : Int) : List (String × Json) :=
  [("commodity", .ofOption (fun c => .ofString c.code) commodity), ("quantity", .ofInt quantity)]

/-- The name of a planet order, and what it carries. -/
def PlanetOrder.tagged : PlanetOrder → String × List (String × Json)
  | info => ("Info", [])
  | colonize name => ("Colonize", [("name", .ofString name)])
  | load commodity quantity => ("Load", Command.cargoFields commodity quantity)
  | unload commodity quantity => ("Unload", Command.cargoFields commodity quantity)
  | upgradeCitadel => ("UpgradeCitadel", [])
  | unknown => ("Unknown", [])

/-- The name of a corporation order, and what it carries. -/
def CorpOrder.tagged : CorpOrder → String × List (String × Json)
  | info => ("Info", [])
  | create name => ("Create", [("name", .ofString name)])
  | join name => ("Join", [("name", .ofString name)])
  | leave => ("Leave", [])
  | say text => ("Say", [("text", .ofString text)])
  | deposit amount => ("Deposit", [("amount", .ofInt amount)])
  | withdraw amount => ("Withdraw", [("amount", .ofInt amount)])
  | unknown => ("Unknown", [])

/-- The name of a mine order, and what it carries. -/
def MineOrder.tagged : MineOrder → String × List (String × Json)
  | info => ("Info", [])
  | deploy quantity => ("Deploy", [("quantity", .ofInt quantity)])
  | sweep => ("Sweep", [])
  | unknown => ("Unknown", [])

/-- The name of a shipyard order, and what it carries. -/
def YardOrder.tagged : YardOrder → String × List (String × Json)
  | info => ("Info", [])
  | buy ship => ("Buy", [("ship", .ofString ship)])
  | sell => ("Sell", [])
  | upgrade part => ("Upgrade", [("target", .ofString part)])
  | unknown => ("Unknown", [])

namespace Command

/-- An order under the name of what it is for. -/
def under (subject : String) (order : String × List (String × Json)) :
    String × List (String × Json) :=
  (subject ++ "." ++ order.1, order.2)

/-- The field of a filter. -/
def filterFields (filter : Option Commodity) : List (String × Json) :=
  [("filter", .ofOption (fun c => .ofString c.code) filter)]

/-- The name of a command, and what it carries. -/
def tagged : Command → String × List (String × Json)
  | scan => ("Scan", [])
  | move target => ("Move", [("to", .ofInt target)])
  | trade side commodity quantity =>
    let verb := .ofOption (fun side : TradeSide => .ofString side.pastVerb) side
    ("Trade", ("side", verb) :: cargoFields commodity quantity)
  | planet order => under "Planet" order.tagged
  | corp order => under "Corp" order.tagged
  | mine order => under "Mine" order.tagged
  | shipyard order => under "Shipyard" order.tagged
  | market filter => ("Market", filterFields filter)
  | route filter => ("Route", filterFields filter)
  | events => ("Events", [])
  | rankings => ("Rankings", [])
  | season => ("Season", [])
  | help => ("Help", [])
  | unknown => ("Unknown", [])

/-- The JSON form of a command. -/
def toJson (command : Command) : Json :=
  .ofFields (("variant", .ofString command.tagged.1) :: command.tagged.2)

end Command

end Starlane
