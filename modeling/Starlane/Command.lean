import Starlane.Command.Request
import Starlane.Commodity

/-!
# Commands

What a request means.  Every request means some command: what is not understood becomes an
`unknown` command or order, which is refused when it is carried out.
-/

namespace Starlane

/-- The side of a trade that a player takes. -/
inductive TradeSide where
  | buy
  | sell
  deriving DecidableEq, Repr

/-- The verb for a trade that has been made. -/
def TradeSide.pastVerb : TradeSide → String
  | buy => "bought"
  | sell => "sold"

/-- An order for a planet. -/
inductive PlanetOrder where
  | info
  | colonize (name : String)
  | load (commodity : Option Commodity) (quantity : Int)
  | unload (commodity : Option Commodity) (quantity : Int)
  | upgradeCitadel
  | unknown
  deriving DecidableEq, Repr

/-- An order for a corporation. -/
inductive CorpOrder where
  | info
  | create (name : String)
  | join (name : String)
  | leave
  | say (text : String)
  | deposit (amount : Int)
  | withdraw (amount : Int)
  | unknown
  deriving DecidableEq, Repr

/-- An order for mines. -/
inductive MineOrder where
  | info
  | deploy (quantity : Int)
  | sweep
  | unknown
  deriving DecidableEq, Repr

/-- An order for a shipyard. -/
inductive YardOrder where
  | info
  | buy (ship : String)
  | sell
  | upgrade (part : String)
  | unknown
  deriving DecidableEq, Repr

/-- A command. -/
inductive Command where
  | scan
  | move (target : Int)
  | trade (side : Option TradeSide) (commodity : Option Commodity) (quantity : Int)
  | planet (order : PlanetOrder)
  | corp (order : CorpOrder)
  | mine (order : MineOrder)
  | shipyard (order : YardOrder)
  | market (filter : Option Commodity)
  | route (filter : Option Commodity)
  | events
  | rankings
  | season
  | help
  | unknown
  deriving DecidableEq, Repr

/-- The side that an action names. -/
def TradeSide.ofAction? (action : String) : Option TradeSide :=
  match action with
  | "BUY" => some .buy
  | "SELL" => some .sell
  | _ => none

/-- The planet order of a normalized request. -/
def PlanetOrder.ofRequest (request : Request) : PlanetOrder :=
  let commodity := Commodity.ofCode? request.commodity
  match request.action with
  | "" => .info
  | "INFO" => .info
  | "COLONIZE" => .colonize request.name
  | "LOAD" => .load commodity request.quantity
  | "UNLOAD" => .unload commodity request.quantity
  | "UPGRADE_CITADEL" => .upgradeCitadel
  | "UPGRADE" => if Text.sameAscii request.name "CITADEL" then .upgradeCitadel else .unknown
  | _ => .unknown

/-- The corporation order of a normalized request. -/
def CorpOrder.ofRequest (request : Request) : CorpOrder :=
  match request.action with
  | "" => .info
  | "INFO" => .info
  | "CREATE" => .create request.name
  | "JOIN" => .join request.name
  | "LEAVE" => .leave
  | "SAY" => .say request.text
  | "DEPOSIT" => .deposit request.quantity
  | "WITHDRAW" => .withdraw request.quantity
  | _ => .unknown

/-- The mine order of a normalized request. -/
def MineOrder.ofRequest (request : Request) : MineOrder :=
  match request.action with
  | "" => .info
  | "INFO" => .info
  | "DEPLOY" => .deploy request.quantity
  | "SWEEP" => .sweep
  | _ => .unknown

/-- The shipyard order of a normalized request; ships and upgrades are named in any case. -/
def YardOrder.ofRequest (request : Request) : YardOrder :=
  match request.action with
  | "" => .info
  | "INFO" => .info
  | "BUY" => .buy (Text.upper request.name)
  | "SELL" => .sell
  | "UPGRADE" => .upgrade (Text.upper request.name)
  | _ => .unknown

namespace Command

/-- The command of a normalized request. -/
def ofNormalized (request : Request) : Command :=
  let commodity := Commodity.ofCode? request.commodity
  match request.kind with
  | "SCAN" => .scan
  | "MOVE" => .move request.target
  | "TRADE" => .trade (TradeSide.ofAction? request.action) commodity request.quantity
  | "PLANET" => .planet (.ofRequest request)
  | "CORP" => .corp (.ofRequest request)
  | "MINE" => .mine (.ofRequest request)
  | "SHIPYARD" => .shipyard (.ofRequest request)
  | "MARKET" => .market commodity
  | "ROUTE" => .route commodity
  | "EVENTS" => .events
  | "RANKINGS" => .rankings
  | "SEASON" => .season
  | "HELP" => .help
  | _ => .unknown

/-- The command of a request. -/
def ofRequest (request : Request) : Command :=
  ofNormalized request.normalized

/-- The turns that a command costs. -/
def turnCost : Command → Nat
  | scan | move _ | trade _ _ _ => 1
  | planet (.colonize _) => 5
  | planet (.load _ _) | planet (.unload _ _) => 1
  | planet .upgradeCitadel => 2
  | mine (.deploy _) | mine .sweep => 1
  | _ => 0

/-- The upper-case code of the command's type. -/
def kindCode : Command → String
  | scan => "SCAN"
  | move _ => "MOVE"
  | trade _ _ _ => "TRADE"
  | planet _ => "PLANET"
  | corp _ => "CORP"
  | mine _ => "MINE"
  | shipyard _ => "SHIPYARD"
  | market _ => "MARKET"
  | route _ => "ROUTE"
  | events => "EVENTS"
  | rankings => "RANKINGS"
  | season => "SEASON"
  | help => "HELP"
  | unknown => "UNKNOWN"

/-- The upper-case code of the command's action; empty for a command without one. -/
def actionCode : Command → String
  | trade (some .buy) _ _ => "BUY"
  | trade (some .sell) _ _ => "SELL"
  | planet .info => "INFO"
  | planet (.colonize _) => "COLONIZE"
  | planet (.load _ _) => "LOAD"
  | planet (.unload _ _) => "UNLOAD"
  | planet .upgradeCitadel => "UPGRADE_CITADEL"
  | corp .info => "INFO"
  | corp (.create _) => "CREATE"
  | corp (.join _) => "JOIN"
  | corp .leave => "LEAVE"
  | corp (.say _) => "SAY"
  | corp (.deposit _) => "DEPOSIT"
  | corp (.withdraw _) => "WITHDRAW"
  | mine .info => "INFO"
  | mine (.deploy _) => "DEPLOY"
  | mine .sweep => "SWEEP"
  | shipyard .info => "INFO"
  | shipyard (.buy _) => "BUY"
  | shipyard .sell => "SELL"
  | shipyard (.upgrade _) => "UPGRADE"
  | _ => ""

/-- The reference of all commands. -/
def helpText : String :=
  "\n".intercalate [
    "Core: SCAN | MOVE \x7bto\x7d | TRADE \x7bBUY|SELL\x7d \x7bORE|ORGANICS|EQUIPMENT\x7d " ++
      "\x7bqty\x7d",
    "Planets: PLANET INFO | PLANET COLONIZE [name] | PLANET LOAD \x7bcommodity\x7d \x7bqty\x7d " ++
      "| PLANET UNLOAD \x7bcommodity\x7d \x7bqty\x7d | PLANET UPGRADE CITADEL",
    "Corporations: CORP INFO | CORP CREATE \x7bname\x7d | CORP JOIN \x7bname\x7d | CORP LEAVE " ++
      "| CORP SAY \x7bmessage\x7d | CORP DEPOSIT \x7bcredits\x7d | CORP WITHDRAW \x7bcredits\x7d",
    "Mines: MINE DEPLOY \x7bqty\x7d | MINE SWEEP",
    "Shipyard: SHIPYARD | SHIPYARD BUY \x7bSCOUT|TRADER|FREIGHTER|INTERCEPTOR\x7d " ++
      "| SHIPYARD SELL | SHIPYARD UPGRADE \x7bCARGO|TURNS\x7d",
    "Standings: RANKINGS | SEASON",
    "Intel: MARKET [ORE|ORGANICS|EQUIPMENT] | ROUTE [ORE|ORGANICS|EQUIPMENT] | EVENTS"]

end Command

end Starlane
