import Starlane.Execution

/-!
# Numbers that overflow

Most sums of the game stop at an end of their range.  Those of a trade, of a bank and of the
shipyard do not, nor do the numbers on the way to the score of a route, the differences of times
and what else a command computes for its text: the program ends when one of them leaves the range
of its type, and there is no answer to the request.  Plans compute every number without a bound;
whether the program gets as far as their result is decided here.
-/

namespace Starlane

/-- Whether an integer is an amount. -/
def fitsAmount (x : Int) : Bool :=
  decide (amountMin ≤ x ∧ x ≤ amountMax)

/-- Whether a number is a counter. -/
def fitsCounter (n : Nat) : Bool :=
  decide (n ≤ counterMax)

/-- Whether the credits and the capacities of a player are in the range of their types. -/
def Player.fits (player : Player) : Bool :=
  fitsAmount player.credits && fitsCounter player.cargoMax && fitsCounter player.turnsMax

/-- Whether the bank that a write saves, if it saves one, is in the range of its type. -/
def Write.fits : Write → Bool
  | .saveCorp corp => fitsAmount corp.bank
  | _ => true

/-- Whether everything that a command adds up is in the range of its type. -/
def Effects.fits (effects : Effects) : Bool :=
  effects.commander.toPlayer.fits && effects.writes.all Write.fits

/-- Whether a command saves its records before it adds up the player's credits.  A withdrawal
does, so a failing write comes before an overflow; everything else is added up first. -/
def Command.savesFirst : Command → Bool
  | .corp (.withdraw _) => true
  | _ => false

/-- Whether a player's request ends the program with an overflow of what it saves. -/
def Store.overflows {σ : Type} [Store σ] (settings : Settings) (now : Int) (player : PlayerId)
    (request : Request) (store : σ) : Bool :=
  let look := lookup store
  let command := Command.ofRequest request
  match look.commander player with
  | .error _ => false
  | .ok loaded =>
    match command.outcome look now (loaded.regenerate settings.turnRegenSeconds now) with
    | .error _ => false
    | .ok effects =>
      !effects.fits && (!command.savesFirst || (writeAll effects.writes store).1.isOk)

/-! ## Numbers on the way to a text -/

/-- An integer, if it is an amount. -/
def amount? (x : Int) : Option Int :=
  if fitsAmount x then some x else none

/-- A number, if it is a counter. -/
def counter? (n : Nat) : Option Nat :=
  if fitsCounter n then some n else none

namespace Route

/-- The score of a trip, number by number; none where one of them leaves the range of its type.
Both divisions drop what is behind the point. -/
def score? (route : Route) (now : Int) : Option Int := do
  let perUnit ← amount? (route.sellPrice - route.buyPrice)
  let moves ← counter? (route.movesToBuy + route.movesBuyToSell)
  let turns ← counter? (moves + 2)
  let perTrip ← amount? (perUnit * route.qty)
  let raised ← amount? (perTrip * 1000)
  let perTurn ← amount? (raised.tdiv turns)
  let buyAge ← amount? (now - route.buyScannedAt)
  let sellAge ← amount? (now - route.sellScannedAt)
  let weighed ← amount? (perTurn * freshness (max buyAge sellAge))
  amount? (weighed.tdiv 1000)

/-- Whether the comparison of two scans ends the program with an overflow.  What a unit earns is
computed for any two ports within reach, and the score if it earns anything. -/
def pairOverflows (now : Int) (cargoMax : Nat) (c : Commodity) (seller buyer : Intel)
    (firstLeg secondLeg : Option Nat) : Bool :=
  firstLeg.isSome && secondLeg.isSome && buyer.sector != seller.sector &&
    (!fitsAmount ((buyer.quote c).price - (seller.quote c).price) ||
      (candidate? now cargoMax c seller buyer firstLeg secondLeg).any fun route =>
        (route.score? now).isNone)

/-- Whether the search for the best trip ends the program with an overflow. -/
def overflows (now : Int) (current : SectorId) (cargoMax : Nat) (chart : Chart)
    (list : List Intel) (filter : Option Commodity) : Bool :=
  let fromHere := chart.distances current
  (Market.admitted filter).any fun c =>
    (sellers list c).any fun seller =>
      let fromThere := chart.distances seller.sector
      (buyers list c).any fun buyer =>
        pairOverflows now cargoMax c seller buyer (fromHere.lookup seller.sector)
          (fromThere.lookup buyer.sector)

end Route

/-- Whether the numbers in the line of a commodity are in the range of their types. -/
def Market.fits (market : Market) (now : Int) : Bool :=
  match market.cheapestSeller, market.bestBuyer with
  | some seller, some buyer =>
    fitsAmount (buyer.price - seller.price) && fitsAmount (now - seller.scannedAt) &&
      fitsAmount (now - buyer.scannedAt)
  | _, _ => true

/-- Whether the report on the market ends the program with an overflow. -/
def Market.overflows (now : Int) (list : List Intel) (filter : Option Commodity) : Bool :=
  (admitted filter).any fun c => !(summarize list c).fits now

/-- Whether what a command computes for its text is in the range of its type. -/
def Command.textFits (look : Lookup) (now : Int) (commander : Commander) : Command → Bool
  | .move target =>
    match (Plan.destination? target).map fun there => look.event there now with
    | some (.ok (some event)) => event.kind == .invasion || fitsAmount (event.endsAt - now)
    | _ => true
  | .shipyard .info =>
    fitsCounter (commander.cargoUpgrades * cargoPerUpgrade) &&
      fitsCounter (commander.turnUpgrades * turnsPerUpgrade)
  | .market filter =>
    match look.intel commander.id with
    | .ok intel => !Market.overflows now intel filter
    | .error _ => true
  | .route filter =>
    let known := look.discovered commander.id
    let chart := Chart.ofDiscovered known (look.warpsAmong known)
    match look.intel commander.id with
    | .ok intel =>
      !Route.overflows now commander.sector commander.cargoMax chart intel filter
    | .error _ => true
  | .events =>
    match look.events now with
    | .ok active =>
      (Plan.visible look commander active).all fun event => fitsAmount (event.endsAt - now)
    | .error _ => true
  | _ => true

/-- Whether the time since the last grant of turns, if there was one, is an amount. -/
def Player.grantFits (player : Player) (now : Int) : Bool :=
  player.regenStamp.all fun stamp => fitsAmount (now - stamp)

/-- Whether a player's request ends the program with an overflow: in the grant of turns, in what
it saves, or in what it tells. -/
def Store.aborts {σ : Type} [Store σ] (settings : Settings) (now : Int) (player : PlayerId)
    (request : Request) (store : σ) : Bool :=
  let look := lookup store
  let command := Command.ofRequest request
  match look.commander player with
  | .error _ => false
  | .ok loaded =>
    let commander := loaded.regenerate settings.turnRegenSeconds now
    !loaded.grantFits now || overflows settings now player request store ||
      ((command.outcome look now commander).isOk && !command.textFits look now commander &&
        (writeAll (command.opening now commander) store).1.isOk)

end Starlane
