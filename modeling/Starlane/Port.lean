import Starlane.Commodity
import Starlane.Identity

/-!
# Sectors and ports
-/

namespace Starlane

/-- A place in space. -/
structure Sector where
  id : SectorId
  name : String
  isProtectorate : Bool
  fighters : Nat
  deriving DecidableEq, Repr

/-- The side that a port takes for a commodity: it buys from players or sells to them. -/
inductive TradeMode where
  | buy
  | sell
  deriving DecidableEq, Repr

namespace TradeMode

/-- Both modes. -/
def all : List TradeMode :=
  [buy, sell]

/-- The upper-case code. -/
def code : TradeMode → String
  | buy => "BUY"
  | sell => "SELL"

/-- The mode of an upper-case code. -/
def ofCode? (code : String) : Option TradeMode :=
  all.find? fun mode => mode.code == code

@[simp] theorem ofCode?_code (mode : TradeMode) : ofCode? mode.code = some mode := by
  cases mode <;> decide

end TradeMode

/-- A port's stock of one commodity. -/
structure Stock where
  mode : TradeMode
  qty : Nat
  baseQty : Nat
  basePrice : Nat
  regen : Nat
  deriving DecidableEq, Repr

/-- A port: its sector and its stocks. -/
structure Port where
  sector : SectorId
  stocks : Goods Stock
  deriving DecidableEq, Repr

namespace Port

/-- The stock of a commodity. -/
def stock (port : Port) (c : Commodity) : Stock :=
  port.stocks.get c

/-- The port with another quantity of a commodity in stock. -/
def setQty (port : Port) (c : Commodity) (qty : Nat) : Port :=
  { port with stocks := port.stocks.set c { port.stock c with qty } }

end Port

/-- One restocking round: the stock grows by its rate and stops at its base quantity. -/
def Stock.restock (stock : Stock) : Stock :=
  { stock with qty := min (addCapped stock.qty stock.regen) stock.baseQty }

/-- One restocking round of every commodity. -/
def Port.restock (port : Port) : Port :=
  { port with stocks := port.stocks.map Stock.restock }

end Starlane
