/-!
# Ships

The catalogue of hulls and the prices of the shipyard.
-/

namespace Starlane

/-- A class of hull. -/
inductive Ship where
  | scout
  | trader
  | freighter
  | interceptor
  deriving DecidableEq, Repr

namespace Ship

/-- The catalogue, in listing order. -/
def all : List Ship :=
  [scout, trader, freighter, interceptor]

/-- The upper-case code. -/
def code : Ship → String
  | scout => "SCOUT"
  | trader => "TRADER"
  | freighter => "FREIGHTER"
  | interceptor => "INTERCEPTOR"

/-- The hull of an upper-case code. -/
def ofCode? (code : String) : Option Ship :=
  all.find? fun ship => ship.code == code

/-- The cargo space of a new hull. -/
def cargoMax : Ship → Nat
  | scout => 30
  | trader => 60
  | freighter => 90
  | interceptor => 40

/-- The turns that a new hull stores. -/
def turnsMax : Ship → Nat
  | scout => 100
  | trader => 110
  | freighter => 110
  | interceptor => 140

/-- The catalogue price. -/
def price : Ship → Int
  | scout => 0
  | trader => 25000
  | freighter => 60000
  | interceptor => 50000

/-- What the shipyard pays for the hull: seven tenths of its price. -/
def resale (ship : Ship) : Int :=
  ship.price * 70 / 100

@[simp] theorem ofCode?_code (ship : Ship) : ofCode? ship.code = some ship := by
  cases ship <;> decide

end Ship

/-- The most cargo upgrades that a hull takes. -/
def cargoUpgradesMax : Nat := 20

/-- The most turn upgrades that a hull takes. -/
def turnUpgradesMax : Nat := 10

/-- The cargo space of one upgrade. -/
def cargoPerUpgrade : Nat := 5

/-- The stored turns of one upgrade. -/
def turnsPerUpgrade : Nat := 10

/-- The price of the next cargo upgrade. -/
def cargoUpgradeCost (done : Nat) : Int :=
  2000 * (done + 1)

/-- The price of the next turn upgrade. -/
def turnUpgradeCost (done : Nat) : Int :=
  1500 * (done + 1)

end Starlane
