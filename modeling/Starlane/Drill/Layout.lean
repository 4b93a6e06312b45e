import Starlane.Universe

/-!
# The universe of the drill

Eight sectors, two of them protectorates, ten links and four ports.
-/

namespace Starlane.Drill

/-- A sector without protection. -/
def openSector (id : SectorId) (name : String) : Sector :=
  ⟨id, name, false, 0⟩

/-- A link both ways. -/
def twoWay (source target : SectorId) : WarpLink :=
  ⟨source, target, false⟩

/-- A stock that the port sells and that is full. -/
def fullStock (qty basePrice regen : Nat) : Stock :=
  ⟨.sell, qty, qty, basePrice, regen⟩

/-- A stock that the port buys. -/
def demand (qty baseQty basePrice regen : Nat) : Stock :=
  ⟨.buy, qty, baseQty, basePrice, regen⟩

/-- The universe of the drill. -/
def layout : Universe where
  sectors := [
    ⟨1, "Sol", true, 120⟩,
    openSector 2 "Vega",
    openSector 3 "Rigel",
    openSector 4 "Altair",
    openSector 5 "Deneb",
    ⟨6, "Sirius", true, 80⟩,
    openSector 7 "Antares",
    openSector 8 "Polaris"]
  warps := [
    twoWay 1 2, twoWay 2 3, twoWay 2 4, twoWay 3 5, twoWay 4 5, twoWay 4 7, twoWay 5 6,
    twoWay 6 7, twoWay 7 8, ⟨8, 1, true⟩]
  ports := [
    ⟨2, ⟨fullStock 1000 10 25, demand 300 1000 16 20, demand 200 600 32 10⟩⟩,
    ⟨3, ⟨demand 200 1000 12 20, fullStock 800 14 20, fullStock 400 28 8⟩⟩,
    ⟨5, ⟨demand 100 1200 11 30, demand 250 900 15 20, fullStock 500 30 10⟩⟩,
    ⟨7, ⟨fullStock 900 9 20, fullStock 700 13 15, demand 100 700 34 12⟩⟩]

end Starlane.Drill
