import Starlane.Identity

/-!
# Charts

The part of the warp map that a player has discovered, and the number of hops to each sector.
-/

namespace Starlane

/-- The discovered sectors, and the warps with both ends among them. -/
structure Chart where
  sectors : List SectorId
  warps : List (SectorId × SectorId)
  deriving DecidableEq, Repr

namespace Chart

/-- The chart of some discovered sectors: warps with an unknown end are left out. -/
def ofDiscovered (sectors : List SectorId) (warps : List (SectorId × SectorId)) : Chart :=
  ⟨sectors, warps.filter fun warp => sectors.contains warp.1 && sectors.contains warp.2⟩

/-- The sectors one hop away. -/
def neighbours (chart : Chart) (sector : SectorId) : List SectorId :=
  (chart.warps.filter fun warp => warp.1 == sector).map (·.2)

/-- The sectors one hop from a layer that have not been seen. -/
def nextLayer (chart : Chart) (seen layer : List SectorId) : List SectorId :=
  ((layer.flatMap chart.neighbours).filter fun sector => !seen.contains sector).eraseDups

/-- The layers beyond the given one, each with its number of hops.  Every layer but an empty one
uses up sectors of the chart, which bounds the number of rounds. -/
def layersFrom (chart : Chart) : Nat → List SectorId → List SectorId → Nat → List (SectorId × Nat)
  | 0, _, _, _ => []
  | rounds + 1, seen, layer, hops =>
    let next := chart.nextLayer seen layer
    if next.isEmpty then []
    else
      next.map (fun sector => (sector, hops + 1)) ++
        chart.layersFrom rounds (next ++ seen) next (hops + 1)

/-- The sectors within reach of a start, nearest first, each with its number of hops. -/
def distances (chart : Chart) (start : SectorId) : List (SectorId × Nat) :=
  (start, 0) :: chart.layersFrom chart.sectors.length [start] [start] 0

end Chart

end Starlane
