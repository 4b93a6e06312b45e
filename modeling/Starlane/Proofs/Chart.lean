import Starlane.Route

/-!
# Distances on a chart

How far a sector is depends on which warps a chart has, not on their order or
number. Two charts with the same sectors and the same warps suggest the same
routes. The number of hops to a sector is that of a shortest walk there.
-/

namespace Starlane

namespace Chart

variable {chart other : Chart}

/-- Whether two charts show the same sectors and warps. -/
structure Alike (chart other : Chart) : Prop where
  sectors : other.sectors = chart.sectors
  warps : ∀ warp, warp ∈ other.warps ↔ warp ∈ chart.warps

theorem mem_neighbours {source target : SectorId} :
    target ∈ chart.neighbours source ↔ (source, target) ∈ chart.warps := by
  unfold neighbours
  simp only [List.mem_map, List.mem_filter, beq_iff_eq]
  constructor
  · rintro ⟨warp, ⟨listed, rfl⟩, rfl⟩
    exact listed
  · intro listed
    exact ⟨_, ⟨listed, rfl⟩, rfl⟩

theorem mem_nextLayer {seen layer : List SectorId} {sector : SectorId} :
    sector ∈ chart.nextLayer seen layer ↔
      (∃ source ∈ layer, (source, sector) ∈ chart.warps) ∧ sector ∉ seen := by
  unfold nextLayer
  rw [List.mem_eraseDups, List.mem_filter, List.mem_flatMap]
  simp only [mem_neighbours, Bool.not_eq_true', ← Bool.not_eq_true, List.contains_iff_mem]

/-- A sector of a layer is as far as the layer. -/
theorem lookup_layer (layer : List SectorId) (hops : Nat) (beyond : List (SectorId × Nat))
    (sector : SectorId) :
    (layer.map (fun sector => (sector, hops)) ++ beyond).lookup sector =
      if sector ∈ layer then some hops else beyond.lookup sector := by
  induction layer with
  | nil => simp
  | cons first rest ih =>
    rw [List.map_cons, List.cons_append, List.lookup_cons, ih]
    by_cases same : sector = first
    · simp [same]
    · have differ : (sector == first) = false := beq_eq_false_iff_ne.mpr same
      simp [same, differ]

/-- On alike charts the layers beyond layers of the same sectors are at the same
distances. -/
theorem Alike.layersFrom (alike : chart.Alike other) (rounds : Nat)
    {seen seen' layer layer' : List SectorId} (hops : Nat)
    (sameSeen : ∀ sector, sector ∈ seen' ↔ sector ∈ seen)
    (sameLayer : ∀ sector, sector ∈ layer' ↔ sector ∈ layer) (sector : SectorId) :
    (other.layersFrom rounds seen' layer' hops).lookup sector =
      (chart.layersFrom rounds seen layer hops).lookup sector := by
  induction rounds generalizing seen seen' layer layer' hops with
  | zero => rfl
  | succ rounds ih =>
    have next : ∀ sector, sector ∈ other.nextLayer seen' layer' ↔
        sector ∈ chart.nextLayer seen layer := by
      intro sector
      simp only [mem_nextLayer, sameSeen, sameLayer, alike.warps]
    have blank : (other.nextLayer seen' layer').isEmpty =
        (chart.nextLayer seen layer).isEmpty := by
      rw [Bool.eq_iff_iff, List.isEmpty_iff, List.isEmpty_iff, List.eq_nil_iff_forall_not_mem,
        List.eq_nil_iff_forall_not_mem]
      simp only [next]
    simp only [Chart.layersFrom, blank]
    split
    · rfl
    · have grown : ∀ sector, sector ∈ other.nextLayer seen' layer' ++ seen' ↔
          sector ∈ chart.nextLayer seen layer ++ seen := by
        simp only [List.mem_append, next, sameSeen, implies_true]
      rw [lookup_layer, lookup_layer, ih (hops + 1) grown next]
      simp only [next]

theorem Alike.distances (alike : chart.Alike other) (start sector : SectorId) :
    (other.distances start).lookup sector = (chart.distances start).lookup sector := by
  have layers := @Alike.layersFrom _ _ alike chart.sectors.length [start] [start] [start] [start] 0
    (fun _ => Iff.rfl) (fun _ => Iff.rfl) sector
  rw [Chart.distances, Chart.distances, List.lookup_cons, List.lookup_cons, alike.sectors, layers]

/-- The charts of a set of warps, listed in any order. -/
theorem alike_ofDiscovered {sectors : List SectorId} {warps warps' : List (SectorId × SectorId)}
    (same : ∀ warp, warp ∈ warps' ↔ warp ∈ warps) :
    (ofDiscovered sectors warps).Alike (ofDiscovered sectors warps') where
  sectors := rfl
  warps warp := by
    simp only [ofDiscovered, List.mem_filter, same]

/-- The walks along the warps of a chart, each with its number of hops. -/
inductive Walk (chart : Chart) (start : SectorId) : Nat → SectorId → Prop
  | here : Walk chart start 0 start
  | hop {hops : Nat} {source target : SectorId} (walk : Walk chart start hops source)
      (warp : (source, target) ∈ chart.warps) : Walk chart start (hops + 1) target

/-- A walk to another sector leaves its start along a warp. -/
theorem Walk.leaves {chart : Chart} {start target : SectorId} {hops : Nat}
    (walk : chart.Walk start hops target) (elsewhere : target ≠ start) :
    ∃ next, (start, next) ∈ chart.warps := by
  induction walk with
  | here => exact absurd rfl elsewhere
  | @hop hops source target _ warp ih =>
    by_cases first : source = start
    · exact ⟨target, first ▸ warp⟩
    · exact ih first

/-- A walk to another sector arrives there along a warp. -/
theorem Walk.arrives {chart : Chart} {start target : SectorId} {hops : Nat}
    (walk : chart.Walk start hops target) (elsewhere : target ≠ start) :
    ∃ previous, (previous, target) ∈ chart.warps := by
  cases walk with
  | here => exact absurd rfl elsewhere
  | hop _ warp => exact ⟨_, warp⟩

/-- Whether a sector takes so many hops, and not fewer. -/
structure Away (chart : Chart) (start : SectorId) (hops : Nat) (sector : SectorId) : Prop where
  walk : chart.Walk start hops sector
  shortest : ∀ others, chart.Walk start others sector → hops ≤ others

/-- Whether a search that went so many hops has seen everything up to there: the
last layer is that far away, and the warps from all earlier ones were followed. -/
structure Surveyed (chart : Chart) (start : SectorId) (seen layer : List SectorId) (hops : Nat) :
    Prop where
  reached : ∀ sector ∈ layer, chart.Walk start hops sector
  near : ∀ {fewer sector}, chart.Walk start fewer sector → fewer ≤ hops → sector ∈ seen
  followed : ∀ source ∈ seen, source ∉ layer →
    ∀ target, (source, target) ∈ chart.warps → target ∈ seen

variable {start : SectorId} {seen layer : List SectorId} {hops : Nat}

theorem Surveyed.outset : chart.Surveyed start [start] [start] 0 where
  reached sector member := by
    rw [List.mem_singleton.mp member]
    exact .here
  near walk none := by
    cases walk with
    | here => exact .head _
    | hop => omega
  followed source member outside := absurd member outside

/-- A warp from what has been seen leads to what has been seen or is next. -/
theorem Surveyed.beyond (surveyed : chart.Surveyed start seen layer hops) {source target : SectorId}
    (member : source ∈ seen) (warp : (source, target) ∈ chart.warps) :
    target ∈ chart.nextLayer seen layer ++ seen := by
  by_cases known : target ∈ seen
  · exact List.mem_append_right _ known
  · refine List.mem_append_left _ (mem_nextLayer.mpr ⟨⟨source, ?_, warp⟩, known⟩)
    refine Decidable.byContradiction fun outside => ?_
    exact known (surveyed.followed source member outside target warp)

/-- The search goes on with the next layer. -/
theorem Surveyed.next (surveyed : chart.Surveyed start seen layer hops) :
    chart.Surveyed start (chart.nextLayer seen layer ++ seen) (chart.nextLayer seen layer)
      (hops + 1) where
  reached sector member := by
    obtain ⟨⟨source, among, warp⟩, _⟩ := mem_nextLayer.mp member
    exact .hop (surveyed.reached source among) warp
  near walk few := by
    cases walk with
    | here => exact List.mem_append_right _ (surveyed.near .here (Nat.zero_le _))
    | hop walk warp => exact surveyed.beyond (surveyed.near walk (by omega)) warp
  followed source member outside target warp := by
    rcases List.mem_append.mp member with inside | earlier
    · exact absurd inside outside
    · exact surveyed.beyond earlier warp

/-- The layers beyond those surveyed are as far away as they say. -/
theorem Surveyed.away (surveyed : chart.Surveyed start seen layer hops) (rounds : Nat)
    {sector : SectorId} {distance : Nat}
    (found : (chart.layersFrom rounds seen layer hops).lookup sector = some distance) :
    chart.Away start distance sector := by
  induction rounds generalizing seen layer hops with
  | zero => cases found
  | succ rounds ih =>
    unfold Chart.layersFrom at found
    dsimp only at found
    split at found
    · cases found
    · rw [lookup_layer] at found
      split at found
      · next member =>
        cases found
        refine ⟨surveyed.next.reached sector member, fun others walk => ?_⟩
        refine Nat.lt_of_not_ge fun fewer => ?_
        exact (mem_nextLayer.mp member).2 (surveyed.near walk fewer)
      · exact ih surveyed.next found

/-- The distance of a sector is that of a shortest walk. -/
theorem distances_away {sector : SectorId} {distance : Nat}
    (found : (chart.distances start).lookup sector = some distance) :
    chart.Away start distance sector := by
  unfold distances at found
  rw [List.lookup_cons] at found
  split at found
  · next here =>
    cases found
    rw [eq_of_beq here]
    exact ⟨.here, fun _ _ => Nat.zero_le _⟩
  · exact Surveyed.outset.away _ found

/-- Only warps between discovered sectors are on the chart. -/
theorem mem_ofDiscovered {sectors : List SectorId} {warps : List (SectorId × SectorId)}
    {source target : SectorId} : (source, target) ∈ (ofDiscovered sectors warps).warps ↔
      (source, target) ∈ warps ∧ source ∈ sectors ∧ target ∈ sectors := by
  simp [ofDiscovered]

end Chart

/-- Alike charts give the same report. -/
theorem Route.report_congr {chart other : Chart} (alike : chart.Alike other) (now : Int)
    (current : SectorId) (cargoMax : Nat) (list : List Intel) (filter : Option Commodity) :
    report now current cargoMax other list filter =
      report now current cargoMax chart list filter := by
  have trips : candidates now current cargoMax other list filter =
      candidates now current cargoMax chart list filter := by
    simp only [candidates, alike.distances]
  simp only [report, best?, trips]

end Starlane
