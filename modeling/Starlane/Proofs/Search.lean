import Mathlib.Data.List.Chain
import Mathlib.Data.List.Induction
import Mathlib.Data.Nat.Find
import Starlane.Proofs.Chart
import Starlane.Proofs.Reordered

/-!
# Searching a chart

Each layer of a search uses up sectors of the chart, so there are enough rounds for
all of them, and what is found are exactly the sectors that some way leads to, with
the number of hops of a shortest one. To take one sector after the other off a queue,
until it is empty, comes to the same.
-/

namespace Starlane

/-- A list has fewer elements of a narrower kind if one of them is not of it. -/
theorem countP_lt_of_mem {α : Type} {p q : α → Bool} {list : List α} {a : α} (listed : a ∈ list)
    (narrower : ∀ b, p b = true → q b = true) (without : p a = false) (within : q a = true) :
    list.countP p < list.countP q := by
  induction list with
  | nil => cases listed
  | cons first rest ih =>
    have fewer : rest.countP p ≤ rest.countP q := List.countP_mono_left fun b _ => narrower b
    rw [List.countP_cons, List.countP_cons]
    rcases List.mem_cons.mp listed with rfl | later
    · rw [without, within]
      simp only [Bool.false_eq_true, if_false, if_true]
      omega
    · have less := ih later
      by_cases narrow : p first = true
      · rw [if_pos narrow, if_pos (narrower first narrow)]
        omega
      · rw [if_neg narrow]
        omega

namespace Chart

variable {chart : Chart} {start sector : SectorId} {hops : Nat}

/-- A sector has one distance only. -/
theorem Away.unique {other : Nat} (one : chart.Away start hops sector)
    (another : chart.Away start other sector) : hops = other :=
  Nat.le_antisymm (one.shortest _ another.walk) (another.shortest _ one.walk)

/-- Where a walk leads, a shortest one does. -/
theorem Walk.away (walk : chart.Walk start hops sector) :
    ∃ least, chart.Away start least sector := by
  classical
  have some : ∃ hops, chart.Walk start hops sector := ⟨hops, walk⟩
  exact ⟨Nat.find some, Nat.find_spec some, fun _ other => Nat.find_min' some other⟩

/-- Whether the warps of a chart connect its sectors only. -/
def Closed (chart : Chart) : Prop :=
  ∀ source target, (source, target) ∈ chart.warps →
    source ∈ chart.sectors ∧ target ∈ chart.sectors

theorem closed_ofDiscovered (sectors : List SectorId) (warps : List (SectorId × SectorId)) :
    (ofDiscovered sectors warps).Closed :=
  fun _ _ drawn => (mem_ofDiscovered.mp drawn).2

section Layers

variable {seen layer : List SectorId}

/-- How many sectors of a chart have not been seen. -/
def unseen (chart : Chart) (seen : List SectorId) : Nat :=
  chart.sectors.countP fun sector => !seen.contains sector

/-- What is next has not been seen, and is seen then. -/
theorem Closed.unseen_lt (closed : chart.Closed) (next : sector ∈ chart.nextLayer seen layer) :
    chart.unseen (chart.nextLayer seen layer ++ seen) < chart.unseen seen := by
  obtain ⟨⟨source, _, warp⟩, new⟩ := mem_nextLayer.mp next
  refine countP_lt_of_mem (closed source sector warp).2 (fun other => ?_) ?_ ?_
  · simp only [Bool.not_eq_true', ← Bool.not_eq_true, List.contains_iff_mem, List.mem_append]
    exact mt .inr
  · simp [next]
  · simpa using new

/-- Once nothing is next, every walk stays with what has been seen. -/
theorem Surveyed.finished (surveyed : chart.Surveyed start seen layer hops)
    (nothing : chart.nextLayer seen layer = []) {far : Nat} (walk : chart.Walk start far sector) :
    sector ∈ seen := by
  induction walk with
  | here => exact surveyed.near .here (Nat.zero_le _)
  | hop _ warp ih =>
    have further := surveyed.beyond ih warp
    rw [nothing] at further
    exact further

/-- With as many rounds left as there are sectors unseen, the search gets to the end
of every walk. -/
theorem Surveyed.complete (surveyed : chart.Surveyed start seen layer hops) (closed : chart.Closed)
    {rounds : Nat} (enough : chart.unseen seen ≤ rounds) {far : Nat}
    (walk : chart.Walk start far sector) :
    sector ∈ seen ∨ ∃ distance,
      (chart.layersFrom rounds seen layer hops).lookup sector = some distance := by
  induction rounds generalizing seen layer hops with
  | zero =>
    refine .inl (surveyed.finished (List.eq_nil_iff_forall_not_mem.mpr fun other next => ?_) walk)
    have fewer := closed.unseen_lt next
    omega
  | succ rounds ih =>
    by_cases nothing : chart.nextLayer seen layer = []
    · exact .inl (surveyed.finished nothing walk)
    · obtain ⟨other, next⟩ := List.exists_mem_of_ne_nil _ nothing
      have fewer := closed.unseen_lt next
      unfold Chart.layersFrom
      dsimp only
      rw [if_neg (by simpa using nothing), lookup_layer]
      rcases ih surveyed.next (by omega) with visited | ⟨distance, found⟩
      · rcases List.mem_append.mp visited with reached | earlier
        · exact .inr ⟨hops + 1, if_pos reached⟩
        · exact .inl earlier
      · split
        · exact .inr ⟨hops + 1, rfl⟩
        · exact .inr ⟨distance, found⟩

/-- The layers list sectors that have not been seen, each once. -/
theorem layersFrom_apart (chart : Chart) (rounds : Nat) (seen layer : List SectorId) (hops : Nat) :
    ((chart.layersFrom rounds seen layer hops).map (·.1)).Nodup ∧
      ∀ entry ∈ chart.layersFrom rounds seen layer hops, entry.1 ∉ seen := by
  induction rounds generalizing seen layer hops with
  | zero => exact ⟨.nil, fun _ listed => absurd listed List.not_mem_nil⟩
  | succ rounds ih =>
    unfold Chart.layersFrom
    dsimp only
    split
    · exact ⟨.nil, fun _ listed => absurd listed List.not_mem_nil⟩
    · obtain ⟨single, beyond⟩ := ih (chart.nextLayer seen layer ++ seen)
        (chart.nextLayer seen layer) (hops + 1)
      constructor
      · rw [List.map_append, List.map_map]
        refine List.nodup_append.mpr ⟨?_, single, ?_⟩
        · exact (List.map_id' _).symm ▸ nodup_eraseDups _
        · rintro sector reached _ later rfl
          obtain ⟨_, next, rfl⟩ := List.mem_map.mp reached
          obtain ⟨entry, listed, same⟩ := List.mem_map.mp later
          exact beyond entry listed (same ▸ List.mem_append_left _ next)
      · intro entry listed
        rcases List.mem_append.mp listed with reached | later
        · obtain ⟨_, next, rfl⟩ := List.mem_map.mp reached
          exact (mem_nextLayer.mp next).2
        · exact fun earlier => beyond entry later (List.mem_append_right _ earlier)

end Layers

/-- Every sector that a walk leads to is within reach. -/
theorem Closed.reaches (closed : chart.Closed) (walk : chart.Walk start hops sector) :
    ∃ distance, (chart.distances start).lookup sector = some distance := by
  have enough : chart.unseen [start] ≤ chart.sectors.length := List.countP_le_length
  unfold distances
  rw [List.lookup_cons]
  split
  · exact ⟨0, rfl⟩
  · next elsewhere =>
    refine (Surveyed.outset.complete closed enough walk).resolve_left fun here => ?_
    simp [List.mem_singleton.mp here] at elsewhere

/-- The distances are those of shortest walks, to wherever there is one. -/
theorem Closed.distances_iff (closed : chart.Closed) :
    (chart.distances start).lookup sector = some hops ↔ chart.Away start hops sector := by
  refine ⟨distances_away, fun away => ?_⟩
  obtain ⟨distance, found⟩ := closed.reaches away.walk
  rw [found, away.unique (distances_away found)]

/-- A sector has one entry only. -/
theorem distances_single (chart : Chart) (start : SectorId) :
    ((chart.distances start).map (·.1)).Nodup := by
  obtain ⟨single, beyond⟩ := chart.layersFrom_apart chart.sectors.length [start] [start] 0
  refine List.nodup_cons.mpr ⟨fun listed => ?_, single⟩
  obtain ⟨entry, listed, same⟩ := List.mem_map.mp listed
  exact beyond entry listed (same ▸ .head _)

end Chart

/-- A search that is under way: the distances found so far, and the sectors whose warps
are still to be followed, in the order in which they were found. -/
structure Search where
  found : List (SectorId × Nat)
  queue : List SectorId

namespace Search

variable {chart : Chart} {start sector : SectorId} {search : Search} {hops : Nat}
  {targets : List SectorId}

/-- The search before its first step. -/
def outset (start : SectorId) : Search :=
  ⟨[(start, 0)], [start]⟩

/-- The search after a warp from a sector so many hops away. If it leads to a sector that
was not found before, that one is found and joins the queue. -/
def follow (hops : Nat) (search : Search) (target : SectorId) : Search :=
  if (search.found.lookup target).isSome then search
  else ⟨search.found ++ [(target, hops + 1)], search.queue ++ [target]⟩

/-- The search after the next sector left the queue and all warps from there were
followed. -/
def advance (chart : Chart) (search : Search) : Search :=
  match search.queue with
  | [] => search
  | next :: rest =>
    let hops := (search.found.lookup next).getD 0
    (chart.neighbours next).foldl (follow hops) { search with queue := rest }

/-- What is left to do: the queue, and the warps that lead to sectors not found yet. -/
def pending (chart : Chart) (search : Search) : Nat :=
  search.queue.length + chart.warps.countP fun warp => (search.found.lookup warp.2).isNone

/-- Whoever joins the queue is found by then, so no more is left to do than before. -/
theorem follow_pending (search : Search) (hops : Nat)
    (leads : ∃ source, (source, sector) ∈ chart.warps) :
    (search.follow hops sector).pending chart ≤ search.pending chart := by
  obtain ⟨source, warp⟩ := leads
  unfold follow
  split
  · exact Nat.le_refl _
  · next new =>
    have fewer : chart.warps.countP (fun warp =>
          ((search.found ++ [(sector, hops + 1)]).lookup warp.2).isNone) <
        chart.warps.countP fun warp => (search.found.lookup warp.2).isNone := by
      refine countP_lt_of_mem warp (fun other unfound => ?_) ?_ ?_
      · rw [List.lookup_append, Option.isNone_iff_eq_none, Option.or_eq_none_iff] at unfound
        rw [unfound.1]
        rfl
      · simp [List.lookup_append]
      · exact Option.isNone_iff_eq_none.mpr (Option.not_isSome_iff_eq_none.mp new)
    simp only [pending, List.length_append, List.length_singleton]
    omega

theorem foldl_follow_pending (hops : Nat)
    (lead : ∀ target ∈ targets, ∃ source, (source, target) ∈ chart.warps) (search : Search) :
    (targets.foldl (follow hops) search).pending chart ≤ search.pending chart := by
  induction targets generalizing search with
  | nil => exact Nat.le_refl _
  | cons first rest ih =>
    have others := ih (fun target later => lead target (.tail _ later)) (search.follow hops first)
    exact Nat.le_trans others (search.follow_pending hops (lead first (.head _)))

/-- Every step leaves less to do. -/
theorem advance_pending (waiting : search.queue ≠ []) :
    (search.advance chart).pending chart < search.pending chart := by
  unfold advance
  cases queue : search.queue with
  | nil => exact absurd queue waiting
  | cons next rest =>
    refine Nat.lt_of_le_of_lt (foldl_follow_pending _ (fun target near => ?_) _) ?_
    · exact ⟨next, Chart.mem_neighbours.mp near⟩
    · simp only [pending, queue, List.length_cons]
      omega

/-- The search carried on until the queue is empty. -/
def run (chart : Chart) (search : Search) : Search :=
  if search.queue = [] then search else run chart (search.advance chart)
termination_by search.pending chart
decreasing_by exact advance_pending ‹_›

/-- To follow several warps is to find the sectors among their ends that were not found
before, and to queue them. -/
theorem foldl_follow (hops : Nat) (targets : List SectorId) (search : Search) :
    ∃ new, targets.foldl (follow hops) search =
        ⟨search.found ++ new.map fun sector => (sector, hops + 1), search.queue ++ new⟩ ∧
      ∀ sector, sector ∈ new ↔ sector ∈ targets ∧ search.found.lookup sector = none := by
  induction targets generalizing search with
  | nil => exact ⟨[], by simp, by simp⟩
  | cons first rest ih =>
    rw [List.foldl_cons, follow]
    split
    · next known =>
      obtain ⟨new, same, members⟩ := ih search
      refine ⟨new, same, fun sector => (members sector).trans ?_⟩
      have other : search.found.lookup sector = none → sector ≠ first := by
        rintro unfound rfl
        simp [unfound] at known
      simp only [List.mem_cons]
      grind
    · next unknown =>
      obtain ⟨new, same, members⟩ := ih
        ⟨search.found ++ [(first, hops + 1)], search.queue ++ [first]⟩
      refine ⟨first :: new, by simp [same], fun sector => ?_⟩
      have unfound : search.found.lookup first = none := Option.not_isSome_iff_eq_none.mp unknown
      rw [List.mem_cons, List.mem_cons, members, List.lookup_append, Option.or_eq_none_iff]
      by_cases here : sector = first
      · simp only [here, unfound, true_or, true_and]
      · simp only [here, List.lookup_cons, beq_eq_false_iff_ne.mpr here, List.lookup_nil,
          false_or, and_true]

/-- A step takes a sector off the queue, finds the ends of its warps that were not found
before, one hop further away, and queues them. -/
theorem advance_next (chart : Chart) {rest : List SectorId} (queue : search.queue = sector :: rest)
    (here : search.found.lookup sector = some hops) :
    ∃ new, (search.advance chart).queue = rest ++ new ∧
      (∀ other, (search.advance chart).found.lookup other =
        (search.found.lookup other).or (if other ∈ new then some (hops + 1) else none)) ∧
      ∀ other, other ∈ new ↔
        (sector, other) ∈ chart.warps ∧ search.found.lookup other = none := by
  obtain ⟨new, same, members⟩ := foldl_follow hops (chart.neighbours sector)
    { search with queue := rest }
  have after : search.advance chart =
      ⟨search.found ++ new.map fun sector => (sector, hops + 1), rest ++ new⟩ := by
    rw [advance, queue]
    dsimp only
    rw [here, Option.getD_some, same]
  rw [after]
  refine ⟨new, rfl, fun other => ?_, fun other => (members other).trans ?_⟩
  · have layer := Chart.lookup_layer new (hops + 1) [] other
    rw [List.append_nil, List.lookup_nil] at layer
    rw [List.lookup_append, layer]
  · rw [Chart.mem_neighbours]

/-- Whether a search has found all that is no more than so many hops away. In the queue
are sectors that far away, and behind them such as are one hop further; the warps from
all others were followed. -/
structure Ordered (chart : Chart) (start : SectorId) (search : Search) (hops : Nat)
    (near far : List SectorId) : Prop where
  queue : search.queue = near ++ far
  near : ∀ sector ∈ near, search.found.lookup sector = some hops
  far : ∀ sector ∈ far, search.found.lookup sector = some (hops + 1)
  away : ∀ {sector distance}, search.found.lookup sector = some distance →
    chart.Away start distance sector
  within : ∀ {sector fewer}, chart.Walk start fewer sector → fewer ≤ hops →
    ∃ distance, search.found.lookup sector = some distance
  followed : ∀ {source target distance}, search.found.lookup source = some distance →
    source ∉ search.queue → (source, target) ∈ chart.warps →
      ∃ distance, search.found.lookup target = some distance

variable {near far : List SectorId}

theorem Ordered.outset : Ordered chart start (outset start) 0 [start] [] where
  queue := rfl
  near sector listed := by
    rw [List.mem_singleton.mp listed]
    exact List.lookup_cons_self
  far _ listed := absurd listed List.not_mem_nil
  away found := by
    simp only [Search.outset, List.lookup_cons, List.lookup_nil] at found
    split at found
    · next here =>
      cases found
      rw [eq_of_beq here]
      exact ⟨.here, fun _ _ => Nat.zero_le _⟩
    · cases found
  within walk none := by
    cases walk with
    | here => exact ⟨0, List.lookup_cons_self⟩
    | hop => omega
  followed found outside := by
    simp only [Search.outset, List.lookup_cons, List.lookup_nil] at found
    split at found
    · next here => exact absurd (List.mem_singleton.mpr (eq_of_beq here)) outside
    · cases found

/-- When no sector that near is left in the queue, the next ones are those one hop
further. -/
theorem Ordered.shift (ordered : Ordered chart start search hops [] far) :
    Ordered chart start search (hops + 1) far [] where
  queue := by rw [ordered.queue, List.nil_append, List.append_nil]
  near := ordered.far
  far _ listed := absurd listed List.not_mem_nil
  away := ordered.away
  within walk few := by
    cases walk with
    | here => exact ordered.within .here (Nat.zero_le _)
    | @hop fewer source _ walk warp =>
      obtain ⟨distance, found⟩ := ordered.within walk (by omega)
      refine ordered.followed found (fun waiting => ?_) warp
      -- A sector in the queue is further away than its own walk is long.
      rw [ordered.queue, List.nil_append] at waiting
      have same := (ordered.far source waiting).symm.trans found
      have short := (ordered.away found).shortest fewer walk
      cases same
      omega
  followed := ordered.followed

/-- A step keeps the order: what it finds goes behind the sectors one hop further. -/
theorem Ordered.advance (ordered : Ordered chart start search hops (sector :: near) far) :
    ∃ new, Ordered chart start (search.advance chart) hops near (far ++ new) := by
  have here : search.found.lookup sector = some hops := ordered.near sector (.head _)
  have waiting : search.queue = sector :: (near ++ far) := ordered.queue
  obtain ⟨new, queue, found, members⟩ := advance_next chart waiting here
  have kept : ∀ {other distance}, search.found.lookup other = some distance →
      (search.advance chart).found.lookup other = some distance := fun {other distance} known => by
    rw [found, known]
    rfl
  refine ⟨new, ?_⟩
  constructor
  case queue => rw [queue, List.append_assoc]
  case near => exact fun other listed => kept (ordered.near other (.tail _ listed))
  case far =>
    intro other listed
    rcases List.mem_append.mp listed with before | added
    · exact kept (ordered.far other before)
    · rw [found, ((members other).mp added).2, if_pos added, Option.none_or]
  case away =>
    intro other distance listed
    rw [found, Option.or_eq_some_iff] at listed
    rcases listed with before | ⟨unfound, listed⟩
    · exact ordered.away before
    · split at listed
      · next added =>
        cases listed
        have warp := ((members other).mp added).1
        refine ⟨.hop (ordered.away here).walk warp, fun others walk => ?_⟩
        refine Nat.lt_of_not_ge fun fewer => ?_
        obtain ⟨_, known⟩ := ordered.within walk fewer
        rw [unfound] at known
        cases known
      · cases listed
  case within =>
    intro other fewer walk few
    obtain ⟨distance, known⟩ := ordered.within walk few
    exact ⟨distance, kept known⟩
  case followed =>
    intro source target distance listed outside warp
    rw [queue] at outside
    rw [found, if_neg fun added => outside (List.mem_append_right _ added), Option.or_none]
      at listed
    rw [found]
    cases reached : search.found.lookup target with
    | some distance => exact ⟨distance, rfl⟩
    | none =>
      -- Only the warps from the sector that leaves the queue lead to new ones.
      have source_eq : source = sector := by
        refine Decidable.byContradiction fun other => ?_
        have absent : source ∉ search.queue := by
          rw [waiting]
          refine fun listed => (List.mem_cons.mp listed).elim other fun later => ?_
          exact outside (List.mem_append_left _ later)
        obtain ⟨_, known⟩ := ordered.followed listed absent warp
        rw [reached] at known
        cases known
      rw [source_eq] at warp
      exact ⟨hops + 1, by rw [if_pos ((members target).mpr ⟨warp, reached⟩)]; rfl⟩

/-- Once the queue is empty, what was found is where walks lead, with its distance. -/
theorem Ordered.finished (ordered : Ordered chart start search hops near far)
    (idle : search.queue = []) {distance : Nat} :
    search.found.lookup sector = some distance ↔ chart.Away start distance sector := by
  refine ⟨ordered.away, fun away => ?_⟩
  have reached : ∃ known, search.found.lookup sector = some known := by
    have walk := away.walk
    clear away
    induction walk with
    | here => exact ordered.within .here (Nat.zero_le _)
    | hop _ warp ih =>
      obtain ⟨known, found⟩ := ih
      exact ordered.followed found (by simp [idle]) warp
  obtain ⟨known, found⟩ := reached
  rw [found, away.unique (ordered.away found)]

/-- A search that is carried on to its end finds exactly the distances. -/
theorem Ordered.run (ordered : Ordered chart start search hops near far) {distance : Nat} :
    (search.run chart).found.lookup sector = some distance ↔
      chart.Away start distance sector := by
  induction search using Search.run.induct chart generalizing hops near far with
  | case1 search idle =>
    rw [Search.run, if_pos idle]
    exact ordered.finished idle
  | case2 search waiting ih =>
    rw [Search.run, if_neg waiting]
    cases near with
    | cons =>
      obtain ⟨_, later⟩ := ordered.advance
      exact ih later
    | nil =>
      cases far with
      | nil => exact absurd ordered.queue waiting
      | cons =>
        obtain ⟨_, later⟩ := ordered.shift.advance
        exact ih later

end Search

/-- The distances as a search with a queue finds them, one sector after the other. -/
def Chart.searched (chart : Chart) (start : SectorId) : List (SectorId × Nat) :=
  ((Search.outset start).run chart).found

namespace Chart

variable {sectors : List SectorId} {warps : List (SectorId × SectorId)}
  {start sector : SectorId} {hops : Nat}

/-- The ways from a sector to another one: the stops on the way, the last of them the
other sector, each one warp from the one before and between discovered sectors. -/
structure Way (sectors : List SectorId) (warps : List (SectorId × SectorId))
    (start : SectorId) (stops : List SectorId) (target : SectorId) : Prop where
  linked : (start :: stops).IsChain fun source target =>
    (source, target) ∈ warps ∧ source ∈ sectors ∧ target ∈ sectors
  ends : (start :: stops).getLast? = some target

/-- Whether a shortest way from a sector to another one has so many stops. -/
def Shortest (sectors : List SectorId) (warps : List (SectorId × SectorId)) (start : SectorId)
    (hops : Nat) (target : SectorId) : Prop :=
  (∃ stops, Way sectors warps start stops target ∧ stops.length = hops) ∧
    ∀ stops, Way sectors warps start stops target → hops ≤ stops.length

theorem Shortest.unique {other : Nat} (one : Shortest sectors warps start hops sector)
    (another : Shortest sectors warps start other sector) : hops = other := by
  obtain ⟨⟨_, way, rfl⟩, least⟩ := one
  obtain ⟨⟨_, way', rfl⟩, least'⟩ := another
  exact Nat.le_antisymm (least _ way') (least' _ way)

/-- The walks on a chart are the ways along its warps. -/
theorem walk_iff_way : (ofDiscovered sectors warps).Walk start hops sector ↔
    ∃ stops, Way sectors warps start stops sector ∧ stops.length = hops := by
  constructor
  · intro walk
    induction walk with
    | here => exact ⟨[], ⟨.singleton _, rfl⟩, rfl⟩
    | @hop _ source target _ warp ih =>
      obtain ⟨stops, way, rfl⟩ := ih
      refine ⟨stops ++ [target], ⟨?_, ?_⟩, by simp⟩
      · rw [← List.cons_append, List.isChain_append]
        refine ⟨way.linked, .singleton _, fun last final first only => ?_⟩
        cases way.ends.symm.trans final
        cases only
        exact mem_ofDiscovered.mp warp
      · rw [← List.cons_append, List.getLast?_concat]
  · rintro ⟨stops, way, rfl⟩
    induction stops using List.reverseRecOn generalizing sector with
    | nil =>
      cases way.ends
      exact .here
    | append_singleton stops final ih =>
      obtain ⟨linked, ends⟩ := way
      rw [← List.cons_append] at linked ends
      rw [List.getLast?_concat] at ends
      cases ends
      obtain ⟨before, _, last⟩ := List.isChain_append.mp linked
      obtain ⟨source, previous⟩ : ∃ source, (start :: stops).getLast? = some source :=
        ⟨_, List.getLast?_eq_some_getLast (List.cons_ne_nil _ _)⟩
      rw [List.length_append, List.length_singleton]
      exact .hop (ih ⟨before, previous⟩)
        (mem_ofDiscovered.mpr (last source previous _ rfl))

/-- Which ways there are depends on nothing but which sectors and warps there are. -/
theorem way_congr {sectors' : List SectorId} {warps' : List (SectorId × SectorId)}
    (same_sectors : ∀ sector, sector ∈ sectors' ↔ sector ∈ sectors)
    (same_warps : ∀ warp, warp ∈ warps' ↔ warp ∈ warps) {stops : List SectorId} :
    Way sectors' warps' start stops sector ↔ Way sectors warps start stops sector := by
  have same_links : ∀ source target,
      ((source, target) ∈ warps' ∧ source ∈ sectors' ∧ target ∈ sectors') =
        ((source, target) ∈ warps ∧ source ∈ sectors ∧ target ∈ sectors) := fun _ _ => by
    rw [same_warps, same_sectors, same_sectors]
  constructor
  · exact fun way => ⟨way.linked.imp fun _ _ link => same_links _ _ ▸ link, way.ends⟩
  · exact fun way => ⟨way.linked.imp fun _ _ link => (same_links _ _).symm ▸ link, way.ends⟩

/-- A sector has an entry if it is the start or some way leads there. -/
theorem entry_iff_way : (∃ hops, ((ofDiscovered sectors warps).distances start).lookup sector =
      some hops) ↔
    sector = start ∨ ∃ stops, stops ≠ [] ∧ Way sectors warps start stops sector := by
  constructor
  · rintro ⟨hops, found⟩
    obtain ⟨stops, way, _⟩ := walk_iff_way.mp (distances_away found).walk
    cases stops with
    | nil => exact .inl (Option.some.inj way.ends).symm
    | cons first rest => exact .inr ⟨first :: rest, List.cons_ne_nil _ _, way⟩
  · rintro (rfl | ⟨stops, _, way⟩)
    · exact (closed_ofDiscovered sectors warps).reaches .here
    · exact (closed_ofDiscovered sectors warps).reaches (walk_iff_way.mpr ⟨stops, way, rfl⟩)

/-- An entry is the number of stops of a shortest way. -/
theorem lookup_iff_shortest : ((ofDiscovered sectors warps).distances start).lookup sector =
    some hops ↔ Shortest sectors warps start hops sector := by
  rw [(closed_ofDiscovered sectors warps).distances_iff]
  constructor
  · intro away
    exact ⟨walk_iff_way.mp away.walk, fun stops way =>
      away.shortest _ (walk_iff_way.mpr ⟨stops, way, rfl⟩)⟩
  · rintro ⟨way, least⟩
    refine ⟨walk_iff_way.mpr way, fun other walk => ?_⟩
    obtain ⟨stops, another, rfl⟩ := walk_iff_way.mp walk
    exact least stops another

/-- A search with a queue finds what the search by layers finds. -/
theorem lookup_searched : ((ofDiscovered sectors warps).searched start).lookup sector =
    ((ofDiscovered sectors warps).distances start).lookup sector := by
  refine Option.ext fun hops => ?_
  rw [(closed_ofDiscovered sectors warps).distances_iff]
  exact Search.Ordered.outset.run

end Chart

/-- The distances on the chart of any discovered sectors and warps are exact. A sector has
an entry if it is the start or some way leads there, one entry at most, and its number of
hops is that of a shortest way. A search with a queue ends and finds the same; and only
which sectors and warps there are matters, not how they are listed. -/
theorem distances_are_exact (sectors : List SectorId) (warps : List (SectorId × SectorId))
    (start : SectorId) :
    let distances := (Chart.ofDiscovered sectors warps).distances start
    (∀ sector, (∃ hops, distances.lookup sector = some hops) ↔
      sector = start ∨ ∃ stops, stops ≠ [] ∧ Chart.Way sectors warps start stops sector) ∧
    (∀ sector hops, distances.lookup sector = some hops ↔
      Chart.Shortest sectors warps start hops sector) ∧
    (distances.map (·.1)).Nodup ∧
    (∀ sector, ((Chart.ofDiscovered sectors warps).searched start).lookup sector =
      distances.lookup sector) ∧
    ∀ sectors' warps', (∀ sector, sector ∈ sectors' ↔ sector ∈ sectors) →
      (∀ warp, warp ∈ warps' ↔ warp ∈ warps) →
        ∀ sector, ((Chart.ofDiscovered sectors' warps').distances start).lookup sector =
          distances.lookup sector := by
  refine ⟨fun _ => Chart.entry_iff_way, fun _ _ => Chart.lookup_iff_shortest,
    Chart.distances_single _ _, fun _ => Chart.lookup_searched, ?_⟩
  intro sectors' warps' same_sectors same_warps sector
  refine Option.ext fun hops => ?_
  rw [Chart.lookup_iff_shortest, Chart.lookup_iff_shortest]
  simp only [Chart.Shortest, Chart.way_congr same_sectors same_warps]

/-- The shorter of two ways counts, also if the warps are listed the other way round and
more than once; a sector that was not discovered is not on a way. -/
theorem distances_are_exact_diamond :
    let distances :=
      (Chart.ofDiscovered [1, 2, 3, 4] [(1, 2), (2, 3), (3, 4), (2, 4), (4, 5)]).distances 1
    distances.lookup 4 = some 2 ∧ distances.lookup 5 = none ∧
      ((Chart.ofDiscovered [4, 3, 2, 1]
        [(4, 5), (2, 4), (2, 4), (3, 4), (2, 3), (1, 2)]).distances 1).lookup 4 = some 2 ∧
      ∀ stops, Chart.Way [1, 2, 3, 4] [(1, 2), (2, 3), (3, 4), (2, 4), (4, 5)] 1 stops 4 →
        2 ≤ stops.length := by
  obtain ⟨_, shortest, _, _, same⟩ :=
    distances_are_exact [1, 2, 3, 4] [(1, 2), (2, 3), (3, 4), (2, 4), (4, 5)] 1
  have found : ((Chart.ofDiscovered [1, 2, 3, 4]
      [(1, 2), (2, 3), (3, 4), (2, 4), (4, 5)]).distances 1).lookup 4 = some 2 := by decide
  refine ⟨found, by decide, ?_, ((shortest 4 2).mp found).2⟩
  rw [same [4, 3, 2, 1] [(4, 5), (2, 4), (2, 4), (3, 4), (2, 3), (1, 2)]
    (fun sector => by simp only [List.mem_cons, List.not_mem_nil]; tauto)
    (fun warp => by simp only [List.mem_cons, List.not_mem_nil]; tauto), found]

end Starlane
