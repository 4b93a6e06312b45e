import Mathlib.Logic.Function.Iterate
import Starlane.Planet
import Starlane.Proofs.Stockpile

/-!
# What many rounds come to

Ports restock and planets produce in rounds. A round goes through the commodities one after the
other and notes whether it changed anything. Many rounds come to one that grows by as many rates,
as long as the caps are counters; and after a round without change there is none.
-/

namespace Starlane

/-! ## One commodity -/

/-- What a round makes of an amount that grows by a rate up to a cap. -/
def grown (cap rate amount : Nat) : Nat :=
  min (addCapped amount rate) cap

/-- A sum that stops at the largest counter stops at the cap before. -/
theorem grown_eq {cap : Nat} (fits : cap ≤ counterMax) (rate amount : Nat) :
    grown cap rate amount = min cap (amount + rate) := by
  unfold grown addCapped
  omega

/-- After the first round an amount is no more than the cap, so the rates of all rounds add up. -/
theorem grown_iterate {cap : Nat} (fits : cap ≤ counterMax) (rate amount : Nat) {n : Nat}
    (started : 0 < n) : (grown cap rate)^[n] amount = min cap (amount + n * rate) := by
  induction n, started using Nat.le_induction with
  | base => simp [grown_eq fits]
  | succ n _ ih =>
    rw [Function.iterate_succ_apply', ih, grown_eq fits, Nat.succ_mul]
    omega

/-! ## All commodities -/

namespace Goods

variable {α : Type} [DecidableEq α] {f : Commodity → α → α}

/-- Renews the value of one commodity, and notes it if that is a change. -/
def renew (f : Commodity → α → α) (state : Goods α × Bool) (c : Commodity) : Goods α × Bool :=
  let next := f c (state.1.get c)
  if next = state.1.get c then state else (state.1.set c next, true)

/-- Renews the values of all commodities in listing order, and tells whether any has changed. -/
def renewAll (f : Commodity → α → α) (goods : Goods α) : Goods α × Bool :=
  Commodity.all.foldl (renew f) (goods, false)

theorem renew_get (state : Goods α × Bool) (c d : Commodity) : (renew f state c).1.get d =
    if d = c then f d (state.1.get d) else state.1.get d := by
  unfold renew
  dsimp only
  split
  · next same =>
    split
    · next here => rw [here, same]
    · rfl
  · split
    · next here => rw [here, get_set_self]
    · next elsewhere => rw [get_set_of_ne _ _ elsewhere]

theorem renew_changed (state : Goods α × Bool) (c : Commodity) :
    (renew f state c).2 = true ↔ state.2 = true ∨ f c (state.1.get c) ≠ state.1.get c := by
  unfold renew
  dsimp only
  split
  · next same => simp [same]
  · next different => simp [different]

/-- Each commodity is looked at once, so it is renewed from the value at the start. -/
theorem foldl_renew {cs : List Commodity} (once : cs.Nodup) (state : Goods α × Bool) :
    (∀ d, (cs.foldl (renew f) state).1.get d =
      if d ∈ cs then f d (state.1.get d) else state.1.get d) ∧
    ((cs.foldl (renew f) state).2 = true ↔
      state.2 = true ∨ ∃ c ∈ cs, f c (state.1.get c) ≠ state.1.get c) := by
  induction cs generalizing state with
  | nil => simp
  | cons c rest ih =>
    obtain ⟨absent, once⟩ := List.nodup_cons.mp once
    obtain ⟨values, changed⟩ := ih once (renew f state c)
    have spared : ∀ d ∈ rest, (renew f state c).1.get d = state.1.get d := by
      intro d listed
      rw [renew_get, if_neg]
      rintro rfl
      exact absent listed
    constructor
    · intro d
      rw [List.foldl_cons, values]
      by_cases listed : d ∈ rest
      · rw [if_pos listed, spared d listed, if_pos (List.mem_cons_of_mem c listed)]
      · rw [if_neg listed, renew_get]
        simp [listed]
    · have later : (∃ d ∈ rest, f d ((renew f state c).1.get d) ≠ (renew f state c).1.get d) ↔
          ∃ d ∈ rest, f d (state.1.get d) ≠ state.1.get d :=
        exists_congr fun d => and_congr_right fun listed => by rw [spared d listed]
      rw [List.foldl_cons, changed, renew_changed, later, or_assoc]
      simp

theorem renewAll_fst (goods : Goods α) :
    (goods.renewAll f).1 = ofFn fun c => f c (goods.get c) := by
  obtain ⟨values, -⟩ := foldl_renew (f := f) (by decide : Commodity.all.Nodup) (goods, false)
  refine ext_get fun d => ?_
  rw [renewAll, values, if_pos d.mem_all, get_ofFn]

/-- A round tells of a change if and only if some value is another one after it. -/
theorem renewAll_changed (goods : Goods α) : (goods.renewAll f).2 = true ↔
    ∃ c, (goods.renewAll f).1.get c ≠ goods.get c := by
  obtain ⟨-, changed⟩ := foldl_renew (f := f) (by decide : Commodity.all.Nodup) (goods, false)
  simp only [renewAll_fst, get_ofFn]
  simp [renewAll, changed, Commodity.mem_all]

end Goods

/-- If rounds tell whether they change anything and one does not, then no later one does. -/
theorem iterate_rests {α : Type} [DecidableEq α] {round : α → α × Bool} {f : α → α}
    (tells : ∀ state, round state = (f state, f state != state)) (start : α)
    {earlier later : Nat} (le : earlier ≤ later) (rests : (round (f^[earlier] start)).2 = false) :
    (round (f^[later] start)).2 = false := by
  have unchanged : f (f^[earlier] start) = f^[earlier] start := by
    rw [tells] at rests
    simpa using rests
  obtain ⟨more, rfl⟩ := Nat.exists_eq_add_of_le' le
  rw [Function.iterate_add_apply, Function.iterate_fixed unchanged, rests]

/-! ## Ports -/

theorem Stock.restock_iterate (stock : Stock) (n : Nat) : restock^[n] stock =
    { stock with qty := (grown stock.baseQty stock.regen)^[n] stock.qty } := by
  induction n with
  | zero => rfl
  | succ n ih =>
    rw [Function.iterate_succ_apply', Function.iterate_succ_apply', ih]
    rfl

/-- Restocking changes a stock if and only if it changes the quantity. -/
theorem Stock.restock_eq_self {stock : Stock} :
    stock.restock = stock ↔ stock.restock.qty = stock.qty := by
  refine ⟨congrArg Stock.qty, fun same => ?_⟩
  change { stock with qty := stock.restock.qty } = stock
  rw [same]

namespace Port

/-- One restocking round, commodity after commodity, and whether it changed anything. -/
def restockRound (port : Port) : Port × Bool :=
  let (stocks, changed) := port.stocks.renewAll fun _ => Stock.restock
  ({ port with stocks }, changed)

variable (port : Port)

theorem restockRound_fst : port.restockRound.1 = port.restock := by
  change { port with stocks := (port.stocks.renewAll fun _ => Stock.restock).1 } = _
  rw [Goods.renewAll_fst]
  rfl

/-- A round tells of a change if and only if some quantity is another one after it. -/
theorem restockRound_changed : port.restockRound.2 = true ↔
    ∃ c, (port.restock.stock c).qty ≠ (port.stock c).qty := by
  change (port.stocks.renewAll fun _ => Stock.restock).2 = true ↔ _
  rw [Goods.renewAll_changed, Goods.renewAll_fst]
  refine exists_congr fun c => not_congr ?_
  rw [Goods.get_ofFn, restock_stock]
  exact Stock.restock_eq_self

theorem restock_eq_self {port : Port} :
    port.restock = port ↔ ∀ c, (port.restock.stock c).qty = (port.stock c).qty := by
  refine ⟨fun same c => by rw [same], fun same => ?_⟩
  have stocks : port.stocks.map Stock.restock = port.stocks := by
    refine Goods.ext_get fun c => ?_
    have quantity := same c
    rw [restock_stock] at quantity
    rw [Goods.get_map]
    exact Stock.restock_eq_self.mpr quantity
  rw [restock, stocks]

/-- The round commodity by commodity is the round of the whole port, and the change it tells of is
that of the port. -/
theorem restockRound_eq : port.restockRound = (port.restock, port.restock != port) := by
  refine Prod.ext port.restockRound_fst ?_
  rw [Bool.eq_iff_iff, restockRound_changed, bne_iff_ne, Ne, restock_eq_self]
  exact not_forall.symm

theorem restock_iterate (n : Nat) :
    restock^[n] port = { port with stocks := port.stocks.map Stock.restock^[n] } := by
  induction n with
  | zero => rfl
  | succ n ih =>
    rw [Function.iterate_succ_apply', ih, restock]
    congr 1
    refine Goods.ext_get fun c => ?_
    rw [Goods.get_map, Goods.get_map, Goods.get_map, Function.iterate_succ_apply']

variable {port}

/-- Many rounds grow every stock by as many rates, up to its base quantity. -/
theorem restock_rounds (caps : ∀ c, (port.stock c).baseQty ≤ counterMax) {n : Nat}
    (started : 0 < n) : restock^[n] port =
      { port with
        stocks := port.stocks.map fun stock =>
          { stock with qty := min stock.baseQty (stock.qty + n * stock.regen) } } := by
  rw [restock_iterate]
  congr 1
  refine Goods.ext_get fun c => ?_
  rw [Goods.get_map, Goods.get_map]
  change Stock.restock^[n] (port.stock c) = _
  rw [Stock.restock_iterate, grown_iterate (caps c) _ _ started]
  rfl

end Port

/-! ## Planets -/

namespace Planet

/-- What a production cycle makes of an amount of a commodity in storage. -/
def stored (planet : Planet) (c : Commodity) (amount : Nat) : Nat :=
  grown planet.storageMax (planet.production.get c) amount

/-- One production cycle, commodity after commodity, and whether it changed anything. -/
def produceRound (planet : Planet) : Planet × Bool :=
  let (storage, changed) := planet.storage.renewAll planet.stored
  ({ planet with storage }, changed)

variable (planet : Planet)

theorem produceRound_fst : planet.produceRound.1 = planet.produce := by
  change { planet with storage := (planet.storage.renewAll planet.stored).1 } = _
  rw [Goods.renewAll_fst]
  rfl

/-- A cycle tells of a change if and only if some amount in storage is another one after it. -/
theorem produceRound_changed : planet.produceRound.2 = true ↔
    ∃ c, planet.produce.storage.get c ≠ planet.storage.get c := by
  change (planet.storage.renewAll planet.stored).2 = true ↔ _
  rw [Goods.renewAll_changed, Goods.renewAll_fst]
  rfl

theorem produce_eq_self {planet : Planet} :
    planet.produce = planet ↔ ∀ c, planet.produce.storage.get c = planet.storage.get c := by
  refine ⟨fun same c => by rw [same], fun same => ?_⟩
  change { planet with storage := planet.produce.storage } = planet
  rw [Goods.ext_get same]

/-- The cycle commodity by commodity is the cycle of the whole planet, and the change it tells of
is that of the planet. -/
theorem produceRound_eq : planet.produceRound = (planet.produce, planet.produce != planet) := by
  refine Prod.ext planet.produceRound_fst ?_
  rw [Bool.eq_iff_iff, produceRound_changed, bne_iff_ne, Ne, produce_eq_self]
  exact not_forall.symm

theorem produce_iterate (n : Nat) : produce^[n] planet =
    { planet with
      storage := .ofFn fun c => (planet.stored c)^[n] (planet.storage.get c) } := by
  induction n with
  | zero => rfl
  | succ n ih =>
    rw [Function.iterate_succ_apply', ih, produce]
    congr 1
    refine Goods.ext_get fun c => ?_
    simp only [Goods.get_ofFn, Function.iterate_succ_apply']
    rfl

variable {planet}

/-- Many cycles grow every store by as many rates, up to the cap. -/
theorem produce_rounds (cap : planet.storageMax ≤ counterMax) {n : Nat} (started : 0 < n) :
    produce^[n] planet =
      { planet with
        storage := .ofFn fun c =>
          min planet.storageMax (planet.storage.get c + n * planet.production.get c) } := by
  rw [produce_iterate]
  congr 1
  refine Goods.ext_get fun c => ?_
  rw [Goods.get_ofFn, Goods.get_ofFn]
  exact grown_iterate cap _ _ started

end Planet

/-- Any number of rounds, but at least one, leaves every stock of a port at what it had and as many
restocking rates, or at its base quantity if that is less, and every store of a planet at what it
had and as many production rates, or at the cap; nothing else changes. A round that goes through
the commodities one by one is the round of the whole, and tells of a change if and only if a
quantity changes. Once it tells of none, it never does again. -/
theorem rounds_add_up {port : Port} {planet : Planet} {n : Nat}
    (stocked : ∀ c, (port.stock c).baseQty ≤ counterMax) (roomy : planet.storageMax ≤ counterMax)
    (started : 0 < n) :
    Port.restock^[n] port =
      { port with
        stocks := port.stocks.map fun stock =>
          { stock with qty := min stock.baseQty (stock.qty + n * stock.regen) } } ∧
    Planet.produce^[n] planet =
      { planet with
        storage := .ofFn fun c =>
          min planet.storageMax (planet.storage.get c + n * planet.production.get c) } ∧
    port.restockRound = (port.restock, port.restock != port) ∧
    planet.produceRound = (planet.produce, planet.produce != planet) ∧
    (port.restockRound.2 = true ↔ ∃ c, (port.restock.stock c).qty ≠ (port.stock c).qty) ∧
    (planet.produceRound.2 = true ↔ ∃ c, planet.produce.storage.get c ≠ planet.storage.get c) ∧
    ∀ earlier later, earlier ≤ later →
      ((Port.restock^[earlier] port).restockRound.2 = false →
        (Port.restock^[later] port).restockRound.2 = false) ∧
      ((Planet.produce^[earlier] planet).produceRound.2 = false →
        (Planet.produce^[later] planet).produceRound.2 = false) := by
  refine ⟨Port.restock_rounds stocked started, Planet.produce_rounds roomy started,
    port.restockRound_eq, planet.produceRound_eq, port.restockRound_changed,
    planet.produceRound_changed, fun earlier later le => ⟨?_, ?_⟩⟩
  · exact iterate_rests Port.restockRound_eq port le
  · exact iterate_rests Planet.produceRound_eq planet le

/-- Stocks and stores that take many rounds, that the first round fills although their sum is no
counter, and that do not grow. -/
theorem rounds_add_up_brim :
    let port : Port := ⟨2, ⟨⟨.sell, 0, 200, 20, 5⟩,
      ⟨.buy, 4294967290, 4294967295, 10, 4294967295⟩, ⟨.sell, 7, 9, 50, 0⟩⟩⟩
    let planet : Planet := ⟨4, 2, "Brim", .unowned, ⟨10, 4294967295, 0⟩, ⟨0, 1, 3⟩, 4294967295, 0⟩
    (Port.restock^[39] port).stocks = ⟨⟨.sell, 195, 200, 20, 5⟩,
      ⟨.buy, 4294967295, 4294967295, 10, 4294967295⟩, ⟨.sell, 7, 9, 50, 0⟩⟩ ∧
    (Planet.produce^[39] planet).storage = ⟨390, 4294967295, 3⟩ := by
  intro port planet
  have stocked : ∀ c, (port.stock c).baseQty ≤ counterMax := by
    intro c
    cases c <;> decide
  have roomy : planet.storageMax ≤ counterMax := by decide
  obtain ⟨restocked, produced, -⟩ := rounds_add_up stocked roomy (by decide : 0 < 39)
  rw [restocked, produced]
  decide

end Starlane
