import Starlane.Bounds

/-!
# Commodities

The three goods that ports, cargo holds and planets track, and triples with one value per
commodity.
-/

namespace Starlane

/-- A tradeable good. -/
inductive Commodity where
  | ore
  | organics
  | equipment
  deriving DecidableEq, Repr

namespace Commodity

/-- Every commodity, in listing order. -/
def all : List Commodity :=
  [ore, organics, equipment]

/-- The upper-case code. -/
def code : Commodity → String
  | ore => "ORE"
  | organics => "ORGANICS"
  | equipment => "EQUIPMENT"

/-- The commodity of an upper-case code. -/
def ofCode? (code : String) : Option Commodity :=
  all.find? fun c => c.code == code

/-- The name inside a sentence. -/
def noun : Commodity → String
  | ore => "ore"
  | organics => "organics"
  | equipment => "equipment"

/-- The label in compact listings. -/
def label : Commodity → String
  | ore => "Ore"
  | organics => "Org"
  | equipment => "Eq"

/-- The word for an amount of it: one has much ore and many organics. -/
def quantifier : Commodity → String
  | organics => "many"
  | ore | equipment => "much"

theorem mem_all (c : Commodity) : c ∈ all := by
  cases c <;> simp [all]

@[simp] theorem ofCode?_code (c : Commodity) : ofCode? c.code = some c := by
  cases c <;> decide

end Commodity

/-- One value per commodity. -/
structure Goods (α : Type) where
  ore : α
  organics : α
  equipment : α
  deriving DecidableEq, Repr

namespace Goods

variable {α β : Type}

/-- The value of a commodity. -/
def get (goods : Goods α) : Commodity → α
  | .ore => goods.ore
  | .organics => goods.organics
  | .equipment => goods.equipment

/-- The triple with the value of one commodity replaced. -/
def set (goods : Goods α) (c : Commodity) (value : α) : Goods α :=
  match c with
  | .ore => { goods with ore := value }
  | .organics => { goods with organics := value }
  | .equipment => { goods with equipment := value }

/-- The triple of values that a function gives. -/
def ofFn (f : Commodity → α) : Goods α :=
  ⟨f .ore, f .organics, f .equipment⟩

/-- A function applied to every value. -/
def map (f : α → β) (goods : Goods α) : Goods β :=
  ofFn fun c => f (goods.get c)

/-- The values in listing order. -/
def toList (goods : Goods α) : List α :=
  Commodity.all.map goods.get

/-- Nothing of any commodity. -/
def empty : Goods Nat :=
  ⟨0, 0, 0⟩

/-- The number of units, which stops at the largest counter. -/
def total (goods : Goods Nat) : Nat :=
  addCapped (addCapped goods.ore goods.organics) goods.equipment

@[simp] theorem get_set_self (goods : Goods α) (c : Commodity) (value : α) :
    (goods.set c value).get c = value := by
  cases c <;> rfl

theorem get_set_of_ne (goods : Goods α) {c d : Commodity} (value : α) (h : d ≠ c) :
    (goods.set c value).get d = goods.get d := by
  cases c <;> cases d <;> first | rfl | exact absurd rfl h

@[simp] theorem get_ofFn (f : Commodity → α) (c : Commodity) : (ofFn f).get c = f c := by
  cases c <;> rfl

@[simp] theorem get_map (f : α → β) (goods : Goods α) (c : Commodity) :
    (goods.map f).get c = f (goods.get c) := by
  cases c <;> rfl

theorem ext_get {a b : Goods α} (h : ∀ c, a.get c = b.get c) : a = b := by
  cases a
  cases b
  simp only [mk.injEq]
  exact ⟨h .ore, h .organics, h .equipment⟩

end Goods

end Starlane
