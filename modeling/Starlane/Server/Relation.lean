import Starlane.Table

/-!
# Relations

A table of a server: rows under a numeric primary key, perhaps a generated one, perhaps with
further columns whose values are unique.  The host of a table decides in which order it goes
through the rows, and which key it generates after another; it goes through every row once, and
generated keys ascend.  They are never given back, not even when the insertion that took one fails
or is undone.
-/

namespace Starlane.Server

/-- How a relation identifies its rows. -/
class Row (ρ : Type) where
  /-- The primary key. -/
  key : ρ → Nat
  /-- The row under another key. -/
  withKey : Nat → ρ → ρ
  /-- Whether a row inserted with key 0 gets the next generated key. -/
  generated : Bool
  /-- Whether two rows have the same value in a unique column. -/
  clashes : ρ → ρ → Bool

/-- How a table is hosted: the order in which it goes through its rows, given by ascending key, and
the key that it generates after another. -/
structure Host (ρ : Type) where
  order : List ρ → List ρ
  order_perm : ∀ rows, (order rows).Perm rows
  next : Nat → Nat
  lt_next : ∀ key, key < next key

/-- The host that goes by ascending key and leaves out no key. -/
def Host.standard {ρ : Type} : Host ρ where
  order := id
  order_perm := .refl
  next key := key + 1
  lt_next := Nat.lt_succ_self

/-- The rows of a relation, the last generated key, and the host. -/
structure Relation (ρ : Type) where
  rows : Table Nat ρ
  issued : Nat
  host : Host ρ

namespace Relation

variable {ρ : Type}

/-- The relation without rows. -/
def empty : Relation ρ :=
  ⟨.empty, 0, .standard⟩

/-- All rows, in the order of the host. -/
def all (relation : Relation ρ) : List ρ :=
  relation.host.order relation.rows.values

/-- The key that is generated next. -/
def nextKey (relation : Relation ρ) : Nat :=
  relation.host.next relation.issued

/-- The row with a key. -/
def find? (relation : Relation ρ) (key : Nat) : Option ρ :=
  relation.rows.get? key

/-- The first row that satisfies a condition. -/
def search? (relation : Relation ρ) (p : ρ → Bool) : Option ρ :=
  relation.all.find? p

/-- The relation without the row with a key. -/
def erase (relation : Relation ρ) (key : Nat) : Relation ρ :=
  { relation with rows := relation.rows.erase key }

/-- The relation without rows; keys go on counting. -/
def clear (relation : Relation ρ) : Relation ρ :=
  { relation with rows := .empty }

/-- The rows of one state with the key counter of a later one. -/
def restore (before after : Relation ρ) : Relation ρ :=
  { before with issued := after.issued }

variable [Row ρ]

/-- The relation with the rows under the given rows' keys replaced by them. -/
def update (relation : Relation ρ) (row : ρ) : Relation ρ :=
  { relation with rows := relation.rows.insert (Row.key row) row }

/-- The relation without the rows that satisfy a condition. -/
def eraseAll (relation : Relation ρ) (p : ρ → Bool) : Relation ρ :=
  ((relation.all.filter p).map Row.key).foldl erase relation

/-- Whether a row of another key has a unique value of this row. -/
def hasClash (relation : Relation ρ) (row : ρ) : Bool :=
  relation.all.any fun other => Row.key other != Row.key row && Row.clashes other row

/-- Whether a row asks for a generated key. -/
def asksForKey (row : ρ) : Bool :=
  Row.generated ρ && Row.key row == 0

/-- The row with its key generated if it asks for one, and the last generated key after that. -/
def number (relation : Relation ρ) (row : ρ) : ρ × Nat :=
  if asksForKey row then (Row.withKey relation.nextKey row, relation.nextKey)
  else (row, relation.issued)

variable [DecidableEq ρ]

/-- Inserts a row.  Returns the row as stored; none if its key or a unique value is taken.  A row
that is there already may be inserted again. -/
def insert (relation : Relation ρ) (row : ρ) : Option ρ × Relation ρ :=
  let (row, issued) := relation.number row
  let kept := { relation with issued }
  match relation.find? (Row.key row) with
  | some other => (if other = row then some row else none, kept)
  | none => if relation.hasClash row then (none, kept) else (some row, kept.update row)

/-- Inserts a row, or replaces the one with its key.  Returns whether no unique value stood
against it. -/
def put (relation : Relation ρ) (row : ρ) : Bool × Relation ρ :=
  if asksForKey row then ((relation.insert row).1.isSome, (relation.insert row).2)
  else if relation.hasClash row then (false, relation)
  else (true, relation.update row)

end Relation

end Starlane.Server
