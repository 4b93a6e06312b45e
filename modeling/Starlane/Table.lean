/-!
# Tables

A table holds values under keys, in ascending order of keys and each key once.  The order is part
of the type, so two tables with the same entries are equal.
-/

namespace Starlane

/-- Keys with a decidable strict order. -/
class Key (κ : Type) where
  /-- Whether one key comes before another. -/
  before : κ → κ → Bool
  irrefl : ∀ a, before a a = false
  trans : ∀ {a b c}, before a b = true → before b c = true → before a c = true
  connected : ∀ {a b}, before a b = false → before b a = false → a = b

instance : Key Nat where
  before a b := decide (a < b)
  irrefl a := by simp
  trans := by
    intro a b c
    simp only [decide_eq_true_eq]
    omega
  connected := by
    intro a b
    simp only [decide_eq_false_iff_not]
    omega

/-- Pairs are ordered by their first part, then by their second. -/
instance : Key (Nat × Nat) where
  before a b := decide (a.1 < b.1) || (a.1 == b.1 && decide (a.2 < b.2))
  irrefl a := by simp
  trans := by
    intro a b c
    simp only [Bool.or_eq_true, Bool.and_eq_true, decide_eq_true_eq, beq_iff_eq]
    omega
  connected := by
    intro a b
    simp only [Bool.or_eq_false_iff, Bool.and_eq_false_iff, decide_eq_false_iff_not,
      beq_eq_false_iff_ne, ne_eq, Prod.ext_iff]
    omega

namespace Entries

variable {κ α β : Type} [Key κ]

/-- Whether the keys of some entries ascend. -/
def Ascending (entries : List (κ × α)) : Prop :=
  entries.Pairwise fun a b => Key.before a.1 b.1 = true

theorem Ascending.filter {entries : List (κ × α)} (h : Ascending entries) (p : κ × α → Bool) :
    Ascending (entries.filter p) :=
  List.Pairwise.filter p h

theorem Ascending.mapValues {entries : List (κ × α)} (h : Ascending entries) (f : κ → α → β) :
    Ascending (entries.map fun entry => (entry.1, f entry.1 entry.2)) :=
  List.Pairwise.map _ (fun _ _ hab => hab) h

variable [DecidableEq κ]

/-- The entries with a value under a key, in place of the one before. -/
def insert (key : κ) (value : α) : List (κ × α) → List (κ × α)
  | [] => [(key, value)]
  | entry :: rest =>
    if key = entry.1 then (key, value) :: rest
    else if Key.before key entry.1 then (key, value) :: entry :: rest
    else entry :: insert key value rest

theorem mem_insert {key : κ} {value : α} {entry : κ × α} {entries : List (κ × α)}
    (h : entry ∈ insert key value entries) : entry = (key, value) ∨ entry ∈ entries := by
  induction entries with
  | nil => simpa [insert] using h
  | cons first rest ih => grind [insert]

theorem Ascending.insert {entries : List (κ × α)} (h : Ascending entries) (key : κ) (value : α) :
    Ascending (Entries.insert key value entries) := by
  induction entries with
  | nil => simp [Entries.insert, Ascending]
  | cons first rest ih =>
    obtain ⟨hfirst, hrest⟩ := List.pairwise_cons.1 h
    rw [Entries.insert]
    split
    · next heq => exact List.pairwise_cons.2 ⟨fun entry hentry => heq ▸ hfirst entry hentry, hrest⟩
    · next hne =>
      split
      · next hbefore =>
        refine List.pairwise_cons.2 ⟨fun entry hentry => ?_, h⟩
        rcases List.mem_cons.1 hentry with rfl | hmem
        · exact hbefore
        · exact Key.trans hbefore (hfirst entry hmem)
      · next hnot =>
        refine List.pairwise_cons.2 ⟨fun entry hentry => ?_, ih hrest⟩
        rcases mem_insert hentry with rfl | hmem
        · cases hb : Key.before first.1 key with
          | true => rfl
          | false => exact absurd (Key.connected (by simpa using hnot) hb) hne
        · exact hfirst entry hmem

end Entries

/-- Values under ascending keys. -/
structure Table (κ α : Type) [Key κ] where
  entries : List (κ × α)
  ascending : Entries.Ascending entries

namespace Table

variable {κ α : Type} [Key κ]

/-- The table without entries. -/
def empty : Table κ α :=
  ⟨[], List.Pairwise.nil⟩

/-- The keys in ascending order. -/
def keys (table : Table κ α) : List κ :=
  table.entries.map (·.1)

/-- The values in the order of their keys. -/
def values (table : Table κ α) : List α :=
  table.entries.map (·.2)

/-- The table with a function applied to every value. -/
def mapValues (table : Table κ α) (f : κ → α → α) : Table κ α :=
  ⟨table.entries.map fun entry => (entry.1, f entry.1 entry.2), table.ascending.mapValues f⟩

@[ext] theorem ext {a b : Table κ α} (h : a.entries = b.entries) : a = b := by
  cases a
  cases b
  cases h
  rfl

variable [DecidableEq κ]

/-- The value under a key. -/
def get? (table : Table κ α) (key : κ) : Option α :=
  (table.entries.find? fun entry => decide (entry.1 = key)).map (·.2)

/-- Whether there is a value under a key. -/
def contains (table : Table κ α) (key : κ) : Bool :=
  (table.get? key).isSome

/-- The table with a value under a key, in place of the one before. -/
def insert (table : Table κ α) (key : κ) (value : α) : Table κ α :=
  ⟨Entries.insert key value table.entries, table.ascending.insert key value⟩

/-- The table without a key. -/
def erase (table : Table κ α) (key : κ) : Table κ α :=
  ⟨table.entries.filter fun entry => decide (entry.1 ≠ key), table.ascending.filter _⟩

/-- The table with a function applied to the value under a key, if there is one. -/
def modify (table : Table κ α) (key : κ) (f : α → α) : Table κ α :=
  table.mapValues fun other value => if other = key then f value else value

@[simp] theorem get?_empty (key : κ) : (empty : Table κ α).get? key = none := rfl

theorem get?_insert_self (table : Table κ α) (key : κ) (value : α) :
    (table.insert key value).get? key = some value := by
  simp only [get?, insert]
  induction table.entries with
  | nil => simp [Entries.insert]
  | cons first rest ih => grind [Entries.insert]

theorem get?_insert_of_ne (table : Table κ α) {key other : κ} (value : α) (h : other ≠ key) :
    (table.insert key value).get? other = table.get? other := by
  simp only [get?, insert]
  induction table.entries with
  | nil => simp [Entries.insert, Ne.symm h]
  | cons first rest ih => grind [Entries.insert]

end Table

end Starlane
