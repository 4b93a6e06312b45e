import Mathlib.Algebra.BigOperators.Group.List.Basic
import Mathlib.Algebra.Order.BigOperators.Group.List
import Mathlib.Tactic.Abel
import Starlane.Table

/-!
# Look-ups and totals of tables

What a table answers after a change, and how a sum over all its values changes.
Every statement about a sum names the value that was replaced, so no truncated
subtraction occurs in it.
-/

namespace Starlane

variable {κ α : Type} [Key κ]

namespace Entries

theorem before_ne {a b : κ} (before : Key.before a b = true) : a ≠ b := by
  intro equal
  rw [equal, Key.irrefl] at before
  cases before

/-- In ascending entries a key that comes before the first one does not occur. -/
theorem Ascending.absent {first : κ × α} {rest : List (κ × α)} {key : κ}
    (ascending : Ascending (first :: rest)) (before : Key.before key first.1 = true) :
    ∀ entry ∈ first :: rest, entry.1 ≠ key := by
  intro entry member equal
  subst equal
  rcases List.mem_cons.mp member with rfl | member
  · exact before_ne before rfl
  · exact before_ne (Key.trans before ((List.pairwise_cons.mp ascending).1 entry member)) rfl

/-- Ascending entries are determined by what they contain. -/
theorem Ascending.eq_of_mem {first second : List (κ × α)} (one : Ascending first)
    (other : Ascending second) (same : ∀ entry, entry ∈ first ↔ entry ∈ second) :
    first = second := by
  have distinct : ∀ {entries : List (κ × α)}, Ascending entries → entries.Nodup := by
    intro entries ascending
    refine List.Pairwise.imp (fun before same => ?_) ascending
    exact before_ne before (congrArg Prod.fst same)
  refine List.Perm.eq_of_pairwise (fun a b _ _ before after => ?_) one other
    ((List.perm_ext_iff_of_nodup (distinct one) (distinct other)).mpr same)
  exact absurd rfl (before_ne (Key.trans before after))

end Entries

namespace Table

variable [DecidableEq κ]

theorem get?_insert (table : Table κ α) (key other : κ) (value : α) :
    (table.insert key value).get? other = if other = key then some value else table.get? other := by
  by_cases same : other = key
  · rw [if_pos same, same, get?_insert_self]
  · rw [if_neg same, get?_insert_of_ne _ _ same]

theorem get?_erase (table : Table κ α) (key other : κ) :
    (table.erase key).get? other = if other = key then none else table.get? other := by
  simp only [get?, erase]
  induction table.entries with
  | nil => simp
  | cons first rest ih =>
    by_cases gone : first.1 = key
    · rw [List.filter_cons_of_neg (by simpa using gone), ih]
      by_cases same : other = key
      · simp [same]
      · simp [same, gone, Ne.symm same]
    · rw [List.filter_cons_of_pos (by simpa using gone)]
      by_cases found : first.1 = other
      · simp [found, found ▸ gone]
      · simpa [found] using ih

theorem get?_mapValues (table : Table κ α) (f : κ → α → α) (key : κ) :
    (table.mapValues f).get? key = (table.get? key).map (f key) := by
  simp only [get?, mapValues]
  induction table.entries with
  | nil => rfl
  | cons first rest ih =>
    by_cases found : first.1 = key
    · simp [found]
    · simpa [found] using ih

/-- The entries of a table are exactly what it answers. -/
theorem mem_entries_iff (table : Table κ α) (key : κ) (value : α) :
    (key, value) ∈ table.entries ↔ table.get? key = some value := by
  obtain ⟨entries, ascending⟩ := table
  simp only [get?]
  induction entries with
  | nil => simp
  | cons first rest ih =>
    obtain ⟨below, above⟩ := List.pairwise_cons.mp ascending
    by_cases found : first.1 = key
    · have absent : (key, value) ∉ rest := fun member =>
        Entries.before_ne (below _ member) found
      simp only [List.mem_cons, absent, or_false, List.find?_cons, found, decide_true,
        Option.map_some, Option.some.injEq]
      rw [Prod.ext_iff]
      exact ⟨fun equal => equal.2.symm, fun equal => ⟨found.symm, equal.symm⟩⟩
    · have other : (key, value) ≠ first := fun equal => found (congrArg Prod.fst equal).symm
      simp only [List.mem_cons, other, false_or, List.find?_cons, found, decide_false]
      exact ih above

/-- Tables are determined by what they answer. -/
theorem eq_of_get? {table other : Table κ α}
    (same : ∀ key, other.get? key = table.get? key) : other = table := by
  refine Table.ext (other.ascending.eq_of_mem table.ascending fun entry => ?_)
  obtain ⟨key, value⟩ := entry
  rw [mem_entries_iff, mem_entries_iff, same]

theorem insert_insert (table : Table κ α) (key : κ) (first second : α) :
    (table.insert key first).insert key second = table.insert key second := by
  refine eq_of_get? fun other => ?_
  rw [get?_insert, get?_insert, get?_insert]
  split <;> rfl

theorem mem_values_iff (table : Table κ α) (value : α) :
    value ∈ table.values ↔ ∃ key, table.get? key = some value := by
  simp only [values, List.mem_map, ← mem_entries_iff]
  constructor
  · rintro ⟨⟨key, _⟩, member, rfl⟩
    exact ⟨key, member⟩
  · rintro ⟨key, member⟩
    exact ⟨(key, value), member, rfl⟩

/-- What a table holds after some values are set is one of them, or was there. -/
theorem mem_of_insertAll {α : Type} {table : Table Nat α} {number : α → Nat}
    {values : List α} {key : Nat} {value : α}
    (found : (values.foldl (fun table value => table.insert (number value) value) table).get? key =
      some value) : value ∈ values ∨ table.get? key = some value := by
  induction values generalizing table with
  | nil => exact .inr found
  | cons first rest ih =>
    rcases ih found with later | present
    · exact .inl (.tail _ later)
    · rw [get?_insert] at present
      split at present
      · cases present
        exact .inl (.head _)
      · exact .inr present

section Totals

variable {μ : Type} [AddCommMonoid μ]

/-- The sum of a measure over all values. -/
def total (table : Table κ α) (measure : α → μ) : μ :=
  (table.values.map measure).sum

/-- What a key contributes to the sum of a measure. -/
def share (table : Table κ α) (measure : α → μ) (key : κ) : μ :=
  ((table.get? key).map measure).getD 0

theorem share_of_get? {table : Table κ α} {key : κ} {value : α} (measure : α → μ)
    (found : table.get? key = some value) : table.share measure key = measure value := by
  simp [share, found]

theorem share_of_absent {table : Table κ α} {key : κ} (measure : α → μ)
    (absent : table.get? key = none) : table.share measure key = 0 := by
  simp [share, absent]

theorem share_insert (table : Table κ α) (key other : κ) (value : α) (measure : α → μ) :
    (table.insert key value).share measure other =
      if other = key then measure value else table.share measure other := by
  unfold share
  rw [get?_insert]
  split <;> rfl

theorem share_erase (table : Table κ α) (key other : κ) (measure : α → μ) :
    (table.erase key).share measure other =
      if other = key then 0 else table.share measure other := by
  unfold share
  rw [get?_erase]
  split <;> rfl

omit [Key κ] in
private theorem find?_absent {entries : List (κ × α)} {key : κ}
    (absent : ∀ entry ∈ entries, entry.1 ≠ key) :
    (entries.find? fun entry => decide (entry.1 = key)) = none :=
  List.find?_eq_none.mpr fun entry member => by simpa using absent entry member

/-- Setting a value adds its measure in place of that of the value before it. -/
theorem total_insert (table : Table κ α) (key : κ) (value : α) (measure : α → μ) :
    (table.insert key value).total measure + table.share measure key =
      table.total measure + measure value := by
  obtain ⟨entries, ascending⟩ := table
  simp only [total, share, values, get?, insert]
  induction entries with
  | nil => simp [Entries.insert]
  | cons first rest ih =>
    obtain ⟨_, above⟩ := List.pairwise_cons.mp ascending
    -- The key replaces the first entry, goes before it, or goes further down.
    by_cases same : key = first.1
    · simp only [Entries.insert, same, if_true, List.map_cons, List.sum_cons, List.find?_cons,
        decide_true, Option.map_some, Option.getD_some]
      abel
    · by_cases before : Key.before key first.1 = true
      · rw [Entries.insert, if_neg same, if_pos before,
          find?_absent (Entries.Ascending.absent ascending before)]
        simp only [List.map_cons, List.sum_cons, Option.map_none, Option.getD_none, add_zero]
        abel
      · rw [Entries.insert, if_neg same, if_neg before]
        simp only [List.map_cons, List.sum_cons, List.find?_cons, Ne.symm same, decide_false]
        rw [add_assoc, ih above, add_assoc]

/-- Erasing a key takes its contribution away. -/
theorem total_erase (table : Table κ α) (key : κ) (measure : α → μ) :
    (table.erase key).total measure + table.share measure key = table.total measure := by
  obtain ⟨entries, ascending⟩ := table
  simp only [total, share, values, get?, erase]
  induction entries with
  | nil => simp
  | cons first rest ih =>
    obtain ⟨below, above⟩ := List.pairwise_cons.mp ascending
    by_cases same : first.1 = key
    · have kept : (rest.filter fun entry => decide (entry.1 ≠ key)) = rest :=
        List.filter_eq_self.mpr fun entry member => by
          simpa using fun equal => Entries.before_ne (below entry member) (same.trans equal.symm)
      rw [List.filter_cons_of_neg (by simpa using same), kept]
      simp only [same, List.map_cons, List.sum_cons, List.find?_cons, decide_true,
        Option.map_some, Option.getD_some]
      abel
    · rw [List.filter_cons_of_pos (by simpa using same)]
      simp only [List.map_cons, List.sum_cons, List.find?_cons, same, decide_false]
      rw [add_assoc, ih above]

end Totals

theorem total_nonneg {table : Table κ α} {measure : α → Int}
    (nonneg : ∀ key value, table.get? key = some value → 0 ≤ measure value) :
    0 ≤ table.total measure := by
  refine List.sum_nonneg fun part member => ?_
  obtain ⟨value, held, rfl⟩ := List.mem_map.mp member
  obtain ⟨key, found⟩ := (mem_values_iff table value).mp held
  exact nonneg key value found

/-- Where no measure is negative, none exceeds the sum of all. -/
theorem share_le_total {table : Table κ α} {measure : α → Int}
    (nonneg : ∀ key value, table.get? key = some value → 0 ≤ measure value) (key : κ) :
    table.share measure key ≤ table.total measure := by
  have rest : 0 ≤ (table.erase key).total measure := total_nonneg fun other value found => by
    rw [get?_erase] at found
    split at found
    · cases found
    · exact nonneg other value found
  have whole := table.total_erase key measure
  omega

end Table

end Starlane
