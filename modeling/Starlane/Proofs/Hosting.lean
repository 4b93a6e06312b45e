import Starlane.Proofs.Filing
import Starlane.Server.Row

/-!
# Relations under any host

A relation goes through all of its rows, in whatever order, and generates keys
past all that it has generated. With its rows filed under their own keys, an
insertion that clashes with no row succeeds, and what a change does to the rows,
in the order of their keys, is an equation on lists.
-/

namespace Starlane

namespace Table

variable {α : Type} {table : Table Nat α} {number : α → Nat}

/-- A value past all others comes last. -/
theorem values_insert_last {key : Nat} (last : ∀ other value, table.get? other = some value →
    other < key) (value : α) : (table.insert key value).values = table.values ++ [value] := by
  obtain ⟨entries, ascending⟩ := table
  have below : ∀ entry ∈ entries, entry.1 < key := fun entry listed =>
    last entry.1 entry.2 ((mem_entries_iff ⟨entries, ascending⟩ entry.1 entry.2).mp listed)
  clear last
  simp only [values, insert]
  induction entries with
  | nil => rfl
  | cons first rest ih =>
    have lower := below first (.head _)
    have after : Key.before key first.1 = false := decide_eq_false (by omega)
    rw [Entries.insert, if_neg (by omega), after]
    exact congrArg (first.2 :: ·)
      (ih (List.pairwise_cons.mp ascending).2 fun entry later => below entry (.tail _ later))

/-- A value in place of the one before. -/
theorem values_insert_present (keyed : table.KeyedBy number) {key : Nat}
    (present : table.contains key = true) {value : α} (own : number value = key) :
    (table.insert key value).values =
      table.values.map fun other => if number other = key then value else other := by
  obtain ⟨entries, ascending⟩ := table
  have filed : ∀ entry ∈ entries, number entry.2 = entry.1 := fun entry listed =>
    keyed entry.1 entry.2 ((mem_entries_iff ⟨entries, ascending⟩ entry.1 entry.2).mp listed)
  have listed : ∃ entry ∈ entries, entry.1 = key := by
    obtain ⟨before, found⟩ := Option.isSome_iff_exists.mp present
    exact ⟨_, (mem_entries_iff ⟨entries, ascending⟩ key before).mpr found, rfl⟩
  clear keyed present
  simp only [values, insert, List.map_map]
  induction entries with
  | nil => simp at listed
  | cons first rest ih =>
    obtain ⟨above, sorted⟩ := List.pairwise_cons.mp ascending
    have mine := filed first (.head _)
    rw [Entries.insert]
    by_cases same : key = first.1
    · have others : ∀ entry ∈ rest, number entry.2 ≠ key := by
        intro entry later
        rw [filed entry (.tail _ later), same]
        exact (Entries.before_ne (above entry later)).symm
      have kept : rest.map ((fun other => if number other = key then value else other) ∘
          (·.2)) = rest.map (·.2) :=
        List.map_congr_left fun entry later => if_neg (others entry later)
      rw [if_pos same, List.map_cons, List.map_cons, kept]
      simp [mine, same]
    · have later : ∃ entry ∈ rest, entry.1 = key := by
        obtain ⟨entry, among, equal⟩ := listed
        rcases List.mem_cons.mp among with rfl | among
        · exact absurd equal.symm same
        · exact ⟨entry, among, equal⟩
      have before : Key.before key first.1 = false := by
        obtain ⟨entry, among, rfl⟩ := later
        have ahead : first.1 < entry.1 := of_decide_eq_true (above entry among)
        exact decide_eq_false (by omega)
      rw [if_neg same, before]
      have different : number first.2 ≠ key := fun equal => same (equal.symm.trans mine)
      simp only [Bool.false_eq_true, if_false, List.map_cons, Function.comp_apply,
        if_neg different]
      exact congrArg (first.2 :: ·) (ih sorted (fun entry among => filed entry (.tail _ among))
        later)

/-- The values without the one of a key. -/
theorem values_erase (keyed : table.KeyedBy number) (key : Nat) :
    (table.erase key).values = table.values.filter fun value => decide (number value ≠ key) := by
  simp only [values, erase, List.filter_map]
  refine congrArg _ (List.filter_congr fun entry listed => ?_)
  have own := keyed entry.1 entry.2 ((mem_entries_iff table entry.1 entry.2).mp listed)
  simp only [Function.comp_apply, own]

/-- The values without those of some keys. -/
theorem values_eraseAll (keyed : table.KeyedBy number) (keys : List Nat) :
    (keys.foldl Table.erase table).values =
      table.values.filter fun value => !keys.contains (number value) := by
  induction keys generalizing table with
  | nil => simp
  | cons key rest ih =>
    rw [List.foldl_cons, ih (keyed.erase key), values_erase keyed, List.filter_filter]
    refine List.filter_congr fun value _ => ?_
    by_cases same : number value = key <;> simp [same]

/-- An entry set under a key, in no particular order. -/
theorem entries_insert_perm {κ : Type} [Key κ] [DecidableEq κ] (table : Table κ α) (key : κ)
    (value : α) :
    (table.insert key value).entries.Perm ((key, value) :: (table.erase key).entries) := by
  obtain ⟨entries, ascending⟩ := table
  simp only [insert, erase]
  induction entries with
  | nil => exact .refl _
  | cons first rest ih =>
    obtain ⟨above, sorted⟩ := List.pairwise_cons.mp ascending
    rw [Entries.insert]
    by_cases same : key = first.1
    · have kept : (rest.filter fun entry => decide (entry.1 ≠ key)) = rest :=
        List.filter_eq_self.mpr fun entry later =>
          decide_eq_true fun equal => Entries.before_ne (above entry later)
            (same.symm.trans equal.symm)
      rw [if_pos same, List.filter_cons_of_neg (by simp [same]), kept]
    · rw [if_neg same]
      split
      · next before =>
        have kept : ((first :: rest).filter fun entry => decide (entry.1 ≠ key)) = first :: rest :=
          List.filter_eq_self.mpr fun entry listed =>
            decide_eq_true (Entries.Ascending.absent ascending before entry listed)
        rw [kept]
      · rw [List.filter_cons_of_pos (by simpa using Ne.symm same)]
        exact ((ih sorted).cons first).trans (.swap _ _ _)

/-- Without a value under a key there is nothing to erase. -/
theorem entries_erase_absent {κ : Type} [Key κ] [DecidableEq κ] {table : Table κ α} {key : κ}
    (absent : table.get? key = none) : (table.erase key).entries = table.entries := by
  refine List.filter_eq_self.mpr fun entry listed => decide_eq_true ?_
  rintro rfl
  rw [(mem_entries_iff table entry.1 entry.2).mp listed] at absent
  cases absent

/-- What is set again is there already. -/
theorem insert_same {κ : Type} [Key κ] [DecidableEq κ] {table : Table κ α} {key : κ} {value : α}
    (found : table.get? key = some value) : table.insert key value = table := by
  obtain ⟨entries, ascending⟩ := table
  refine Table.ext ?_
  have listed := (mem_entries_iff ⟨entries, ascending⟩ key value).mpr found
  clear found
  simp only [insert] at listed ⊢
  induction entries with
  | nil => cases listed
  | cons first rest ih =>
    obtain ⟨above, sorted⟩ := List.pairwise_cons.mp ascending
    rw [Entries.insert]
    rcases List.mem_cons.mp listed with rfl | later
    · rw [if_pos rfl]
    · have ahead := above _ later
      have behind : Key.before key first.1 = false := by
        cases before : Key.before key first.1 with
        | false => rfl
        | true => exact absurd rfl (Entries.before_ne (Key.trans ahead before))
      rw [if_neg (Entries.before_ne ahead).symm, behind]
      exact congrArg (first :: ·) (ih sorted later)

/-- Two values with one number are the same value. -/
theorem KeyedBy.same_value (keyed : table.KeyedBy number) {a b : α} (listed : a ∈ table.values)
    (listed' : b ∈ table.values) (same : number a = number b) : a = b := by
  have found := keyed.get?_of_mem listed
  rw [same, keyed.get?_of_mem listed'] at found
  exact (Option.some.inj found).symm

/-- A search by number is a look-up. -/
theorem KeyedBy.find?_eq (keyed : table.KeyedBy number) (key : Nat) :
    (table.values.find? fun value => number value == key) = table.get? key := by
  cases found : table.values.find? fun value => number value == key with
  | none =>
    cases stored : table.get? key with
    | none => rfl
    | some value =>
      have missed := List.find?_eq_none.mp found value
        ((table.mem_values_iff value).mpr ⟨key, stored⟩)
      exact absurd (beq_iff_eq.mpr (keyed key value stored)) missed
  | some value =>
    have own : number value = key := by simpa using List.find?_some found
    rw [← own]
    exact (keyed.get?_of_mem (List.mem_of_find?_eq_some found)).symm

/-- Every key occurs once. -/
theorem nodup_keys {κ : Type} [Key κ] (table : Table κ α) : table.keys.Nodup :=
  List.pairwise_map.mpr (table.ascending.imp Entries.before_ne)

/-- A new key, in no particular order. -/
theorem keys_insert_new {κ : Type} [Key κ] [DecidableEq κ] {table : Table κ α} {key : κ}
    (absent : table.get? key = none) (value : α) :
    (table.insert key value).keys.Perm (key :: table.keys) := by
  have perm := (table.entries_insert_perm key value).map fun entry => entry.1
  rwa [List.map_cons, entries_erase_absent absent] at perm

/-- A value set under a key, in no particular order. -/
theorem values_insert_perm (table : Table Nat α) (key : Nat) (value : α) :
    (table.insert key value).values.Perm (value :: (table.erase key).values) := by
  exact (table.entries_insert_perm key value).map fun entry => entry.2

end Table

namespace Server

/-- Rows that have the key they are given. -/
class LawfulRow (ρ : Type) [Row ρ] : Prop where
  key_withKey : ∀ (key : Nat) (row : ρ), Row.key (Row.withKey key row) = key

instance : LawfulRow LogRow := ⟨fun _ _ => rfl⟩

instance : LawfulRow DiscoveryRow := ⟨fun _ _ => rfl⟩

instance : LawfulRow IntelRow := ⟨fun _ _ => rfl⟩

instance : LawfulRow WarpRow := ⟨fun _ _ => rfl⟩

instance : LawfulRow PlanetRow := ⟨fun _ _ => rfl⟩

instance : LawfulRow MinefieldRow := ⟨fun _ _ => rfl⟩

instance : LawfulRow CorpRow := ⟨fun _ _ => rfl⟩

instance : LawfulRow MemberRow := ⟨fun _ _ => rfl⟩

instance : LawfulRow MessageRow := ⟨fun _ _ => rfl⟩

namespace Relation

variable {ρ : Type} {relation : Relation ρ}

theorem all_perm (relation : Relation ρ) : relation.all.Perm relation.rows.values :=
  relation.host.order_perm _

theorem issued_lt_nextKey (relation : Relation ρ) : relation.issued < relation.nextKey :=
  relation.host.lt_next _

variable [Row ρ]

/-- Whether rows are filed under their own keys, none of them beyond the last
generated one. -/
structure Numbered (relation : Relation ρ) : Prop where
  keyed : relation.rows.KeyedBy Row.key
  upTo : relation.rows.UpTo relation.issued

/-- The rows in the order of their keys. -/
theorem Numbered.ascending (numbered : relation.Numbered) :
    relation.rows.values.Pairwise fun a b => Row.key a < Row.key b := by
  unfold Table.values
  rw [List.pairwise_map]
  refine List.Pairwise.imp_of_mem ?_ relation.rows.ascending
  intro a b first second before
  rw [numbered.keyed a.1 a.2 ((relation.rows.mem_entries_iff a.1 a.2).mp first),
    numbered.keyed b.1 b.2 ((relation.rows.mem_entries_iff b.1 b.2).mp second)]
  exact of_decide_eq_true before

/-- Two rows with one key are the same row. -/
theorem Numbered.same_row (numbered : relation.Numbered) {first second : ρ}
    (listed : first ∈ relation.rows.values) (listed' : second ∈ relation.rows.values)
    (same : Row.key first = Row.key second) : first = second :=
  numbered.keyed.same_value listed listed' same

theorem Numbered.erase (numbered : relation.Numbered) (key : Nat) :
    (relation.erase key).Numbered :=
  ⟨numbered.keyed.erase key, numbered.upTo.erase key⟩

theorem Numbered.eraseKeys (numbered : relation.Numbered) (keys : List Nat) :
    (keys.foldl Relation.erase relation).Numbered := by
  induction keys generalizing relation with
  | nil => exact numbered
  | cons key rest ih => exact ih (numbered.erase key)

/-- A row in place of the one with its key. -/
theorem Numbered.update (numbered : relation.Numbered) {row : ρ}
    (present : relation.rows.contains (Row.key row) = true) : (relation.update row).Numbered :=
  ⟨numbered.keyed.insert rfl, numbered.upTo.save row present⟩

/-- Rows of one state with the counter of a later one. -/
theorem Numbered.restore (numbered : relation.Numbered) {after : Relation ρ}
    (later : relation.issued ≤ after.issued) : (relation.restore after).Numbered :=
  ⟨numbered.keyed, numbered.upTo.grow later⟩

omit [Row ρ] in
theorem rows_eraseKeys (keys : List Nat) :
    (keys.foldl Relation.erase relation).rows = keys.foldl Table.erase relation.rows := by
  induction keys generalizing relation with
  | nil => rfl
  | cons key rest ih => exact ih

omit [Row ρ] in
theorem issued_eraseKeys (keys : List Nat) :
    (keys.foldl Relation.erase relation).issued = relation.issued := by
  induction keys generalizing relation with
  | nil => rfl
  | cons key rest ih => exact ih

/-- The rows that are left when those with a property are gone. -/
theorem Numbered.values_eraseAll (numbered : relation.Numbered) (p : ρ → Bool) :
    (relation.eraseAll p).rows.values = relation.rows.values.filter fun row => !p row := by
  unfold eraseAll
  rw [rows_eraseKeys, Table.values_eraseAll numbered.keyed]
  refine List.filter_congr fun row listed => congrArg _ ?_
  rw [Bool.eq_iff_iff, List.contains_iff_mem, List.mem_map]
  constructor
  · rintro ⟨other, among, same⟩
    obtain ⟨member, holds⟩ := List.mem_filter.mp among
    have mine := numbered.keyed.get?_of_mem listed
    have theirs := numbered.keyed.get?_of_mem (relation.all_perm.mem_iff.mp member)
    rw [same, mine] at theirs
    cases theirs
    exact holds
  · intro holds
    exact ⟨row, List.mem_filter.mpr ⟨relation.all_perm.mem_iff.mpr listed, holds⟩, rfl⟩

section Insertion

variable [LawfulRow ρ] [DecidableEq ρ]

/-- The relation with a row under the next key. -/
def append (relation : Relation ρ) (row : ρ) : Relation ρ :=
  { relation with
    rows := relation.rows.insert relation.nextKey (Row.withKey relation.nextKey row)
    issued := relation.nextKey }

omit [LawfulRow ρ] [DecidableEq ρ] in
theorem Numbered.beyond (numbered : relation.Numbered) (key : Nat) (row : ρ)
    (found : relation.rows.get? key = some row) : key < relation.nextKey :=
  Nat.lt_of_le_of_lt (numbered.upTo key row found) relation.issued_lt_nextKey

omit [LawfulRow ρ] [DecidableEq ρ] in
/-- The next key is free. -/
theorem Numbered.free (numbered : relation.Numbered) :
    relation.rows.get? relation.nextKey = none := by
  cases found : relation.rows.get? relation.nextKey with
  | none => rfl
  | some row => exact absurd (numbered.beyond _ row found) (Nat.lt_irrefl _)

omit [DecidableEq ρ] in
theorem Numbered.append (numbered : relation.Numbered) (row : ρ) :
    (relation.append row).Numbered where
  keyed := numbered.keyed.insert (LawfulRow.key_withKey _ _)
  upTo := (numbered.upTo.grow (Nat.le_of_lt relation.issued_lt_nextKey)).insert _ (Nat.le_refl _)

omit [LawfulRow ρ] [DecidableEq ρ] in
/-- A new row comes last. -/
theorem Numbered.values_append (numbered : relation.Numbered) (row : ρ) :
    (relation.append row).rows.values =
      relation.rows.values ++ [Row.withKey relation.nextKey row] :=
  Table.values_insert_last numbered.beyond _

/-- The insertion of a row that asks for a key and clashes with no row. -/
theorem Numbered.insert_new (numbered : relation.Numbered) (row : ρ)
    (asks : asksForKey row = true)
    (clear : ∀ other ∈ relation.rows.values,
      Row.clashes other (Row.withKey relation.nextKey row) = false) :
    relation.insert row =
      (some (Row.withKey relation.nextKey row), relation.append row) := by
  have numbering : relation.number row = (Row.withKey relation.nextKey row, relation.nextKey) := by
    rw [number, if_pos asks]
  have free : relation.find? (Row.key (Row.withKey relation.nextKey row)) = none := by
    rw [LawfulRow.key_withKey]
    exact numbered.free
  -- The counter moves on before the unique columns are looked at.
  have unclashed : ∀ issued, ({ relation with issued } : Relation ρ).hasClash
      (Row.withKey relation.nextKey row) = false := by
    intro issued
    refine List.any_eq_false.mpr fun other listed clashing => ?_
    have row' := relation.all_perm.mem_iff.mp listed
    rw [clear other row', Bool.and_false] at clashing
    cases clashing
  unfold Relation.insert
  rw [numbering]
  dsimp only
  rw [free]
  dsimp only
  rw [unclashed]
  simp only [Bool.false_eq_true, if_false, Relation.update, Relation.append,
    LawfulRow.key_withKey]

omit [LawfulRow ρ] in
/-- No insertion gives a key back. -/
theorem issued_le_insert (relation : Relation ρ) (row : ρ) :
    relation.issued ≤ (relation.insert row).2.issued := by
  have numbering : relation.issued ≤ (relation.number row).2 := by
    unfold number
    split
    · exact Nat.le_of_lt relation.issued_lt_nextKey
    · exact Nat.le_refl _
  unfold Relation.insert
  dsimp only
  split
  · exact numbering
  · split
    · exact numbering
    · exact numbering

end Insertion

end Relation

end Server

end Starlane
