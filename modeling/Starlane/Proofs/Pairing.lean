import Mathlib.Data.List.Forall2
import Starlane.Proofs.Table

/-!
# Tables that match

Two stores number the same things differently, but in the same order. A pairing
tells which number of one store is which of the other; tables whose entries are
paired in order answer alike, and stay paired when both are changed alike.
-/

namespace Starlane

section Lists

variable {α β : Type}

/-- Lists that match in order, sorted alike, match in order. -/
theorem forall₂_mergeSort {R : α → β → Prop} {le : α → α → Bool} {le' : β → β → Bool}
    {first : List α} {second : List β} (related : List.Forall₂ R first second)
    (alike : ∀ a a' b b', R a a' → R b b' → le a b = le' a' b') :
    List.Forall₂ R (first.mergeSort le) (second.mergeSort le') := by
  obtain ⟨pairs, left, right, each⟩ : ∃ pairs : List (α × β), pairs.map Prod.fst = first ∧
      pairs.map Prod.snd = second ∧ ∀ pair ∈ pairs, R pair.1 pair.2 :=
    ⟨first.zip second, List.map_fst_zip (Nat.le_of_eq related.length_eq),
      List.map_snd_zip (Nat.le_of_eq related.length_eq.symm),
      fun pair listed => (List.forall₂_iff_zip.mp related).2 listed⟩
  subst left right
  have sorted := List.map_mergeSort (r := fun a b => le a.1 b.1) (s := le') (f := Prod.snd)
    (l := pairs) fun a ha b hb => alike _ _ _ _ (each a ha) (each b hb)
  rw [← sorted, ← List.map_mergeSort (r := fun a b => le a.1 b.1) fun _ _ _ _ => rfl,
    List.forall₂_map_left_iff, List.forall₂_map_right_iff, List.forall₂_same]
  exact fun pair listed => each pair ((List.mergeSort_perm _ _).mem_iff.mp listed)

/-- An order that tells all elements apart leaves one way of sorting them. -/
theorem mergeSort_eq_of_perm {le : α → α → Bool} {first second : List α}
    (perm : first.Perm second)
    (trans : ∀ a b c, le a b = true → le b c = true → le a c = true)
    (total : ∀ a b, (le a b || le b a) = true)
    (apart : ∀ a ∈ first, ∀ b ∈ first, le a b = true → le b a = true → a = b) :
    first.mergeSort le = second.mergeSort le := by
  refine List.Perm.eq_of_pairwise (fun a b ha hb => ?_) (List.pairwise_mergeSort trans total first)
    (List.pairwise_mergeSort trans total second)
    ((List.mergeSort_perm _ _).trans (perm.trans (List.mergeSort_perm _ _).symm))
  exact apart a ((List.mergeSort_perm _ _).mem_iff.mp ha) b
    (perm.mem_iff.mpr ((List.mergeSort_perm _ _).mem_iff.mp hb))

/-- Where at most one element satisfies a condition, the order of a search does
not matter. -/
theorem find?_eq_of_perm {p : α → Bool} {first second : List α} (perm : first.Perm second)
    (unique : ∀ a ∈ first, ∀ b ∈ first, p a = true → p b = true → a = b) :
    first.find? p = second.find? p := by
  cases found : second.find? p with
  | none =>
    rw [List.find?_eq_none] at found ⊢
    exact fun a listed => found a (perm.mem_iff.mp listed)
  | some b =>
    have listed := perm.mem_iff.mpr (List.mem_of_find?_eq_some found)
    have holds := List.find?_some found
    cases other : first.find? p with
    | none => exact absurd holds (List.find?_eq_none.mp other b listed)
    | some a =>
      exact congrArg some (unique a (List.mem_of_find?_eq_some other) b listed
        (List.find?_some other) holds)

/-- A search in lists that match in order. -/
theorem forall₂_find? {R : α → β → Prop} {p : α → Bool} {q : β → Bool} {first : List α}
    {second : List β} (related : List.Forall₂ R first second)
    (alike : ∀ a b, R a b → p a = q b) : Option.Rel R (first.find? p) (second.find? q) := by
  induction related with
  | nil => exact .none
  | @cons a b first second same _ ih =>
    rw [List.find?_cons, List.find?_cons, ← alike a b same]
    cases p a with
    | true => exact .some same
    | false => exact ih

/-- A filter of lists that match in order. -/
theorem forall₂_filter {R : α → β → Prop} {p : α → Bool} {q : β → Bool} {first : List α}
    {second : List β} (related : List.Forall₂ R first second)
    (alike : ∀ a b, R a b → p a = q b) : List.Forall₂ R (first.filter p) (second.filter q) :=
  List.rel_filter (fun a b same => by simp only [alike a b same]) related

/-- What follows of elements that are listed. -/
theorem forall₂_imp_mem {R S : α → β → Prop} {first : List α} {second : List β}
    (related : List.Forall₂ R first second)
    (weaker : ∀ a ∈ first, ∀ b ∈ second, R a b → S a b) : List.Forall₂ S first second := by
  induction related with
  | nil => exact .nil
  | cons same _ ih =>
    exact .cons (weaker _ (.head _) _ (.head _) same)
      (ih fun a later b later' => weaker a (.tail _ later) b (.tail _ later'))

/-- What one of two matching lists has, the other has too. -/
theorem forall₂_mem {R : α → β → Prop} {first : List α} {second : List β}
    (related : List.Forall₂ R first second) {a : α} (listed : a ∈ first) :
    ∃ b ∈ second, R a b := by
  induction related with
  | nil => cases listed
  | @cons x y first second same _ ih =>
    rcases List.mem_cons.mp listed with rfl | later
    · exact ⟨y, .head _, same⟩
    · obtain ⟨b, among, found⟩ := ih later
      exact ⟨b, .tail _ among, found⟩

end Lists

/-- Which number of one store is which of another. A pairing keeps the order of
the numbers. -/
structure Pairing where
  pairs : Nat → Nat → Prop
  ordered : ∀ {a b c d}, pairs a b → pairs c d → (a < c ↔ b < d)

namespace Pairing

variable {pairing : Pairing} {a b c d : Nat}

/-- A number has at most one partner, and is the partner of at most one. -/
theorem same_iff (first : pairing.pairs a b) (second : pairing.pairs c d) : a = c ↔ b = d := by
  have up := pairing.ordered first second
  have down := pairing.ordered second first
  omega

theorem le_iff (first : pairing.pairs a b) (second : pairing.pairs c d) : a ≤ c ↔ b ≤ d := by
  have down := pairing.ordered second first
  omega

/-- Every number paired with itself. -/
def identity : Pairing where
  pairs := Eq
  ordered := by
    rintro a _ c _ rfl rfl
    exact Iff.rfl

/-- Whether one pairing says all that another says. -/
instance : LE Pairing where
  le first second := ∀ a b, first.pairs a b → second.pairs a b

/-- Whether all pairs are among the numbers up to some limits. -/
def Within (pairing : Pairing) (left right : Nat) : Prop :=
  ∀ a b, pairing.pairs a b → a ≤ left ∧ b ≤ right

/-- The pairing with one more pair, of numbers past all others. -/
def add (pairing : Pairing) {left right : Nat} (within : pairing.Within left right)
    (new : Nat) (partner : Nat) (above : left < new) (beyond : right < partner) : Pairing where
  pairs a b := pairing.pairs a b ∨ (a = new ∧ b = partner)
  ordered := by
    intro a b c d first second
    rcases first with first | ⟨rfl, rfl⟩ <;> rcases second with second | ⟨rfl, rfl⟩
    · exact pairing.ordered first second
    · have low := within a b first
      omega
    · have low := within c d second
      omega
    · omega

theorem Within.mono {left right left' right' : Nat} (within : pairing.Within left right)
    (up : left ≤ left') (across : right ≤ right') : pairing.Within left' right' := by
  intro a b paired
  have low := within a b paired
  omega

theorem Within.add {left right : Nat} (within : pairing.Within left right) {new partner : Nat}
    (above : left < new) (beyond : right < partner) :
    (pairing.add within new partner above beyond).Within new partner := by
  rintro a b (paired | ⟨rfl, rfl⟩)
  · have low := within a b paired
    omega
  · omega

end Pairing

/-- Whether two tables have matching values under paired keys. -/
def Table.Matches {α β : Type} (pairing : Pairing) (R : α → β → Prop) (table : Table Nat α)
    (other : Table Nat β) : Prop :=
  List.Forall₂ (fun entry entry' => pairing.pairs entry.1 entry'.1 ∧ R entry.2 entry'.2)
    table.entries other.entries

namespace Table.Matches

variable {α β : Type} {pairing : Pairing} {R : α → β → Prop} {table : Table Nat α}
  {other : Table Nat β} {a b : Nat} {x : α} {y : β}

theorem mono {pairing' : Pairing} {R' : α → β → Prop} (same : table.Matches pairing R other)
    (pairs : pairing ≤ pairing') (values : ∀ x y, R x y → R' x y) :
    table.Matches pairing' R' other :=
  List.Forall₂.imp (fun _ _ each => ⟨pairs _ _ each.1, values _ _ each.2⟩) same

theorem values (same : table.Matches pairing R other) :
    List.Forall₂ R table.values other.values := by
  unfold Table.values
  rw [List.forall₂_map_left_iff, List.forall₂_map_right_iff]
  exact List.Forall₂.imp (fun _ _ each => each.2) same

/-- Paired keys are answered alike. -/
theorem get? (same : table.Matches pairing R other) (paired : pairing.pairs a b) :
    Option.Rel R (table.get? a) (other.get? b) := by
  have found := forall₂_find? (p := fun entry => decide (entry.1 = a))
    (q := fun entry => decide (entry.1 = b)) same
    fun entry entry' each => decide_eq_decide.mpr (Pairing.same_iff each.1 paired)
  unfold Table.get?
  generalize table.entries.find? _ = first at found
  generalize other.entries.find? _ = second at found
  cases found with
  | none => exact .none
  | some each => exact .some each.2

theorem find_left (same : table.Matches pairing R other) (found : table.get? a = some x) :
    ∃ b y, pairing.pairs a b ∧ other.get? b = some y ∧ R x y := by
  obtain ⟨⟨b, y⟩, listed, paired, alike⟩ :=
    forall₂_mem same ((table.mem_entries_iff a x).mpr found)
  exact ⟨b, y, paired, (other.mem_entries_iff b y).mp listed, alike⟩

theorem find_right (same : table.Matches pairing R other) (found : other.get? b = some y) :
    ∃ a x, pairing.pairs a b ∧ table.get? a = some x ∧ R x y := by
  obtain ⟨⟨a, x⟩, listed, paired, alike⟩ :=
    forall₂_mem (List.Forall₂.flip same) ((other.mem_entries_iff b y).mpr found)
  exact ⟨a, x, paired, (table.mem_entries_iff a x).mp listed, alike⟩

theorem contains_iff (same : table.Matches pairing R other) (paired : pairing.pairs a b) :
    table.contains a = other.contains b := by
  have found := same.get? paired
  unfold Table.contains
  generalize table.get? a = first at found
  generalize other.get? b = second at found
  cases found <;> rfl

/-- Matching values set under paired keys. -/
theorem insert (same : table.Matches pairing R other) (paired : pairing.pairs a b)
    (alike : R x y) : (table.insert a x).Matches pairing R (other.insert b y) := by
  obtain ⟨entries, ascending⟩ := table
  obtain ⟨entries', ascending'⟩ := other
  unfold Matches at same ⊢
  simp only [Table.insert] at same ⊢
  clear ascending ascending'
  induction same with
  | nil => exact .cons ⟨paired, alike⟩ .nil
  | @cons entry entry' rest rest' each others ih =>
    have equal : a = entry.1 ↔ b = entry'.1 := Pairing.same_iff paired each.1
    have before : Key.before a entry.1 = Key.before b entry'.1 :=
      decide_eq_decide.mpr (pairing.ordered paired each.1)
    simp only [Entries.insert, before, equal]
    split
    · exact .cons ⟨paired, alike⟩ others
    · split
      · exact .cons ⟨paired, alike⟩ (.cons each others)
      · exact .cons each ih

/-- Paired keys erased. -/
theorem erase (same : table.Matches pairing R other) (paired : pairing.pairs a b) :
    (table.erase a).Matches pairing R (other.erase b) :=
  forall₂_filter same fun _ _ each =>
    decide_eq_decide.mpr (not_congr (Pairing.same_iff each.1 paired))

end Table.Matches

end Starlane
