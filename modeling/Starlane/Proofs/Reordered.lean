import Mathlib.Data.List.Perm.Basic
import Starlane.Proofs.Pairing

/-!
# Lists in another order

A database goes through its rows in an order of its own. Two lists that match
once the first is reordered answer a search, a count or a sort alike, as far as
the answer does not depend on the order.
-/

namespace Starlane

section Sorting

variable {α β γ ε : Type}

/-- Where every element reads as its partner, a list reads as its partners. -/
theorem mapM_forall₂ {R : α → γ → Prop} {f : β → Except ε γ} {first : List α} {second : List β}
    (related : List.Forall₂ (fun a b => ∃ c, f b = .ok c ∧ R a c) first second) :
    ∃ list, second.mapM f = .ok list ∧ List.Forall₂ R first list := by
  induction related with
  | nil => exact ⟨[], rfl, .nil⟩
  | cons each _ ih =>
    obtain ⟨c, read, same⟩ := each
    obtain ⟨list, others, alike⟩ := ih
    exact ⟨c :: list, by simp [read, others, bind, Except.bind, pure, Except.pure],
      .cons same alike⟩

/-- A list in order is what sorting any reordering of it gives. -/
theorem mergeSort_eq_sorted {le : α → α → Bool} {first second : List α}
    (perm : first.Perm second)
    (trans : ∀ a b c, le a b = true → le b c = true → le a c = true)
    (total : ∀ a b, (le a b || le b a) = true)
    (apart : ∀ a ∈ second, ∀ b ∈ second, le a b = true → le b a = true → a = b)
    (sorted : second.Pairwise fun a b => le a b = true) : first.mergeSort le = second := by
  rw [mergeSort_eq_of_perm perm trans total fun a ha b hb =>
    apart a (perm.mem_iff.mp ha) b (perm.mem_iff.mp hb)]
  exact List.mergeSort_of_pairwise sorted

/-- With repetitions gone, nothing is listed twice. -/
theorem nodup_eraseDups [BEq α] [LawfulBEq α] (list : List α) : list.eraseDups.Nodup := by
  match list with
  | [] => exact .nil
  | first :: rest =>
    rw [List.eraseDups_cons]
    refine List.nodup_cons.mpr ⟨fun repeated => ?_, nodup_eraseDups _⟩
    simpa using (List.mem_filter.mp (List.mem_eraseDups.mp repeated)).2
termination_by list.length
decreasing_by exact Nat.lt_succ_of_le (List.length_filter_le _ _)

/-- With repetitions gone, ascending numbers ascend strictly. -/
theorem pairwise_eraseDups (numbers : List Nat) (sorted : numbers.Pairwise (· ≤ ·)) :
    numbers.eraseDups.Pairwise (· < ·) := by
  match numbers with
  | [] => exact .nil
  | first :: rest =>
    obtain ⟨least, others⟩ := List.pairwise_cons.mp sorted
    rw [List.eraseDups_cons]
    refine List.pairwise_cons.mpr ⟨fun number listed => ?_, pairwise_eraseDups _ (others.filter _)⟩
    obtain ⟨among, other⟩ := List.mem_filter.mp (List.mem_eraseDups.mp listed)
    have lower := least number among
    have differs : number ≠ first := by simpa using other
    omega
termination_by numbers.length
decreasing_by exact Nat.lt_succ_of_le (List.length_filter_le _ _)

/-- On elements whose numbers ascend, to break ties by number is to leave them
in order. -/
theorem mergeSort_ties {time : α → Int} {number : α → Nat} {list : List α}
    (ascending : list.Pairwise fun a b => number a < number b) :
    (list.mergeSort fun a b => decide (time a < time b) ||
      (time a == time b && decide (number a ≤ number b))) =
      list.mergeSort fun a b => decide (time a ≤ time b) := by
  -- The sort is stable: it goes by the place of an element among equals.
  have placed : List.Forall₂ (fun a pair => pair.1 = a ∧ list[pair.2]? = some a) list
      list.zipIdx := by
    rw [List.forall₂_iff_get]
    refine ⟨by simp, fun i low high => ?_⟩
    simp
  have order : ∀ {i j : Nat} {a b : α}, list[i]? = some a → list[j]? = some b →
      (number a ≤ number b ↔ i ≤ j) := by
    intro i j a b here there
    obtain ⟨low, rfl⟩ := List.getElem?_eq_some_iff.mp here
    obtain ⟨high, rfl⟩ := List.getElem?_eq_some_iff.mp there
    have up := List.pairwise_iff_getElem.mp ascending i j low high
    have down := List.pairwise_iff_getElem.mp ascending j i high low
    rcases Nat.lt_trichotomy i j with before | same | after
    · have := up before
      omega
    · subst same
      simp
    · have := down after
      omega
  have sorted : List.Forall₂ (fun a pair => pair.1 = a ∧ list[pair.2]? = some a)
      (list.mergeSort fun a b => decide (time a < time b) ||
        (time a == time b && decide (number a ≤ number b)))
      (list.zipIdx.mergeSort (List.zipIdxLE fun a b => decide (time a ≤ time b))) := by
    refine forall₂_mergeSort placed fun a pair b pair' first second => ?_
    obtain ⟨rfl, here⟩ := first
    obtain ⟨rfl, there⟩ := second
    have places := order here there
    simp only [List.zipIdxLE]
    grind
  have stable : (list.zipIdx.mergeSort (List.zipIdxLE fun a b => decide (time a ≤ time b))).map
      (·.1) = list.mergeSort fun a b => decide (time a ≤ time b) := List.mergeSort_zipIdx
  have elements := List.forall₂_map_right_iff.mpr
    (List.Forall₂.imp (fun _ _ each => each.1.symm) sorted)
  rw [← stable]
  exact List.forall₂_eq_eq_eq ▸ elements

end Sorting

/-- Whether two lists match once the first is reordered. -/
def Reordered {α β : Type} (R : α → β → Prop) (first : List α) (second : List β) : Prop :=
  ∃ list, list.Perm first ∧ List.Forall₂ R list second

namespace Reordered

variable {α β γ ε : Type} {R : α → β → Prop} {first : List α} {second third : List β}

/-- Lists that match in order, the second in another order. -/
theorem of_forall₂ (related : List.Forall₂ R first second) (perm : third.Perm second) :
    Reordered R first third := by
  obtain ⟨list, flipped, others⟩ := List.perm_comp_forall₂ perm related.flip
  exact ⟨list, others, flipped.flip⟩

theorem perm (same : Reordered R first second) (perm : third.Perm second) :
    Reordered R first third := by
  obtain ⟨list, order, related⟩ := same
  obtain ⟨list', order', related'⟩ := of_forall₂ related perm
  exact ⟨list', order'.trans order, related'⟩

theorem left (same : Reordered R first second) {other : List α} (perm : other.Perm first) :
    Reordered R other second := by
  obtain ⟨list, order, related⟩ := same
  exact ⟨list, order.trans perm.symm, related⟩

theorem imp {S : α → β → Prop} (same : Reordered R first second)
    (weaker : ∀ a b, R a b → S a b) : Reordered S first second := by
  obtain ⟨list, order, related⟩ := same
  exact ⟨list, order, List.Forall₂.imp weaker related⟩

/-- The elements that match are listed. -/
theorem mem (same : Reordered R first second) :
    Reordered (fun a b => R a b ∧ a ∈ first ∧ b ∈ second) first second := by
  obtain ⟨list, order, related⟩ := same
  exact ⟨list, order, forall₂_imp_mem related fun a listed b listed' each =>
    ⟨each, order.mem_iff.mp listed, listed'⟩⟩

theorem filter (same : Reordered R first second) {p : α → Bool} {q : β → Bool}
    (alike : ∀ a b, R a b → p a = q b) : Reordered R (first.filter p) (second.filter q) := by
  obtain ⟨list, order, related⟩ := same
  exact ⟨list.filter p, order.filter p, forall₂_filter related alike⟩

theorem cons (same : Reordered R first second) {a : α} {b : β} (new : R a b) :
    Reordered R (a :: first) (b :: second) := by
  obtain ⟨list, order, related⟩ := same
  exact ⟨a :: list, order.cons a, .cons new related⟩

/-- What is read off both lists. -/
theorem map (same : Reordered R first second) {f : α → γ} {g : β → γ}
    (alike : ∀ a b, R a b → g b = f a) : (second.map g).Perm (first.map f) := by
  obtain ⟨list, order, related⟩ := same
  have read : second.map g = list.map f := by
    clear order
    induction related with
    | nil => rfl
    | cons each _ ih => rw [List.map_cons, List.map_cons, alike _ _ each, ih]
  rw [read]
  exact order.map f

theorem countP (same : Reordered R first second) {p : α → Bool} {q : β → Bool}
    (alike : ∀ a b, R a b → p a = q b) : second.countP q = first.countP p := by
  have counted := (same.filter alike).map (f := fun _ => ()) (g := fun _ => ()) fun _ _ _ => rfl
  have length := counted.length_eq
  simpa [List.countP_eq_length_filter] using length

theorem mem_right (same : Reordered R first second) {b : β} (listed : b ∈ second) :
    ∃ a ∈ first, R a b := by
  obtain ⟨list, order, related⟩ := same
  obtain ⟨a, among, each⟩ := forall₂_mem related.flip listed
  exact ⟨a, order.mem_iff.mp among, each⟩

theorem mem_left (same : Reordered R first second) {a : α} (listed : a ∈ first) :
    ∃ b ∈ second, R a b := by
  obtain ⟨list, order, related⟩ := same
  exact forall₂_mem related (order.mem_iff.mpr listed)

/-- What is read off rows that can all be read. -/
theorem mapM (same : Reordered R first second) {f : α → γ} {g : β → Except ε γ}
    (read : ∀ a b, R a b → g b = .ok (f a)) :
    ∃ list, second.mapM g = .ok list ∧ list.Perm (first.map f) := by
  obtain ⟨list, order, related⟩ := same
  obtain ⟨values, success, equal⟩ := mapM_forall₂ (R := fun a c => f a = c) (f := g)
    (List.Forall₂.imp (fun a b each => ⟨f a, read a b each, rfl⟩) related)
  have same' : values = list.map f :=
    (List.forall₂_eq_eq_eq ▸ List.forall₂_map_left_iff.mpr equal : list.map f = values).symm
  exact ⟨values, success, same' ▸ order.map f⟩

/-- A search that at most one element can end. -/
theorem find? (same : Reordered R first second) {p : α → Bool} {q : β → Bool}
    (alike : ∀ a b, R a b → p a = q b)
    (lone : ∀ a ∈ first, ∀ b ∈ first, p a = true → p b = true → a = b) :
    Option.Rel R (first.find? p) (second.find? q) := by
  obtain ⟨list, order, related⟩ := same
  rw [find?_eq_of_perm order.symm lone]
  exact forall₂_find? related alike

end Reordered

end Starlane
