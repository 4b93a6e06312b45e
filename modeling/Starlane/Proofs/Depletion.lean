import Starlane.Proofs.Flight
import Starlane.Proofs.Minelaying

/-!
# Which mines go

Mines are taken from fields in an order: a field loses what is still wanted once
the fields before it have given theirs, and is gone if that is all it has. So a
later field loses mines only if the earlier ones are gone. On arrival the fields
that grant a player no access go off from the oldest on, five mines at most; a
sweep takes ten at most from the largest on.
-/

namespace Starlane

namespace Minefield

/-- Whether a field goes off before another one: it is older, or as old with a
smaller number. -/
def Older (a b : Minefield) : Prop :=
  a.createdAt < b.createdAt ∨ (a.createdAt = b.createdAt ∧ a.id < b.id)

/-- Whether a field is swept before another one: it is larger, or as large with a
smaller number. -/
def Larger (a b : Minefield) : Prop :=
  b.qty < a.qty ∨ (a.qty = b.qty ∧ a.id < b.id)

instance : DecidableRel Older := fun _ _ => inferInstanceAs (Decidable (_ ∨ _))

instance : DecidableRel Larger := fun _ _ => inferInstanceAs (Decidable (_ ∨ _))

instance : IsStrictOrder Minefield Older where
  irrefl field older := by
    unfold Older MinefieldId at older
    omega
  trans a b c first second := by
    unfold Older MinefieldId at *
    omega

instance : IsStrictOrder Minefield Larger where
  irrefl field larger := by
    unfold Larger MinefieldId at larger
    omega
  trans a b c first second := by
    unfold Larger MinefieldId at *
    omega

/-- The mines of some fields. -/
def count (fields : List Minefield) : Nat :=
  (fields.map (·.qty)).sum

/-- What is left of a field from which up to some mines are taken. -/
def remnant (field : Minefield) (wanted : Nat) : Option Minefield :=
  if field.qty ≤ wanted then none else some { field with qty := field.qty - wanted }

theorem remnant_zero {field : Minefield} (stocked : 0 < field.qty) :
    field.remnant 0 = some field := by
  rw [remnant, if_neg (by omega)]
  rfl

theorem qty_le_count {fields : List Minefield} {field : Minefield} (member : field ∈ fields) :
    field.qty ≤ count fields :=
  List.le_sum_of_mem (List.mem_map_of_mem member)

/-- Empty fields count for nothing. -/
theorem count_stocked (fields : List Minefield) :
    count (fields.filter fun field => decide (0 < field.qty)) = count fields := by
  induction fields with
  | nil => rfl
  | cons field rest ih =>
    unfold count at ih ⊢
    rw [List.filter_cons]
    split
    · rw [List.map_cons, List.map_cons, List.sum_cons, List.sum_cons, ih]
    · next empty =>
      rw [ih, List.map_cons, List.sum_cons]
      have none : field.qty = 0 := by simpa using empty
      omega

theorem consume_zero (fields : List Minefield) : consume fields 0 = (0, []) := by
  cases fields <;> simp [consume]

/-- Asking for more mines than there are is asking for all of them. -/
theorem consume_min (fields : List Minefield) (amount : Nat) :
    consume fields (min amount (count fields)) = consume fields amount := by
  induction fields generalizing amount with
  | nil => rfl
  | cons field rest ih =>
    have counted : count (field :: rest) = field.qty + count rest := rfl
    rw [consume, consume, counted]
    by_cases none : amount = 0
    · simp [none]
    · by_cases empty : field.qty = 0
      · simp only [empty, none, Nat.zero_add, if_true, if_false, ih]
        split
        · next clear => rw [← ih, clear, consume_zero]
        · rfl
      · have some : min amount (field.qty + count rest) ≠ 0 := by omega
        have taken : min field.qty (min amount (field.qty + count rest)) =
            min field.qty amount := by omega
        have left : min amount (field.qty + count rest) - min field.qty amount =
            min (amount - min field.qty amount) (count rest) := by omega
        have emptied : field.qty ≤ min amount (field.qty + count rest) ↔ field.qty ≤ amount := by
          omega
        rw [if_neg some, if_neg none, if_neg empty, if_neg empty]
        simp only [taken, left, emptied, ih]

/-- Where no mines are taken no field changes. -/
theorem consume_nothing {fields : List Minefield} {amount : Nat} {changes : List Change}
    (nothing : consume fields amount = (0, changes)) : changes = [] := by
  have taken := consume_taken fields amount
  rw [nothing] at taken
  have clear : min amount (count fields) = 0 := taken.symm
  rw [← consume_min, clear, consume_zero] at nothing
  exact (congrArg Prod.snd nothing).symm

/-- The hostile fields are those with mines that grant the player no access. -/
theorem hostile_eq (fields : List Minefield) (player : PlayerId) (corp : Option CorpId) :
    hostile fields player corp =
      (fields.filter fun field => !field.owner.grantsAccess player corp).filter
        fun field => decide (0 < field.qty) := by
  unfold hostile
  rw [List.filter_filter]
  simp only [isHostileTo_eq_not_grantsAccess]

end Minefield

namespace World

open Minefield

variable {world : World} {fields : List Minefield}

/-- Taking mines leaves every field alone that is not among those given. -/
theorem get?_consume_apart {id : MinefieldId} (apart : ∀ field ∈ fields, id ≠ field.id)
    (amount : Nat) :
    (world.writtenAll ((consume fields amount).2.map Change.toWrite)).minefields.get? id =
      world.minefields.get? id := by
  induction fields generalizing world amount with
  | nil => rfl
  | cons field rest ih =>
    have others := fun other member => apart other (.tail _ member)
    rw [consume]
    split
    · rfl
    · split
      · exact ih others amount
      · dsimp only
        split
        · refine (ih others _).trans ?_
          change (world.minefields.erase field.id).get? id = _
          rw [Table.get?_erase, if_neg (apart field (.head _))]
        · refine (ih others _).trans ?_
          exact Table.get?_insert_of_ne _ _ (apart field (.head _))

/-- The first field loses what is wanted. -/
theorem Holds.get?_consume_head {rest : List Minefield} {field : Minefield}
    (holds : world.Holds (field :: rest)) (stocked : 0 < field.qty) (amount : Nat) :
    (world.writtenAll ((consume (field :: rest) amount).2.map Change.toWrite)).minefields.get?
      field.id = field.remnant amount := by
  have apart := (List.pairwise_cons.mp holds.distinct).1
  have stored := holds.stored field (.head _)
  rw [consume, if_neg (by omega : ¬ field.qty = 0)]
  split
  · next none =>
    rw [none, remnant_zero stocked]
    exact stored
  · dsimp only
    split
    · next emptied =>
      rw [remnant, if_pos emptied]
      refine (get?_consume_apart apart _).trans ?_
      change (world.minefields.erase field.id).get? field.id = none
      rw [Table.get?_erase, if_pos rfl]
    · next kept =>
      rw [remnant, if_neg kept, Nat.min_eq_right (by omega : amount ≤ field.qty)]
      refine (get?_consume_apart apart _).trans ?_
      exact Table.get?_insert_self _ _ _

/-- A field loses what the fields before it leave wanted. -/
theorem Holds.get?_consume {before rest : List Minefield} {field : Minefield}
    (holds : world.Holds (before ++ field :: rest)) (stocked : 0 < field.qty) (amount : Nat) :
    (world.writtenAll
        ((consume (before ++ field :: rest) amount).2.map Change.toWrite)).minefields.get?
      field.id = field.remnant (amount - count before) := by
  induction before generalizing world amount with
  | nil => exact holds.get?_consume_head stocked amount
  | cons first others ih =>
    have counted : count (first :: others) = first.qty + count others := rfl
    rw [List.cons_append] at holds ⊢
    rw [consume, counted]
    split
    · next none =>
      rw [none, Nat.zero_sub, remnant_zero stocked]
      exact holds.tail.stored field (List.mem_append_right _ (.head _))
    · split
      · next empty =>
        rw [empty, Nat.zero_add]
        exact ih holds.tail amount
      · have wanted : amount - (first.qty + count others) =
            amount - min first.qty amount - count others := by omega
        rw [wanted]
        dsimp only
        split
        · exact ih holds.remove.1 _
        · exact ih (holds.shrink (Nat.min_le_left first.qty amount)).1 _

/-- The fields of a sector that grant a player no access. -/
def threats (world : World) (sector : SectorId) (player : PlayerId) : List Minefield :=
  (world.minefieldsIn sector).filter fun field =>
    !field.owner.grantsAccess player ((world.membershipOf player).map (·.corp))

end World

namespace Minefield

variable {first : Minefield → Minefield → Prop} [DecidableRel first]

/-- The mines of the fields that come before one of them. -/
def ahead (first : Minefield → Minefield → Prop) [DecidableRel first] (fields : List Minefield)
    (field : Minefield) : Nat :=
  count (fields.filter fun other => decide (first other field))

/-- What becomes of minefields when up to some mines are taken from some of them,
the first ones first. -/
structure Depletes (first : Minefield → Minefield → Prop) [DecidableRel first] (most : Nat)
    (fields : List Minefield) (before after : Table MinefieldId Minefield) : Prop where
  /-- As many mines go as may be taken, or all of them. -/
  taken : after.total (·.qty) + min most (count fields) = before.total (·.qty)
  /-- A field loses what is still wanted after the fields before it. -/
  lost : ∀ field ∈ fields, 0 < field.qty →
    after.get? field.id = field.remnant (most - ahead first fields field)
  /-- Where a field loses mines those before it are gone. -/
  order : ∀ earlier ∈ fields, ∀ later ∈ fields, first earlier later → 0 < earlier.qty →
    0 < later.qty → after.get? later.id ≠ some later → after.get? earlier.id = none
  /-- All other fields stay as they are, and so do those without mines. -/
  spared : ∀ id field, before.get? id = some field → (field ∈ fields → field.qty = 0) →
    after.get? id = some field
  /-- Fields keep all but their mines, and none is left empty. -/
  kept : Remain before after

/-- In a list in order the fields before one of them stand before it. -/
theorem ahead_sorted [IsStrictOrder Minefield first] {before rest : List Minefield}
    {field : Minefield} (sorted : (before ++ field :: rest).Pairwise first) :
    ahead first (before ++ field :: rest) field = count before := by
  obtain ⟨_, tail, across⟩ := List.pairwise_append.mp sorted
  have earlier : before.filter (fun other => decide (first other field)) = before :=
    List.filter_eq_self.mpr fun other member => decide_eq_true (across other member field (.head _))
  have later : (field :: rest).filter (fun other => decide (first other field)) = [] := by
    refine List.filter_eq_nil_iff.mpr fun other member ahead => ?_
    have ahead : first other field := of_decide_eq_true ahead
    rcases List.mem_cons.mp member with rfl | among
    · exact irrefl other ahead
    · exact irrefl field (IsTrans.trans _ _ _ ((List.pairwise_cons.mp tail).1 other among) ahead)
  rw [ahead, List.filter_append, earlier, later, List.append_nil]

/-- What is before a field is told by the fields that have mines, in any order. -/
theorem ahead_perm {fields sorted : List Minefield}
    (perm : (fields.filter fun field => decide (0 < field.qty)).Perm sorted) (field : Minefield) :
    ahead first sorted field = ahead first fields field := by
  have same := (perm.filter fun other => decide (first other field)).map (·.qty)
  unfold ahead
  rw [← count_stocked (fields.filter _), List.filter_comm]
  exact same.sum_eq.symm

/-- A field that comes before another one has its mines before those. -/
theorem ahead_of_first [IsStrictOrder Minefield first] {fields : List Minefield}
    {earlier later : Minefield} (member : earlier ∈ fields) (precedes : first earlier later) :
    ahead first fields earlier + earlier.qty ≤ ahead first fields later := by
  have split : (fields.filter fun other => decide (first other later)).filter
      (fun other => decide (first other earlier)) =
        fields.filter fun other => decide (first other earlier) := by
    rw [List.filter_filter]
    refine List.filter_congr fun other _ => ?_
    by_cases before : first other earlier
    · simp [before, IsTrans.trans _ _ _ before precedes]
    · simp [before]
  -- `earlier` is among the fields before `later`, and not before itself.
  have parted := List.filter_append_perm (fun other => decide (first other earlier))
    (fields.filter fun other => decide (first other later))
  have own : earlier ∈ (fields.filter fun other => decide (first other later)).filter
      fun other => !decide (first other earlier) := by
    refine List.mem_filter.mpr ⟨List.mem_filter.mpr ⟨member, decide_eq_true precedes⟩, ?_⟩
    simp [irrefl earlier]
  have counted := sum_perm parted
  rw [List.map_append, List.sum_append, split] at counted
  have least := qty_le_count own
  unfold ahead count at *
  omega

end Minefield

namespace World

open Minefield

variable {world : World} {first : Minefield → Minefield → Prop} [DecidableRel first]
  {fields sorted : List Minefield}

/-- A field loses what is still wanted after those that come before it. -/
theorem Holds.get?_ordered [IsStrictOrder Minefield first] (holds : world.Holds sorted)
    (perm : (fields.filter fun field => decide (0 < field.qty)).Perm sorted)
    (ordered : sorted.Pairwise first) (most : Nat) (field : Minefield) (member : field ∈ fields)
    (stocked : 0 < field.qty) :
    (world.writtenAll ((consume sorted most).2.map Change.toWrite)).minefields.get? field.id =
      field.remnant (most - ahead first fields field) := by
  have among : field ∈ sorted :=
    perm.mem_iff.mp (List.mem_filter.mpr ⟨member, decide_eq_true stocked⟩)
  obtain ⟨before, rest, rfl⟩ := List.append_of_mem among
  rw [← ahead_perm perm, ahead_sorted ordered]
  exact holds.get?_consume stocked most

/-- Taking mines from the fields that have some, in their order, depletes them. -/
theorem Holds.depletes [IsStrictOrder Minefield first] (holds : world.Holds sorted)
    (perm : (fields.filter fun field => decide (0 < field.qty)).Perm sorted)
    (ordered : sorted.Pairwise first) (most : Nat) :
    Depletes first most fields world.minefields
      (world.writtenAll ((consume sorted most).2.map Change.toWrite)).minefields := by
  have lost := holds.get?_ordered perm ordered most
  refine ⟨?_, lost, ?_, ?_, holds.remain_consume most⟩
  · have taking := mines_consume holds most
    have all : (sorted.map (·.qty)).sum = count fields := by
      rw [← count_stocked fields]
      exact (sum_perm perm).symm
    rw [consume_taken, all] at taking
    exact taking
  · intro earlier one later other precedes stocked some changed
    have least := ahead_of_first one precedes
    have wanted : most - ahead first fields later ≠ 0 := by
      intro none
      rw [lost later other some, none, remnant_zero some] at changed
      exact changed rfl
    rw [lost earlier one stocked, remnant, if_pos (by omega)]
  · intro id field stored apart
    refine (get?_consume_apart (fun other member same => ?_) most).trans stored
    have listed := perm.mem_iff.mpr member
    have own := holds.stored other member
    rw [← same, stored] at own
    cases own
    have none := apart (List.mem_of_mem_filter listed)
    have some := of_decide_eq_true (List.mem_filter.mp listed).2
    omega

end World

namespace Minefield

theorem strikeOrder_older {fields : List Minefield} {player : PlayerId} {corp : Option CorpId}
    (distinct : (strikeOrder fields player corp).Pairwise fun a b => a.id ≠ b.id) :
    (strikeOrder fields player corp).Pairwise Older := by
  have sorted : (strikeOrder fields player corp).Pairwise fun a b =>
      (decide (a.createdAt < b.createdAt) ||
        (a.createdAt == b.createdAt && decide (a.id ≤ b.id))) = true := by
    refine List.pairwise_mergeSort (fun a b c first second => ?_) (fun a b => ?_) _
    · grind
    · grind
  refine (sorted.and distinct).imp fun {a b} ⟨before, different⟩ => ?_
  unfold Older
  grind

theorem sweepOrder_larger {fields : List Minefield} {player : PlayerId} {corp : Option CorpId}
    (distinct : (sweepOrder fields player corp).Pairwise fun a b => a.id ≠ b.id) :
    (sweepOrder fields player corp).Pairwise Larger := by
  have sorted : (sweepOrder fields player corp).Pairwise fun a b =>
      (decide (b.qty < a.qty) || (a.qty == b.qty && decide (a.id ≤ b.id))) = true := by
    refine List.pairwise_mergeSort (fun a b c first second => ?_) (fun a b => ?_) _
    · grind
    · grind
  refine (sorted.and distinct).imp fun {a b} ⟨before, different⟩ => ?_
  unfold Larger
  grind

end Minefield

/-- On arrival up to five mines go off, however the hostile ones are counted. -/
theorem Plan.strike_eq (fields : List Minefield) (player : PlayerId) (corp : Option CorpId) :
    strike fields player corp =
      Minefield.consume (Minefield.strikeOrder fields player corp) Minefield.triggerCap := by
  have triggered : ∀ hostile, Minefield.triggered (Minefield.total hostile) =
      min Minefield.triggerCap (Minefield.count hostile) := by
    intro hostile
    rw [Minefield.total_eq, Minefield.triggered, ← Minefield.count]
    unfold Minefield.triggerCap counterMax
    omega
  unfold strike
  dsimp only
  rw [triggered, Minefield.consume_min]

namespace World

open Minefield

variable {world : World}

/-- The threats that have mines are the hostile fields. -/
theorem threats_stocked (world : World) (sector : SectorId) (player : PlayerId) :
    ((world.threats sector player).filter fun field => decide (0 < field.qty)) =
      hostile (world.minefieldsIn sector) player ((world.membershipOf player).map (·.corp)) :=
  (hostile_eq _ _ _).symm

/-- The threats of a sector that are met are depleted, the oldest first. -/
theorem Filed.strike_depletes (filed : world.Filed) (sector : SectorId) (player : PlayerId) :
    Depletes Older triggerCap (world.threats sector player) world.minefields
      (world.writtenAll ((Plan.strike (world.minefieldsIn sector) player
        ((world.membershipOf player).map (·.corp))).2.map Change.toWrite)).minefields := by
  have holds := filed.holds_strikeOrder sector player ((world.membershipOf player).map (·.corp))
  rw [Plan.strike_eq]
  refine holds.depletes ?_ (strikeOrder_older holds.distinct) _
  rw [threats_stocked]
  exact (List.mergeSort_perm _ _).symm

/-- The threats of a sector that are swept are depleted, the largest first. -/
theorem Filed.sweep_depletes (filed : world.Filed) (sector : SectorId) (player : PlayerId) :
    Depletes Larger sweepCapacity (world.threats sector player) world.minefields
      (world.writtenAll ((consume (sweepOrder (world.minefieldsIn sector) player
        ((world.membershipOf player).map (·.corp))) sweepCapacity).2.map
          Change.toWrite)).minefields := by
  have holds := filed.holds_sweepOrder sector player ((world.membershipOf player).map (·.corp))
  refine holds.depletes ?_ (sweepOrder_larger holds.distinct) _
  rw [threats_stocked]
  exact (List.mergeSort_perm _ _).symm

/-- Up to five of the threats of a sector go off. -/
theorem strike_count (world : World) (sector : SectorId) (player : PlayerId) :
    (Plan.strike (world.minefieldsIn sector) player
        ((world.membershipOf player).map (·.corp))).1 =
      min triggerCap (count (world.threats sector player)) := by
  rw [Plan.strike_taken, ← threats_stocked, ← count, count_stocked, Nat.min_comm]

end World

section Accepted

open Minefield

variable {settings : Settings} {now : Int} {player : PlayerId} {world after : World}
  {row : Player} {effects : Effects} {response : Response}

/-- What an accepted request leaves of the commander and of the minefields. -/
theorem Accepted.leaves {command : Command} (filed : world.Filed)
    (accepted : Accepted settings now player command world row effects response after) :
    ∃ saved, after.players.get? player = some saved ∧
      saved.sector = effects.commander.sector ∧ saved.credits = effects.commander.credits ∧
      after.minefields = (world.writtenAll effects.writes).minefields := by
  obtain ⟨experience, logs, same⟩ := accepted.state (filed.players player row accepted.found)
  refine ⟨(Rank.award experience effects.commander.toPlayer).1, ?_, ?_, ?_, ?_⟩
  · rw [same]
    exact Table.get?_insert_self _ _ _
  · rw [Rank.award_frame]
  · rw [Rank.award_frame]
  · rw [same]

/-- A move depletes the threats of the sector that it leads to, and what they cost
is paid after the raiders have been. -/
theorem Accepted.meets {target : Int} (filed : world.Filed)
    (accepted : Accepted settings now player (.move target) world row effects response after) :
    ∃ (there : SectorId) (saved : Player) (left : Int), (there : Int) = target ∧
      after.players.get? player = some saved ∧ saved.sector = there ∧
      Depletes Older triggerCap (world.threats there player) world.minefields after.minefields ∧
      left = row.credits - Plan.toll (world.eventAt there now) row.credits ∧
      saved.credits =
        left - strikeDamage (min triggerCap (count (world.threats there player))) left := by
  have own : row.id = player := filed.players player row accepted.found
  obtain ⟨turns, stamp, paid⟩ := Command.paidBy_frame (.move target) world settings now player row
  obtain ⟨saved, stored, sector, credits, mined⟩ := accepted.leaves filed
  have deed := accepted.deed
  rw [paid] at deed
  cases deed with
  | informed informs => cases informs
  | @moved _ there event destined reached happening =>
    cases happening
    have named := (Plan.destination?_eq_some.mp destined).2.2
    rw [Plan.arrival_eq] at sector credits mined
    have discovered : (world.written (.discover row.id there)).Filed := { filed with }
    refine ⟨there, saved, _, named, stored, sector, ?_, rfl, ?_⟩
    · rw [mined, ← own]
      exact discovered.strike_depletes there row.id
    · rw [credits, ← World.strike_count, ← own]
      rfl

/-- A sweep depletes the threats of the sector, and costs nothing. -/
theorem Accepted.clears (filed : world.Filed)
    (accepted : Accepted settings now player (.mine .sweep) world row effects response after) :
    ∃ saved, after.players.get? player = some saved ∧ saved.credits = row.credits ∧
      Depletes Larger sweepCapacity (world.threats row.sector player) world.minefields
        after.minefields := by
  have own : row.id = player := filed.players player row accepted.found
  obtain ⟨turns, stamp, paid⟩ := Command.paidBy_frame (.mine .sweep) world settings now player row
  obtain ⟨saved, stored, _, credits, mined⟩ := accepted.leaves filed
  have depletes := filed.sweep_depletes row.sector player
  have deed := accepted.deed
  rw [paid] at deed
  rw [mined]
  refine ⟨saved, stored, credits.trans ?_, ?_⟩
  · cases deed with
    | informed informs => cases informs
    | foundClear | swept => rfl
  · subst own
    cases deed with
    | informed informs => cases informs
    | foundClear consumed =>
      have consumed : consume (sweepOrder (world.minefieldsIn row.sector) row.id
        ((world.membershipOf row.id).map (·.corp))) sweepCapacity = _ := consumed
      rw [consumed, consume_nothing consumed] at depletes
      exact depletes
    | swept consumed =>
      have consumed : consume (sweepOrder (world.minefieldsIn row.sector) row.id
        ((world.membershipOf row.id).map (·.corp))) sweepCapacity = _ := consumed
      rw [consumed] at depletes
      exact depletes

end Accepted

/-- An accepted move takes up to five mines from the threats of the sector that it
leads to, the oldest fields first, and for each fifty of the credits that the
raiders have left, as far as these go. An accepted sweep takes up to ten from the
threats of its sector, the largest fields first, and costs nothing. No field is
empty then if none was there at the start of a course. -/
theorem mines_go_in_order {settings : Settings} {now : Int} {player : PlayerId}
    {request : Request} {storage after : Storage} {response : Response}
    (reachable : storage.world.Reachable)
    (executed : Storage.execute settings now player request storage = (.ok response, after))
    (accepted : response.ok = true) :
    ∃ row saved, storage.world.players.get? player = some row ∧
      after.world.players.get? player = some saved ∧
      (∀ target, Command.ofRequest request = .move target →
        ∃ (there : SectorId) (left : Int), (there : Int) = target ∧ saved.sector = there ∧
          Minefield.Depletes Minefield.Older 5 (storage.world.threats there player)
            storage.world.minefields after.world.minefields ∧
          left = row.credits - Plan.toll (storage.world.eventAt there now) row.credits ∧
          saved.credits = left - min
            ((min 5 (Minefield.count (storage.world.threats there player)) : Nat) * 50 : Int)
            (max left 0) ∧
          (0 ≤ row.credits → 0 ≤ left ∧ 0 ≤ saved.credits)) ∧
      (Command.ofRequest request = .mine .sweep →
        Minefield.Depletes Minefield.Larger 10 (storage.world.threats row.sector player)
          storage.world.minefields after.world.minefields ∧
        saved.credits = row.credits) ∧
      ∀ start : World, start.Reachable → start.minefields = .empty → start.Leads storage.world →
        ∀ id field, after.world.minefields.get? id = some field → 0 < field.qty := by
  have filed := reachable.filed
  have next : storage.world.Next after.world := .command executed
  have stocked : ∀ start : World, start.Reachable → start.minefields = .empty →
      start.Leads storage.world →
      ∀ id field, after.world.minefields.get? id = some field → 0 < field.qty := by
    intro start laid clear leads id field found
    have mined := (leads.keeps (World.Mined.clear laid clear) World.Mined.next).next next
    exact (mined.harboured id field found).mines
  rcases Storage.outcomes executed with ⟨_, failed, _⟩ | ⟨_, _, answered, refused⟩ |
    ⟨_, row, effects, answered, deed⟩
  · cases failed
  · cases answered
    rw [refused.refusal] at accepted
    cases accepted
  · cases answered
    have found := deed.found
    obtain ⟨saved, stored, _⟩ := deed.leaves filed
    refine ⟨row, saved, found, stored, fun target asked => ?_, fun asked => ?_, stocked⟩
    · rw [asked] at deed
      obtain ⟨there, other, left, named, stored', sector, depletes, met, paid⟩ := deed.meets filed
      cases Option.some.inj (stored.symm.trans stored')
      refine ⟨there, left, named, sector, depletes, met, ?_, fun funded => ?_⟩
      · exact paid
      · have toll : Plan.toll (storage.world.eventAt there now) row.credits ≤ row.credits := by
          unfold Plan.toll
          split
          · split <;> omega
          · exact funded
        unfold Minefield.strikeDamage at paid
        omega
    · rw [asked] at deed
      obtain ⟨other, stored', free, depletes⟩ := deed.clears filed
      cases Option.some.inj (stored.symm.trans stored')
      exact ⟨depletes, free⟩

/-- A way to a sector with mines of a stranger and of the pilot. -/
def Drill.besieged : World :=
  let linked := ((World.empty.addSector 1 "Sol").addSector 2 "Vega").addWarp (1, 2)
  ((linked.addMinefield ⟨0, 2, .player 9, 7, 5⟩).addMinefield ⟨0, 2, .player 7, 4, 1⟩).addPlayer
    (Settings.standard.newPlayer 7 "ada" 1 ⟨1, "Season 1", startTime⟩ startTime)

theorem Drill.besieged_reachable : besieged.Reachable :=
  .seed (.seed (.seed (.seed (.seed (.seed .empty (.sector 1 "Sol")) (.sector 2 "Vega"))
    (.warp (1, 2))) (.minefield _)) (.minefield _)) (.player _)

/-- Of the stranger's seven mines five go off under the pilot who arrives, and the
pilot's own, which are older, stay. -/
theorem mines_go_in_order_besieged :
    ∃ response after saved, Storage.execute Settings.standard Drill.startTime 7 (Drill.moveTo 2)
        (.ofWorld Drill.besieged) = (.ok response, after) ∧
      after.world.players.get? 7 = some saved ∧ saved.credits = 750 ∧
      after.world.minefields.get? 1 = some ⟨1, 2, .player 9, 2, 5⟩ ∧
      after.world.minefields.get? 2 = some ⟨2, 2, .player 7, 4, 1⟩ := by
  obtain ⟨response, after, executed, accepted⟩ := Storage.execute_answered
    (show (Storage.execute Settings.standard Drill.startTime 7 (Drill.moveTo 2)
      (.ofWorld Drill.besieged)).1.toOption.map Response.ok = some true by decide +kernel)
  have asked : Command.ofRequest (Drill.moveTo 2) = .move 2 := by decide +kernel
  have funds : (Drill.besieged.players.get? 7).map (·.credits) = some 1000 := by decide +kernel
  have quiet : Drill.besieged.eventAt 2 Drill.startTime = none := by decide +kernel
  have threats : Drill.besieged.threats 2 7 = [⟨1, 2, .player 9, 7, 5⟩] := by decide +kernel
  have own : Drill.besieged.minefields.get? 2 = some ⟨2, 2, .player 7, 4, 1⟩ := by
    decide +kernel
  obtain ⟨row, saved, found, stored, moved, _⟩ :=
    mines_go_in_order Drill.besieged_reachable executed accepted
  obtain ⟨there, left, named, _, depletes, toll, paid, _⟩ := moved 2 asked
  obtain rfl : there = 2 := Int.ofNat.inj named
  change Drill.besieged.players.get? 7 = some row at found
  change left = row.credits - Plan.toll (Drill.besieged.eventAt 2 Drill.startTime) row.credits
    at toll
  change saved.credits = left - min
    ((min 5 (Minefield.count (Drill.besieged.threats 2 7)) : Nat) * 50 : Int) (max left 0) at paid
  change Minefield.Depletes _ _ (Drill.besieged.threats 2 7) Drill.besieged.minefields _
    at depletes
  rw [found] at funds
  have funds : row.credits = 1000 := Option.some.inj funds
  rw [threats] at paid depletes
  rw [quiet, funds] at toll
  subst toll
  refine ⟨response, after, saved, executed, stored, paid, ?_, ?_⟩
  · exact depletes.lost _ (.head _) (by decide)
  · exact depletes.spared 2 _ own (by decide)

end Starlane
