import Starlane.Proofs.Filing

/-!
# What becomes of mines that are taken

`consume` takes as many mines as asked for, or all there are, and its changes
lower the mines of the world by exactly that number. The fields it is given are
those of a sector, each stored under its own number.
-/

namespace Starlane

namespace Minefield

/-- Mines are taken up to the amount asked for. -/
theorem consume_taken (fields : List Minefield) (amount : Nat) :
    (consume fields amount).1 = min amount (fields.map (·.qty)).sum := by
  induction fields generalizing amount with
  | nil => simp [consume]
  | cons field rest ih =>
    rw [consume, List.map_cons, List.sum_cons]
    split
    · next none => rw [none, Nat.zero_min]
    · split
      · next clear => rw [ih, clear, Nat.zero_add]
      · dsimp only
        rw [ih]
        omega

/-- Counting on from a sum that has met its limit or not. -/
theorem foldl_addCapped (fields : List Minefield) (sum : Nat) :
    fields.foldl (fun sum field => addCapped sum field.qty) (min sum counterMax) =
      min (sum + (fields.map (·.qty)).sum) counterMax := by
  induction fields generalizing sum with
  | nil => simp
  | cons field rest ih =>
    have step : addCapped (min sum counterMax) field.qty = min (sum + field.qty) counterMax := by
      unfold addCapped
      omega
    rw [List.foldl_cons, step, ih, List.map_cons, List.sum_cons, Nat.add_assoc]

/-- A count of mines is their sum, as far as a counter goes. -/
theorem total_eq (fields : List Minefield) :
    total fields = min (fields.map (·.qty)).sum counterMax := by
  have counted := foldl_addCapped fields 0
  rw [Nat.zero_min, Nat.zero_add] at counted
  exact counted

theorem sum_perm {first second : List Minefield} (perm : first.Perm second) :
    (first.map (·.qty)).sum = (second.map (·.qty)).sum :=
  (perm.map _).sum_eq

end Minefield

namespace World

/-- All mines of a world. -/
def mines (world : World) : Nat :=
  world.minefields.total (·.qty)

/-- The mines in a sector that threaten a player. -/
def hostileMines (world : World) (sector : SectorId) (player : PlayerId) (corp : Option CorpId) :
    Nat :=
  ((Minefield.hostile (world.minefieldsIn sector) player corp).map (·.qty)).sum

/-- Whether some fields are different ones, all stored in the world. -/
structure Holds (world : World) (fields : List Minefield) : Prop where
  distinct : fields.Pairwise fun a b => a.id ≠ b.id
  stored : ∀ field ∈ fields, world.minefields.get? field.id = some field

theorem Holds.perm {world : World} {first second : List Minefield} (holds : world.Holds first)
    (perm : first.Perm second) : world.Holds second where
  distinct := holds.distinct.perm perm fun different => different.symm
  stored field member := holds.stored field (perm.mem_iff.mpr member)

theorem Filed.holds_hostile {world : World} (filed : world.Filed) (sector : SectorId)
    (player : PlayerId) (corp : Option CorpId) :
    world.Holds (Minefield.hostile (world.minefieldsIn sector) player corp) where
  distinct := (filed.minefields.distinct.filter _).filter _
  stored _ member :=
    filed.minefields.get?_of_mem (List.mem_of_mem_filter (List.mem_of_mem_filter member))

theorem Filed.holds_strikeOrder {world : World} (filed : world.Filed) (sector : SectorId)
    (player : PlayerId) (corp : Option CorpId) :
    world.Holds (Minefield.strikeOrder (world.minefieldsIn sector) player corp) :=
  (filed.holds_hostile sector player corp).perm (List.mergeSort_perm _ _).symm

theorem Filed.holds_sweepOrder {world : World} (filed : world.Filed) (sector : SectorId)
    (player : PlayerId) (corp : Option CorpId) :
    world.Holds (Minefield.sweepOrder (world.minefieldsIn sector) player corp) :=
  (filed.holds_hostile sector player corp).perm (List.mergeSort_perm _ _).symm

theorem Holds.tail {world : World} {field : Minefield} {rest : List Minefield}
    (holds : world.Holds (field :: rest)) : world.Holds rest where
  distinct := (List.pairwise_cons.mp holds.distinct).2
  stored other member := holds.stored other (.tail _ member)

/-- Removing a stored field leaves the others and takes its mines away. -/
theorem Holds.remove {world : World} {field : Minefield} {rest : List Minefield}
    (holds : world.Holds (field :: rest)) :
    (world.written (.deleteMinefield field.id)).Holds rest ∧
      (world.written (.deleteMinefield field.id)).mines + field.qty = world.mines := by
  have apart := (List.pairwise_cons.mp holds.distinct).1
  have share : world.minefields.share (·.qty) field.id = field.qty :=
    Table.share_of_get? _ (holds.stored field (.head _))
  refine ⟨⟨holds.tail.distinct, fun other member => ?_⟩, ?_⟩
  · change (world.minefields.erase field.id).get? other.id = _
    rw [Table.get?_erase, if_neg (apart other member).symm]
    exact holds.tail.stored other member
  · have erased := world.minefields.total_erase field.id (·.qty)
    rw [share] at erased
    exact erased

/-- A stored field that keeps fewer mines leaves the others and takes the
difference away. -/
theorem Holds.shrink {world : World} {field : Minefield} {rest : List Minefield}
    (holds : world.Holds (field :: rest)) {taken : Nat} (fewer : taken ≤ field.qty) :
    (world.written (.saveMinefield { field with qty := field.qty - taken })).Holds rest ∧
      (world.written (.saveMinefield { field with qty := field.qty - taken })).mines + taken =
        world.mines := by
  have apart := (List.pairwise_cons.mp holds.distinct).1
  have share : world.minefields.share (·.qty) field.id = field.qty :=
    Table.share_of_get? _ (holds.stored field (.head _))
  refine ⟨⟨holds.tail.distinct, fun other member => ?_⟩, ?_⟩
  · change (world.minefields.insert field.id _).get? other.id = _
    rw [Table.get?_insert, if_neg (apart other member).symm]
    exact holds.tail.stored other member
  · have saved := world.minefields.total_insert field.id
      { field with qty := field.qty - taken } (·.qty)
    rw [share] at saved
    change (world.minefields.insert field.id _).total (·.qty) + _ = world.minefields.total (·.qty)
    dsimp only at saved
    omega

/-- Taking mines from stored fields lowers the mines of the world by the number
taken. -/
theorem mines_consume {world : World} {fields : List Minefield} (holds : world.Holds fields)
    (amount : Nat) :
    (world.writtenAll ((Minefield.consume fields amount).2.map Minefield.Change.toWrite)).mines +
      (Minefield.consume fields amount).1 = world.mines := by
  induction fields generalizing world amount with
  | nil => rfl
  | cons field rest ih =>
    rw [Minefield.consume]
    split
    · rfl
    · split
      · exact ih holds.tail amount
      · dsimp only
        split
        -- The rest is taken after this field is written, so it must still be stored then.
        · next emptied =>
          obtain ⟨held, removed⟩ := holds.remove
          have rested := ih held (amount - min field.qty amount)
          change (World.writtenAll (world.written (.deleteMinefield field.id)) _).mines + _ = _
          omega
        · next kept =>
          obtain ⟨held, shrunk⟩ := holds.shrink (Nat.min_le_left field.qty amount)
          have rested := ih held (amount - min field.qty amount)
          change (World.writtenAll (world.written (.saveMinefield { field with
            qty := field.qty - min field.qty amount })) _).mines + _ = _
          omega

end World

end Starlane
