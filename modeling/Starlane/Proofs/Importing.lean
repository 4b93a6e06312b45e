import Starlane.Proofs.Calling
import Starlane.Proofs.Outset
import Starlane.Proofs.Passage
import Starlane.Proofs.Timetable

/-!
# Universes laid one over another

A server and a game in memory lay universes over what there is in code of their
own. On both sides sectors and ports take the place of those with the same
numbers, the last one of a document included, and each warp is there once. So
both have the same map after the same documents, and to lay the last universe
again is to change nothing.
-/

namespace Starlane

namespace Table

variable {κ α β : Type} [Key κ] [DecidableEq κ] {table other : Table κ α}

/-- Setting values leaves other keys alone. -/
theorem get?_insertAll_of_ne (values : List β) (keyOf : β → κ) (valueOf : β → α) {key : κ}
    (apart : ∀ value ∈ values, keyOf value ≠ key) :
    (values.foldl (fun table value => table.insert (keyOf value) (valueOf value)) table).get? key =
      table.get? key := by
  induction values generalizing table with
  | nil => rfl
  | cons value rest ih =>
    rw [List.foldl_cons, ih fun other later => apart other (.tail _ later),
      get?_insert_of_ne _ _ (apart value (.head _)).symm]

/-- Tables that differ only under the keys of some values are the same with these
values set. -/
theorem insertAll_congr (values : List β) (keyOf : β → κ) (valueOf : β → α)
    (same : ∀ key, (∀ value ∈ values, keyOf value ≠ key) → other.get? key = table.get? key) :
    values.foldl (fun table value => table.insert (keyOf value) (valueOf value)) other =
      values.foldl (fun table value => table.insert (keyOf value) (valueOf value)) table := by
  induction values generalizing table other with
  | nil => exact eq_of_get? fun key => same key nofun
  | cons value rest ih =>
    refine ih fun key apart => ?_
    rw [get?_insert, get?_insert]
    split
    · rfl
    · next different =>
      refine same key fun member listed => ?_
      rcases List.mem_cons.mp listed with rfl | later
      · exact Ne.symm different
      · exact apart member later

/-- Values that are set again, in the same order, are there already; of values
under one key it is the last. -/
theorem insertAll_insertAll (table : Table κ α) (values : List β) (keyOf : β → κ)
    (valueOf : β → α) :
    values.foldl (fun table value => table.insert (keyOf value) (valueOf value))
        (values.foldl (fun table value => table.insert (keyOf value) (valueOf value)) table) =
      values.foldl (fun table value => table.insert (keyOf value) (valueOf value)) table :=
  insertAll_congr values keyOf valueOf fun _ apart =>
    get?_insertAll_of_ne values keyOf valueOf apart

/-- Values are set alike in tables that show each other's values. -/
theorem get?_insertAll_map {γ : Type} {shown : Table κ γ} {show' : α → γ}
    (same : ∀ key, shown.get? key = (table.get? key).map show') (values : List β) (keyOf : β → κ)
    (valueOf : β → α) (key : κ) :
    (values.foldl (fun table value => table.insert (keyOf value) (show' (valueOf value)))
        shown).get? key =
      ((values.foldl (fun table value => table.insert (keyOf value) (valueOf value))
        table).get? key).map show' := by
  induction values generalizing table shown with
  | nil => exact same key
  | cons value rest ih =>
    refine ih fun key => ?_
    rw [get?_insert, get?_insert]
    split
    · rfl
    · exact same key

end Table

/-- The warps of a universe are listed once each. -/
theorem Universe.nodup_edges (layout : Universe) : layout.edges.Nodup :=
  (List.mergeSort_perm _ _).nodup_iff.mpr (nodup_eraseDups _)

theorem World.mem_addUniverse {world : World} {layout : Universe} {warp : SectorId × SectorId} :
    warp ∈ (world.addUniverse layout).warps.keys ↔
      warp ∈ layout.edges ∨ warp ∈ world.warps.keys := by
  rw [Table.mem_keys_iff, Table.mem_keys_iff]
  refine (Table.contains_insertAll layout.edges id fun _ => ()).trans ?_
  simp only [id_eq, exists_eq_right]

/-- To lay a universe over itself is to change nothing. -/
theorem World.addUniverse_addUniverse (world : World) (layout : Universe) :
    (world.addUniverse layout).addUniverse layout = world.addUniverse layout := by
  have sectors := world.sectors.insertAll_insertAll layout.sectors (·.id) id
  have warps := world.warps.insertAll_insertAll layout.edges id fun _ => ()
  have ports := world.ports.insertAll_insertAll layout.ports (·.sector) id
  simp only [id_eq] at sectors warps ports
  simp only [addUniverse, sectors, warps, ports]

namespace Server

namespace Relation

variable {ρ : Type} [Row ρ]

/-- The rows after rows have taken the place of others. -/
theorem rows_updateAll {β : Type} (values : List β) (row : β → ρ) (relation : Relation ρ) :
    (values.foldl (fun relation value => relation.update (row value)) relation).rows =
      values.foldl (fun table value => table.insert (Row.key (row value)) (row value))
        relation.rows := by
  induction values generalizing relation with
  | nil => rfl
  | cons value rest ih => exact ih _

end Relation

namespace Database

variable {db : Database} {world : World} {layout : Universe} {call : Call} {document : String}

/-- The directed warps of a server, in the order of their rows. -/
def warpEnds (db : Database) : List (SectorId × SectorId) :=
  db.warps.rows.values.map fun row => (row.source, row.target)

/-- Whether a server has the map of a world: the same sectors, the same warps once
each, and the rows of the same ports. -/
structure Lays (db : Database) (world : World) : Prop where
  sectors : db.sectors.rows = world.sectors
  warps : db.warpEnds.Perm world.warps.keys
  ports : ∀ sector, db.ports.rows.get? sector = (world.ports.get? sector).map PortRow.ofPort
  numbered : db.warps.Numbered

/-- The row for a directed warp, before it is numbered. -/
def newWarp (warp : SectorId × SectorId) : WarpRow :=
  ⟨0, warp.1, warp.2⟩

/-- The server with a universe laid out: its sectors and ports in the place of
others, and its new warps after the ones there are. -/
def laidOut (db : Database) (layout : Universe) : Database :=
  { db with
    sectors := layout.sectors.foldl Relation.update db.sectors
    ports := layout.ports.foldl (fun table port => table.update (.ofPort port)) db.ports
    warps := ((db.newWarps layout).map newWarp).foldl Relation.append db.warps }

/-- New warps are all stored. -/
theorem insertWarps_eq (ends : List (SectorId × SectorId)) (db : Database)
    (numbered : db.warps.Numbered) :
    insertWarps ends db =
      (.ok (), { db with warps := (ends.map newWarp).foldl Relation.append db.warps }) := by
  induction ends generalizing db with
  | nil => rfl
  | cons warp rest ih =>
    have inserted : db.warps.insert ⟨0, warp.1, warp.2⟩ = _ :=
      numbered.insert_new (newWarp warp) rfl fun _ _ => rfl
    rw [insertWarps, inserted]
    exact ih { db with warps := db.warps.append (newWarp warp) } (numbered.append _)

theorem addUniverse_eq (numbered : db.warps.Numbered) :
    db.addUniverse layout = (.ok (), db.laidOut layout) := by
  unfold addUniverse
  exact insertWarps_eq _ _ numbered

theorem mem_newWarps {warp : SectorId × SectorId} :
    warp ∈ db.newWarps layout ↔ warp ∈ layout.edges ∧ warp ∉ db.warpEnds := by
  have known : warp ∈ (db.warps.all.map fun row => (row.source, row.target)) ↔
      warp ∈ db.warpEnds := (db.warps.all_perm.map _).mem_iff
  unfold newWarps
  rw [List.mem_filter]
  simp [known]

theorem warpEnds_laidOut (numbered : db.warps.Numbered) :
    (db.laidOut layout).warpEnds = db.warpEnds ++ db.newWarps layout := by
  have listed : (db.laidOut layout).warpEnds = db.warpEnds ++
      ((db.newWarps layout).map newWarp).map fun row => (row.source, row.target) :=
    numbered.map_appendAll (fun _ _ => rfl) _
  rw [listed, List.map_map]
  exact congrArg _ (List.map_id _)

namespace Lays

/-- With its new warps stored, a server has those of the world and of the universe. -/
theorem warps_laid (lays : db.Lays world) (layout : Universe) :
    (db.warpEnds ++ db.newWarps layout).Perm (world.addUniverse layout).warps.keys := by
  have once : db.warpEnds.Nodup := lays.warps.nodup_iff.mpr world.warps.nodup_keys
  have fresh : (db.newWarps layout).Nodup := layout.nodup_edges.filter _
  refine (List.perm_ext_iff_of_nodup ?_ (Table.nodup_keys _)).mpr fun warp => ?_
  · exact once.append fresh fun warp old new => (mem_newWarps.mp new).2 old
  · rw [List.mem_append, mem_newWarps, World.mem_addUniverse, lays.warps.mem_iff]
    tauto

/-- A universe is laid out on a server as in the world that it has the map of. -/
theorem laidOut (lays : db.Lays world) (layout : Universe) :
    (db.laidOut layout).Lays (world.addUniverse layout) where
  sectors := by
    refine (Relation.rows_updateAll layout.sectors id db.sectors).trans ?_
    rw [lays.sectors]
    rfl
  warps := by
    rw [warpEnds_laidOut lays.numbered]
    exact lays.warps_laid layout
  ports sector := by
    refine (congrArg (Table.get? · sector)
      (Relation.rows_updateAll layout.ports PortRow.ofPort db.ports)).trans ?_
    exact Table.get?_insertAll_map lays.ports layout.ports (·.sector) id sector
  numbered := lays.numbered.appendAll _

/-- Two servers with one map have the same sectors and ports. -/
theorem unique {other : Database} (lays : db.Lays world) (again : other.Lays world) :
    other.sectors.rows = db.sectors.rows ∧ other.ports.rows = db.ports.rows :=
  ⟨again.sectors.trans lays.sectors.symm,
    Table.eq_of_get? fun sector => (again.ports sector).trans (lays.ports sector).symm⟩

/-- What is laid out again changes nothing. -/
theorem laidOut_laidOut (lays : db.Lays world) (layout : Universe) :
    let laid := db.laidOut layout
    let again := laid.laidOut layout
    again.sectors.rows = laid.sectors.rows ∧ again.warps = laid.warps ∧
      again.ports.rows = laid.ports.rows := by
  have first := lays.laidOut layout
  have second := first.laidOut layout
  rw [World.addUniverse_addUniverse] at second
  have known : (db.laidOut layout).newWarps layout = [] := by
    refine List.eq_nil_iff_forall_not_mem.mpr fun warp new => ?_
    obtain ⟨edge, missing⟩ := mem_newWarps.mp new
    rw [warpEnds_laidOut lays.numbered, List.mem_append, mem_newWarps] at missing
    tauto
  refine ⟨(first.unique second).1, ?_, (first.unique second).2⟩
  change ((Database.newWarps _ layout).map newWarp).foldl Relation.append _ = _
  rw [known]
  rfl

/-- The universes of several documents are laid out as in the world. -/
theorem laidOutAll (lays : db.Lays world) (layouts : List Universe) :
    (layouts.foldl Database.laidOut db).Lays (layouts.foldl World.addUniverse world) := by
  induction layouts generalizing db world with
  | nil => exact lays
  | cons layout rest ih => exact ih (lays.laidOut layout)

/-- A server without a map has that of the empty world. -/
theorem bare (sectors : db.sectors.rows = .empty) (warps : db.warps.rows = .empty)
    (ports : db.ports.rows = .empty) : db.Lays .empty where
  sectors := sectors
  warps := by
    unfold warpEnds
    rw [warps]
    exact .nil
  ports _ := by
    rw [ports]
    rfl
  numbered := by
    constructor <;> rw [warps] <;> nofun

theorem lookup_port (lays : db.Lays world) (sector : SectorId) :
    db.lookup.port sector = .ok (world.ports.get? sector) := by
  unfold lookup Relation.find?
  dsimp only
  rw [lays.ports]
  cases world.ports.get? sector with
  | none => rfl
  | some port => exact congrArg (Except.map some) (PortRow.toPort_ofPort port)

end Lays

/-- Whether a call is by an administrator, with a document that gives a universe. -/
structure Imports (db : Database) (order : Call × String) (layout : Universe) : Prop where
  permitted : db.isAdmin order.1.sender = true
  read : Universe.read order.2 = .ok layout

/-- The answers to some imports, each carried out after those before it, and the
server after them. -/
def importAll (db : Database) : List (Call × String) → List (Except CallError Unit) × Database
  | [] => ([], db)
  | order :: rest =>
    let (answer, after) := db.importUniverse order.1 order.2
    let (answers, last) := after.importAll rest
    (answer :: answers, last)

variable {orders : List (Call × String)} {layouts : List Universe}

theorem Imports.importUniverse_eq {order : Call × String} (imports : db.Imports order layout)
    (numbered : db.warps.Numbered) :
    db.importUniverse order.1 order.2 = (.ok (), db.laidOut layout) := by
  unfold importUniverse transaction
  simp only [imports.permitted, imports.read, if_true, addUniverse_eq numbered]

/-- Imports by administrators succeed, and lay out one universe after another. -/
theorem importAll_eq (numbered : db.warps.Numbered)
    (imports : List.Forall₂ db.Imports orders layouts) :
    db.importAll orders = (orders.map fun _ => .ok (), layouts.foldl Database.laidOut db) := by
  induction orders generalizing db layouts with
  | nil =>
    cases imports
    rfl
  | cons order rest ih =>
    cases imports with
    | @cons _ layout _ later first remaining =>
      have still : List.Forall₂ (db.laidOut layout).Imports rest later :=
        remaining.imp fun _ _ imports => ⟨imports.permitted, imports.read⟩
      rw [importAll, first.importUniverse_eq numbered]
      dsimp only
      rw [ih (numbered.appendAll _) still]
      rfl

/-- Imports touch neither settings nor players, so administrators stay what they are. -/
theorem isAdmin_laidOutAll (identity : Identity) :
    (layouts.foldl Database.laidOut db).isAdmin identity = db.isAdmin identity := by
  induction layouts generalizing db with
  | nil => rfl
  | cons layout rest ih => exact ih

/-- The last document gives the last universe. -/
theorem last_imported (imports : List.Forall₂ db.Imports orders layouts)
    {last : Call × String} (ends : orders.getLast? = some last) :
    ∃ front layout, layouts = front ++ [layout] ∧ Universe.read last.2 = .ok layout := by
  obtain ⟨earlier, rfl⟩ := List.getLast?_eq_some_iff.mp ends
  have tail := List.forall₂_drop_append layouts earlier [last] imports.flip
  generalize dropped : layouts.drop earlier.length = final at tail
  cases tail with
  | @cons layout _ _ _ given none =>
    cases none
    refine ⟨layouts.take earlier.length, layout, ?_, given.read⟩
    rw [← dropped, List.take_append_drop]

end Database

/-- A server and a game in memory have the same map after the same universes.
Imports by administrators into a server without a map all succeed. After any number
of them no warp is there twice; after all of them the server has the sectors, the
directed warps and the ports of a world in which the universes were laid out in the
same order. The last document, when it is imported once more, changes no sector, warp
or port. The server's tables may go through their rows in any order, and may leave out
keys. -/
theorem imports_agree {db : Database} {orders : List (Call × String)} {layouts : List Universe}
    (bare : db.sectors.rows = .empty ∧ db.warps.rows = .empty ∧ db.ports.rows = .empty)
    (imports : List.Forall₂ db.Imports orders layouts) :
    let world := layouts.foldl World.addUniverse .empty
    let after := (db.importAll orders).2
    (∀ answer ∈ (db.importAll orders).1, answer = .ok ()) ∧
      (∀ count, (db.importAll (orders.take count)).2.warpEnds.Nodup) ∧
      after.sectors.rows = world.sectors ∧
      after.warpEnds.Perm world.warps.keys ∧
      (∀ sector, after.ports.rows.get? sector = (world.ports.get? sector).map PortRow.ofPort ∧
        after.lookup.port sector = .ok (world.ports.get? sector)) ∧
      ∀ last call, orders.getLast? = some last → db.isAdmin call.sender = true →
        let again := after.importUniverse call last.2
        again.1 = .ok () ∧ again.2.sectors.rows = after.sectors.rows ∧
          again.2.warps.rows = after.warps.rows ∧ again.2.ports.rows = after.ports.rows := by
  intro world after
  obtain ⟨sectors, warps, ports⟩ := bare
  have start : db.Lays .empty := .bare sectors warps ports
  have laid : after = layouts.foldl Database.laidOut db :=
    congrArg Prod.snd (Database.importAll_eq start.numbered imports)
  have lays : after.Lays world := laid ▸ start.laidOutAll layouts
  refine ⟨fun answer listed => ?_, fun count => ?_, lays.sectors, lays.warps,
    fun sector => ⟨lays.ports sector, lays.lookup_port sector⟩, fun last call ends permitted => ?_⟩
  · rw [Database.importAll_eq start.numbered imports] at listed
    obtain ⟨_, _, same⟩ := List.mem_map.mp listed
    exact same.symm
  · have reached := start.laidOutAll (layouts.take count)
    rw [Database.importAll_eq start.numbered (List.forall₂_take count imports)]
    exact reached.warps.nodup_iff.mpr (Table.nodup_keys _)
  · obtain ⟨front, layout, rfl, read⟩ := Database.last_imported imports ends
    have still : after.isAdmin call.sender = true := by
      rw [laid, Database.isAdmin_laidOutAll, permitted]
    have again : after.Imports (call, last.2) layout := ⟨still, read⟩
    have same := (start.laidOutAll front).laidOut_laidOut layout
    rw [List.foldl_append] at laid
    rw [again.importUniverse_eq lays.numbered, laid]
    exact ⟨rfl, same.1, congrArg Relation.rows same.2.1, same.2.2⟩

/-- A document that tells again of two sectors and of the link between them, and
that lists two ports for one of them. -/
def Drill.harbourDocument : String :=
  "[[[0,\"Abyss\",true,9],[1,\"Pier\",false,0]],[[1,0],[0,1,true]],
    [[1,[\"SELL\",5,9,2,1],[\"BUY\",0,9,2,1],[\"BUY\",0,9,2,1]],
     [1,[\"BUY\",6,9,2,1],[\"SELL\",9,9,2,1],[\"BUY\",0,9,3,1]]]]"

/-- The second of its ports. -/
def Drill.pierMarket : Port :=
  ⟨1, ⟨Drill.demand 6 9 2 1, Drill.fullStock 9 2 1, Drill.demand 0 9 3 1⟩⟩

/-- Its universe. -/
def Drill.harbour : Universe where
  sectors := [⟨0, "Abyss", true, 9⟩, Drill.openSector 1 "Pier"]
  warps := [Drill.twoWay 1 0, ⟨0, 1, true⟩]
  ports := [⟨1, ⟨⟨.sell, 5, 9, 2, 1⟩, Drill.demand 0 9 2 1, Drill.demand 0 9 2 1⟩⟩,
    Drill.pierMarket]

theorem Drill.harbour_read : Universe.read Drill.harbourDocument = .ok Drill.harbour := by
  decide +kernel

/-- The owner of a server without a map imports both documents. -/
def Drill.surveys : List (Call × String) :=
  [(⟨7, 2000000⟩, Drill.straitsDocument), (⟨7, 3000000⟩, Drill.harbourDocument)]

/-- The second of the two ports counts, the link of both documents is there once, and
that of the first alone is still there. -/
theorem imports_agree_surveys :
    let after := (Drill.ready.importAll Drill.surveys).2
    after.lookup.port 1 = .ok (some Drill.pierMarket) ∧
      after.warpEnds.Nodup ∧ (1, 0) ∈ after.warpEnds ∧ (1, counterMax) ∈ after.warpEnds ∧
      (after.importUniverse ⟨7, 4000000⟩ Drill.harbourDocument).2.warps.rows = after.warps.rows := by
  have bare : Drill.ready.sectors.rows = .empty ∧ Drill.ready.warps.rows = .empty ∧
      Drill.ready.ports.rows = .empty := ⟨rfl, rfl, rfl⟩
  have owner : Drill.ready.isAdmin 7 = true := by decide +kernel
  have imports : List.Forall₂ Drill.ready.Imports Drill.surveys [Drill.straits, Drill.harbour] :=
    .cons ⟨owner, Drill.straits_read⟩ (.cons ⟨owner, Drill.harbour_read⟩ .nil)
  obtain ⟨_, once, _, warps, ports, again⟩ := imports_agree bare imports
  have last : Drill.surveys.getLast? = some (⟨7, 3000000⟩, Drill.harbourDocument) := rfl
  obtain ⟨_, _, same, _⟩ := again _ ⟨7, 4000000⟩ last owner
  have harbour : Drill.harbour.LinksTo 1 0 := .inl ⟨Drill.twoWay 1 0, by decide, rfl, rfl⟩
  have straits : Drill.straits.LinksTo 1 counterMax :=
    .inl ⟨⟨1, counterMax, true⟩, by decide, rfl, rfl⟩
  refine ⟨(ports 1).2, once 2, warps.mem_iff.mpr ?_, warps.mem_iff.mpr ?_, same⟩
  · exact World.mem_addUniverse.mpr (.inl (Universe.mem_edges.mpr harbour))
  · have first : (1, counterMax) ∈ (World.empty.addUniverse Drill.straits).warps.keys :=
      World.mem_addUniverse.mpr (.inl (Universe.mem_edges.mpr straits))
    exact World.mem_addUniverse.mpr (.inr first)

end Server

end Starlane
