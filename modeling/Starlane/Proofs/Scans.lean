import Starlane.Proofs.Decoding
import Starlane.Proofs.Hosting
import Starlane.Proofs.Reordered
import Starlane.Server.Change

/-!
# Scans in a database

A database keeps the scans of all players in one table, a document in each row.
The table has one row for each player and sector that was scanned, under a key
of its own, and the document is read as the last scan that was saved. So players
are shown just the scans that were saved for them.
-/

namespace Starlane.Server

/-- The last scan of each player of each sector. -/
abbrev ScanTable := Table (PlayerId × SectorId) Intel

/-- Whether the rows of a table are some scans, one for each. -/
structure Scanned (scans : ScanTable) (table : Relation IntelRow) : Prop where
  rows : Reordered (fun entry row => (row.player, row.sector) = entry.1 ∧
    row.toIntel = .ok entry.2) scans.entries table.rows.values
  numbered : table.Numbered

namespace Scanned

variable {scans : ScanTable} {table : Relation IntelRow} {player : PlayerId} {intel : Intel}

/-- A table without rows has no scans. -/
theorem vacant (empty : table.rows = .empty) : Scanned .empty table := by
  obtain ⟨rows, issued, host⟩ := table
  cases empty
  exact ⟨⟨[], .nil, .nil⟩, nofun, nofun⟩

/-- A player has one row at most of a sector. -/
theorem lone (scanned : Scanned scans table) {first second : IntelRow}
    (listed : first ∈ table.rows.values) (listed' : second ∈ table.rows.values)
    (player : first.player = second.player) (sector : first.sector = second.sector) :
    first = second := by
  have keys := scanned.rows.map (f := fun entry => entry.1)
    (g := fun row => (row.player, row.sector)) fun entry row same => same.1
  exact List.inj_on_of_nodup_map (keys.nodup_iff.mpr scans.nodup_keys) listed listed'
    (Prod.ext player sector)

/-- A row under a new key holds a scan of a sector that was not scanned before. -/
theorem append (scanned : Scanned scans table) (fits : intel.Fits)
    (absent : scans.get? (player, intel.sector) = none) :
    Scanned (scans.insert (player, intel.sector) intel) (table.append (.ofIntel player intel)) where
  numbered := scanned.numbered.append _
  rows := by
    have entered := scans.entries_insert_perm (player, intel.sector) intel
    rw [Table.entries_erase_absent absent] at entered
    have new := scanned.rows.cons (a := ((player, intel.sector), intel))
      (b := Row.withKey table.nextKey (IntelRow.ofIntel player intel))
      ⟨rfl, IntelRow.toIntel_ofIntel _ _ fits⟩
    rw [scanned.numbered.values_append]
    exact (new.left entered).perm (List.perm_append_singleton _ _)

/-- The row of a sector that was scanned before holds the new scan. -/
theorem renew (scanned : Scanned scans table) (fits : intel.Fits) {old : IntelRow}
    (listed : old ∈ table.rows.values) (own : old.player = player)
    (there : old.sector = intel.sector) :
    Scanned (scans.insert (player, intel.sector) intel)
      (table.update (Row.withKey old.id (.ofIntel player intel))) where
  numbered := scanned.numbered.update
    (Option.isSome_iff_exists.mpr ⟨old, scanned.numbered.keyed.get?_of_mem listed⟩)
  rows := by
    have entered := scans.entries_insert_perm (player, intel.sector) intel
    have set := table.rows.values_insert_perm old.id
      (Row.withKey old.id (IntelRow.ofIntel player intel))
    rw [Table.values_erase scanned.numbered.keyed] at set
    have others := (scanned.rows.mem.filter
      (p := fun entry => decide (entry.1 ≠ (player, intel.sector)))
      (q := fun row => decide (Row.key row ≠ old.id)) ?_).imp fun _ _ each => each.1
    · have new := others.cons (a := ((player, intel.sector), intel))
        (b := Row.withKey old.id (IntelRow.ofIntel player intel))
        ⟨rfl, IntelRow.toIntel_ofIntel _ _ fits⟩
      exact (new.left entered).perm set
    -- The row of the sector is replaced; it is the only one that loses its entry.
    · rintro entry row ⟨⟨same, _⟩, _, listed'⟩
      rw [decide_eq_decide, not_iff_not, ← same]
      constructor
      · intro equal
        obtain ⟨mine, here⟩ := Prod.ext_iff.mp equal
        have rows := scanned.lone listed' listed (mine.trans own.symm) (here.trans there.symm)
        exact congrArg IntelRow.id rows
      · intro key
        rw [scanned.numbered.same_row listed' listed key, own, there]

/-- A scan that is saved replaces the player's last one of the sector. -/
theorem save {db : Database} (scanned : Scanned scans db.intel) (fits : intel.Fits)
    (player : PlayerId) :
    ∃ table, db.saveIntel player intel = (.ok (), { db with intel := table }) ∧
      Scanned (scans.insert (player, intel.sector) intel) table := by
  unfold Database.saveIntel Relation.search?
  dsimp only
  cases found : db.intel.all.find? (Database.isScan player intel.sector) with
  | none =>
    have inserted := scanned.numbered.insert_new (.ofIntel player intel) rfl fun _ _ => rfl
    have absent : scans.get? (player, intel.sector) = none := by
      refine Option.eq_none_iff_forall_ne_some.mpr fun scan stored => ?_
      obtain ⟨row, listed, same, _⟩ :=
        scanned.rows.mem_left ((scans.mem_entries_iff _ _).mpr stored)
      have missed := List.find?_eq_none.mp found row (db.intel.all_perm.mem_iff.mpr listed)
      simp only [Prod.mk.injEq] at same
      exact missed (by simp [Database.isScan, same])
    rw [inserted]
    exact ⟨_, rfl, scanned.append fits absent⟩
  | some old =>
    have listed := db.intel.all_perm.mem_iff.mp (List.mem_of_find?_eq_some found)
    have mine := List.find?_some found
    simp only [Database.isScan, Bool.and_eq_true, beq_iff_eq] at mine
    exact ⟨_, rfl, scanned.renew fits listed mine.1 mine.2⟩

/-- A scan can be forgotten. -/
theorem forget (scanned : Scanned scans table) (player : PlayerId) (sector : SectorId) :
    Scanned (scans.erase (player, sector))
      (table.eraseAll (Database.isScan player sector)) where
  numbered := scanned.numbered.eraseKeys _
  rows := by
    rw [scanned.numbered.values_eraseAll]
    refine scanned.rows.filter fun entry row same => ?_
    rw [← same.1]
    simp [Database.isScan, beq_eq_decide]

/-- Players are shown their scans, newest first, if each is kept under its own
sector. -/
theorem intelOf {db : Database} (scanned : Scanned scans db.intel)
    (placed : ∀ key scan, scans.get? key = some scan → scan.sector = key.2) (player : PlayerId) :
    db.intelOf player = .ok (Intel.sortNewestFirst
      ((scans.entries.filter fun entry => entry.1.1 == player).map (·.2))) := by
  have own := (scanned.rows.perm db.intel.all_perm).filter
    (p := fun entry => entry.1.1 == player) (q := fun row => row.player == player)
    fun entry row same => by rw [← same.1]
  obtain ⟨list, success, perm⟩ := own.mapM fun _ _ same => same.2
  unfold Database.intelOf
  rw [success]
  refine congrArg Except.ok (mergeSort_eq_of_perm perm (by grind) (by grind)
    fun a ha b hb up down => ?_)
  have stored : ∀ intel ∈ list, scans.get? (player, intel.sector) = some intel := by
    intro intel listed
    obtain ⟨⟨key, scan⟩, among, rfl⟩ := List.mem_map.mp (perm.mem_iff.mp listed)
    obtain ⟨entered, mine⟩ := List.mem_filter.mp among
    have found := (scans.mem_entries_iff key scan).mp entered
    rw [placed key scan found, ← eq_of_beq mine]
    exact found
  have same : a.sector = b.sector := by grind
  have first := stored a ha
  rw [same, stored b hb] at first
  exact (Option.some.inj first).symm

end Scanned

namespace Database

variable {db : Database} {player : PlayerId} {intel : Intel}

/-- Whether a database has just some scans, each kept under its own sector. -/
def ScansLegible (db : Database) : Prop :=
  ∃ scans, Scanned scans db.intel ∧ ∀ key scan, scans.get? key = some scan → scan.sector = key.2

/-- Only two kinds of writes touch scans. -/
theorem write_intel {change : Write} (saves : ∀ player intel, change ≠ .saveIntel player intel)
    (deletes : ∀ player sector, change ≠ .deleteIntel player sector) :
    (db.write change).2.intel = db.intel := by
  cases change with
  | saveIntel player intel => exact absurd rfl (saves player intel)
  | deleteIntel player sector => exact absurd rfl (deletes player sector)
  | savePlayer | discover | savePort | savePlanet | saveCorp | setRole | deleteMember
  | saveMinefield =>
    simp only [write, savePlayer, discover, savePort, savePlanet, saveCorp, setRole, deleteMember,
      saveMinefield]
    split <;> rfl
  | _ => rfl

/-- A scan that is saved is the one of its sector that the player is shown. -/
theorem ScansLegible.save (legible : db.ScansLegible) (fits : intel.Fits) (player : PlayerId) :
    ∃ after list, db.saveIntel player intel = (.ok (), after) ∧ after.ScansLegible ∧
      after.intelOf player = .ok list ∧ intel ∈ list ∧
      ∀ other ∈ list, other.sector = intel.sector → other = intel := by
  obtain ⟨scans, scanned, placed⟩ := legible
  obtain ⟨table, saved, held⟩ := scanned.save fits player
  have kept : ∀ key scan, (scans.insert (player, intel.sector) intel).get? key = some scan →
      scan.sector = key.2 := by
    intro key scan found
    rw [Table.get?_insert] at found
    split at found
    · next here =>
      cases found
      rw [here]
    · exact placed key scan found
  refine ⟨_, _, saved, ⟨_, held, kept⟩, held.intelOf kept player, ?_, fun other listed there => ?_⟩
  · rw [Intel.sortNewestFirst, List.mem_mergeSort]
    have entered : ((player, intel.sector), intel) ∈
        (scans.insert (player, intel.sector) intel).entries :=
      (Table.mem_entries_iff _ _ _).mpr (Table.get?_insert_self _ _ _)
    exact List.mem_map.mpr ⟨_, List.mem_filter.mpr ⟨entered, beq_self_eq_true player⟩, rfl⟩
  · rw [Intel.sortNewestFirst, List.mem_mergeSort] at listed
    obtain ⟨⟨key, scan⟩, among, rfl⟩ := List.mem_map.mp listed
    obtain ⟨entered, mine⟩ := List.mem_filter.mp among
    have found := (Table.mem_entries_iff _ _ _).mp entered
    have own : key = (player, intel.sector) :=
      Prod.ext (eq_of_beq mine) ((kept key scan found).symm.trans there)
    rw [own, Table.get?_insert_self] at found
    exact (Option.some.inj found).symm

theorem ScansLegible.forget (legible : db.ScansLegible) (player : PlayerId) (sector : SectorId) :
    (db.write (.deleteIntel player sector)).2.ScansLegible := by
  obtain ⟨scans, scanned, placed⟩ := legible
  refine ⟨_, scanned.forget player sector, fun key scan found => ?_⟩
  rw [Table.get?_erase] at found
  split at found
  · cases found
  · exact placed key scan found

/-- No write spoils the scans, if those that it saves can be written down. -/
theorem ScansLegible.write (legible : db.ScansLegible) {change : Write}
    (fits : ∀ player intel, change = .saveIntel player intel → intel.Fits) :
    (db.write change).2.ScansLegible := by
  by_cases saves : ∃ player intel, change = .saveIntel player intel
  · obtain ⟨player, intel, rfl⟩ := saves
    obtain ⟨after, _, saved, kept, _⟩ := legible.save (fits player intel rfl) player
    change (db.saveIntel player intel).2.ScansLegible
    rw [saved]
    exact kept
  by_cases deletes : ∃ player sector, change = .deleteIntel player sector
  · obtain ⟨player, sector, rfl⟩ := deletes
    exact legible.forget player sector
  unfold ScansLegible
  rw [write_intel (fun player intel same => saves ⟨player, intel, same⟩)
    fun player sector same => deletes ⟨player, sector, same⟩]
  exact legible

/-- A database after some writes, those that fail included. -/
def afterWrites (db : Database) (changes : List Write) : Database :=
  changes.foldl (fun db change => (db.write change).2) db

/-- Whatever is written to a database without scans, the scans can be read. -/
theorem scansLegible_afterWrites {start : Database} (vacant : start.intel.rows = .empty)
    {changes : List Write} (fits : ∀ player intel, .saveIntel player intel ∈ changes → intel.Fits) :
    (start.afterWrites changes).ScansLegible := by
  have unread : start.ScansLegible := ⟨.empty, .vacant vacant, fun _ _ found => nomatch found⟩
  clear vacant
  unfold afterWrites
  induction changes generalizing start with
  | nil => exact unread
  | cons change rest ih =>
    have first := unread.write fun player intel same => fits player intel (same ▸ .head _)
    exact ih (fun player intel listed => fits player intel (.tail _ listed)) first

end Database

end Starlane.Server
