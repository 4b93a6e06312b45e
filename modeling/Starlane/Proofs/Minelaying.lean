import Starlane.Proofs.Answer
import Starlane.Proofs.Course
import Starlane.Proofs.Unique

/-!
# Where mines lie, and whose they are

A command leaves the fields that there are with some of their mines, lays a new
field in a lawless sector where its commander has none, or adds to the one that
they have there, which then goes by the corporation that they are in now. So
fields are told apart by their sector and by who laid them, whatever becomes of
corporations in between.
-/

namespace Starlane

open Chance

/-- Whether the fields of a table were in another one, each with some of the
mines that it had. -/
def Minefield.Remain (before after : Table MinefieldId Minefield) : Prop :=
  ∀ id field, after.get? id = some field →
    ∃ old qty, before.get? id = some old ∧ field = { old with qty } ∧ (0 < old.qty → 0 < qty)

namespace Minefield

variable {before mid after : Table MinefieldId Minefield}

theorem Remain.refl (fields : Table MinefieldId Minefield) : Remain fields fields :=
  fun _ field found => ⟨field, field.qty, found, rfl, fun stocked => stocked⟩

theorem Remain.trans (first : Remain before mid) (second : Remain mid after) :
    Remain before after := by
  intro id field found
  obtain ⟨old, qty, stored, rfl, stays⟩ := second id field found
  obtain ⟨older, most, original, rfl, stayed⟩ := first id old stored
  exact ⟨older, qty, original, rfl, fun stocked => stays (stayed stocked)⟩

theorem Remain.erase (fields : Table MinefieldId Minefield) (gone : MinefieldId) :
    Remain fields (fields.erase gone) := by
  intro id field found
  rw [Table.get?_erase] at found
  split at found
  · cases found
  · exact Remain.refl fields id field found

theorem Remain.shrink {fields : Table MinefieldId Minefield} {field : Minefield} {qty : Nat}
    (stored : fields.get? field.id = some field) (positive : 0 < qty) :
    Remain fields (fields.insert field.id { field with qty }) := by
  intro id other found
  rw [Table.get?_insert] at found
  split at found
  · next same =>
    cases found
    exact ⟨field, qty, same ▸ stored, rfl, fun _ => positive⟩
  · exact Remain.refl fields id other found

/-- Names that go by the sector and by who laid a field stay apart. -/
theorem Remain.apart (remain : Remain before after) (apart : before.Apart claim) :
    after.Apart claim := by
  refine apart.transfer fun id field name found named => ?_
  obtain ⟨old, qty, stored, rfl, _⟩ := remain id field found
  exact ⟨old, stored, named⟩

end Minefield

namespace World

variable {start world after : World}

/-- Where mines are taken from stored fields, the others stay. -/
theorem Holds.remain_consume {fields : List Minefield} (holds : world.Holds fields)
    (amount : Nat) :
    Minefield.Remain world.minefields (world.writtenAll
      ((Minefield.consume fields amount).2.map Minefield.Change.toWrite)).minefields := by
  induction fields generalizing world amount with
  | nil => exact .refl _
  | cons field rest ih =>
    rw [Minefield.consume]
    split
    · exact .refl _
    · split
      · exact ih holds.tail amount
      · dsimp only
        split
        · exact (Minefield.Remain.erase _ _).trans (ih holds.remove.1 _)
        · next kept =>
          have left : 0 < field.qty - min field.qty amount := by omega
          exact (Minefield.Remain.shrink (holds.stored field (.head _)) left).trans
            (ih (holds.shrink (Nat.min_le_left field.qty amount)).1 _)

/-- What an order of a commander makes of the minefields of a world. -/
inductive Lays (world : World) (commander : Commander) : Table MinefieldId Minefield → Prop
  | spent {fields : Table MinefieldId Minefield}
      (remain : Minefield.Remain world.minefields fields) : Lays world commander fields
  | laid {sector : Sector} {qty : Nat} {now : Int}
      (here : world.sectors.get? commander.sector = some sector)
      (lawless : sector.isProtectorate = false) (positive : 0 < qty)
      (fresh : ((world.minefieldsIn commander.sector).find? fun field =>
        field.owner.player? == some commander.id) = none) :
      Lays world commander (world.minefields.insert (world.lastId + 1)
        ⟨world.lastId + 1, commander.sector, Owner.claimedBy commander.id commander.corp?, qty,
          now⟩)
  | reinforced {field : Minefield} {qty : Nat}
      (own : ((world.minefieldsIn commander.sector).find? fun field =>
        field.owner.player? == some commander.id) = some field) (positive : 0 < qty) :
      Lays world commander (world.minefields.insert field.id
        { field with qty, owner := Owner.claimedBy commander.id commander.corp? })

end World

/-- What a deed makes of the minefields. -/
theorem Deed.lays {world : World} {now : Int} {commander : Commander} {command : Command}
    {effects : Effects} (deed : Deed world.lookup now commander command effects)
    (filed : world.Filed) : world.Lays commander (world.writtenAll effects.writes).minefields := by
  have apart : Part.minefields ∉ command.parts →
      world.Lays commander (world.writtenAll effects.writes).minefields := by
    intro apart
    rw [World.writtenAll_minefields
      (fun change member same => apart (same ▸ deed.parts change member)) world]
    exact .spent (.refl _)
  cases deed with
  | @moved _ there =>
    have stored := filed.holds_strikeOrder there commander.id commander.corp?
    have held : (world.written (.discover commander.id there)).Holds
        (Minefield.strikeOrder (world.minefieldsIn there) commander.id commander.corp?) :=
      ⟨stored.distinct, stored.stored⟩
    rw [Plan.arrival_eq]
    exact .spent (held.remain_consume _)
  | @reinforced quantity sector field _ positive _ found lawless _ own =>
    have more : 0 < addCapped field.qty quantity.toNat := by
      unfold addCapped counterMax
      omega
    exact @World.Lays.reinforced world commander field _ own more
  | @mined quantity sector _ positive _ found lawless _ fresh =>
    have counted : 0 < quantity.toNat := by omega
    exact .laid found lawless counted fresh
  | @swept taken changes consumed =>
    have left := (filed.holds_sweepOrder commander.sector commander.id
      commander.corp?).remain_consume Minefield.sweepCapacity
    have same : Minefield.consume (Minefield.sweepOrder (world.minefieldsIn commander.sector)
        commander.id commander.corp?) Minefield.sweepCapacity = (taken, changes) := consumed
    rw [same] at left
    exact .spent left
  | informed | foundClear => exact .spent (.refl _)
  | _ => exact apart (by simp [Command.parts])

/-- Only protectorates are mustered, and only their fighters change. -/
theorem Protectorate.muster_from {γ : Type} [Dice γ] {dice : γ} {sectors : List Sector}
    {sector : Sector} (mustered : sector ∈ (muster dice sectors).1) :
    ∃ origin ∈ sectors, origin.isProtectorate = true ∧
      ∃ fighters, sector = { origin with fighters } := by
  induction sectors generalizing dice with
  | nil => cases mustered
  | cons first rest ih =>
    have later : (∃ origin ∈ rest, origin.isProtectorate = true ∧
        ∃ fighters, sector = { origin with fighters }) →
        ∃ origin ∈ first :: rest, origin.isProtectorate = true ∧
          ∃ fighters, sector = { origin with fighters } := by
      rintro ⟨origin, listed, found⟩
      exact ⟨origin, .tail _ listed, found⟩
    rw [muster] at mustered
    split at mustered
    · next guarded =>
      rcases List.mem_cons.mp mustered with rfl | among
      · exact ⟨first, .head _, guarded, _, rfl⟩
      · exact later (ih among)
    · exact later (ih mustered)

namespace World

variable {start world after : World}

/-- Whatever happens next, sectors only get other fighters, and only where they
are protectorates. -/
theorem Next.musters (next : world.Next after) :
    ∃ mustered : List Sector,
      (∀ sector ∈ mustered, ∃ origin ∈ world.sectors.values, origin.isProtectorate = true ∧
        ∃ fighters, sector = { origin with fighters }) ∧
      after.sectors = mustered.foldl (fun table sector => table.insert sector.id sector)
        world.sectors := by
  cases next with
  | @join settings now id username =>
    obtain ⟨_, _, _, same⟩ := world.join_frame settings now id username
    rw [same]
    exact ⟨[], nofun, rfl⟩
  | command executed =>
    have kept : Kept fun mid => mid.sectors = world.sectors := by
      intro mid change same _
      cases change <;> exact same
    exact ⟨[], nofun, Storage.limited_keeps kept executed rfl⟩
  | portTick | planetTick => exact ⟨[], nofun, rfl⟩
  | protectorateTick => exact ⟨_, fun _ mustered => Protectorate.muster_from mustered, rfl⟩
  | @eventTick γ _ now dice =>
    obtain ⟨_, _, _, same⟩ := world.eventTick_frame now dice
    rw [same]
    exact ⟨[], nofun, rfl⟩

/-- Whatever happens next, sectors stay filed under their own numbers. -/
theorem Next.sectors_keyed (next : world.Next after) (keyed : world.sectors.KeyedBy (·.id)) :
    after.sectors.KeyedBy (·.id) := by
  obtain ⟨mustered, _, same⟩ := next.musters
  rw [same]
  exact keyed.insertAll mustered

/-- Additions by hand leave sectors filed under their own numbers. -/
theorem Seeded.sectors_keyed (seeded : world.Seeded after)
    (keyed : world.sectors.KeyedBy (·.id)) : after.sectors.KeyedBy (·.id) := by
  cases seeded with
  | sector => exact keyed.insert rfl
  | protectorate id fighters =>
    refine keyed.mapValues _ fun key sector => ?_
    split <;> rfl
  | layout layout => exact keyed.insertAll layout.sectors
  | _ => exact keyed

/-- The sectors of every reachable world are filed under their own numbers. -/
theorem Reachable.sectors_keyed (reachable : world.Reachable) :
    world.sectors.KeyedBy (·.id) := by
  induction reachable with
  | empty => exact nofun
  | seed _ seeded ih => exact seeded.sectors_keyed ih
  | step _ step ih => exact (Next.ofStep step).sectors_keyed ih

/-- A sector that is no protectorate stays as it is, whatever happens next. -/
theorem Next.lawless (next : world.Next after) (keyed : world.sectors.KeyedBy (·.id))
    {id : SectorId} {sector : Sector} (found : world.sectors.get? id = some sector)
    (lawless : sector.isProtectorate = false) : after.sectors.get? id = some sector := by
  obtain ⟨mustered, origins, same⟩ := next.musters
  have present : after.sectors.contains id = true := by
    rw [same]
    refine (Table.contains_insertAll mustered (·.id) fun sector => sector).mpr (.inr ?_)
    exact Option.isSome_iff_exists.mpr ⟨sector, found⟩
  obtain ⟨later, stored⟩ := Option.isSome_iff_exists.mp present
  have own : later.id = id := next.sectors_keyed keyed id later stored
  rw [stored]
  rw [same] at stored
  rcases Table.mem_of_insertAll stored with among | before
  · -- A mustered sector comes from a protectorate of its number, which this one is not.
    obtain ⟨origin, listed, guarded, fighters, rfl⟩ := origins later among
    have there := keyed.get?_of_mem listed
    rw [show origin.id = id from own, found] at there
    cases there
    rw [lawless] at guarded
    cases guarded
  · exact before.symm.trans found

/-- Whatever happens next, nobody who has a row loses it. -/
theorem Next.players_stay (next : world.Next after) {player : PlayerId}
    (present : world.players.contains player = true) : after.players.contains player = true := by
  rcases next.cases with rfl | ⟨settings, now, id, username, rfl⟩ | ⟨_, _, step⟩
  · exact present
  · obtain ⟨seasons, same | ⟨_, _, _, same⟩⟩ := world.join_cases settings now id username
    · rw [same]
      exact present
    · rw [same]
      exact Table.contains_insert.mpr (.inr present)
  · exact World.players_stay step present

/-- A player without a field in a sector has none stored there. -/
theorem vacant_claim {sector : SectorId} {player : PlayerId}
    (fresh : ((world.minefieldsIn sector).find? fun field =>
      field.owner.player? == some player) = none) {id : MinefieldId} {field : Minefield}
    (stored : world.minefields.get? id = some field) :
    field.claim ≠ some (sector, player) := by
  intro claimed
  obtain ⟨owner, laid, same⟩ := Option.map_eq_some_iff.mp claimed
  cases same
  have listed : field ∈ world.minefieldsIn field.sector :=
    List.mem_filter.mpr
      ⟨(world.minefields.mem_values_iff field).mpr ⟨id, stored⟩, beq_self_eq_true _⟩
  exact List.find?_eq_none.mp fresh field listed (beq_iff_eq.mpr laid)

/-- What holds of a minefield: it has mines, it is in a sector that is no
protectorate, and one of the players laid it. -/
structure Harbours (world : World) (field : Minefield) : Prop where
  mines : 0 < field.qty
  lawless : ∃ sector, world.sectors.get? field.sector = some sector ∧
    sector.isProtectorate = false
  owned : ∃ player, field.owner.player? = some player ∧ world.players.contains player = true

/-- What holds of the minefields of a world on a course. -/
structure Mined (world : World) : Prop where
  filed : world.Filed
  sectors : world.sectors.KeyedBy (·.id)
  harboured : ∀ id field, world.minefields.get? id = some field → world.Harbours field
  apart : world.minefields.Apart Minefield.claim

theorem Mined.clear (reachable : world.Reachable) (clear : world.minefields = .empty) :
    world.Mined where
  filed := reachable.filed
  sectors := reachable.sectors_keyed
  harboured := by
    rw [clear]
    exact nofun
  apart := by
    rw [clear]
    exact .empty

/-- The field that a commander has in a sector is stored there, and theirs. -/
theorem Filed.field_of_own (filed : world.Filed) {sector : SectorId} {player : PlayerId}
    {field : Minefield}
    (own : ((world.minefieldsIn sector).find? fun field => field.owner.player? == some player) =
      some field) :
    world.minefields.get? field.id = some field ∧ field.sector = sector ∧
      field.owner.player? = some player := by
  obtain ⟨listed, here⟩ := List.mem_filter.mp (List.mem_of_find?_eq_some own)
  exact ⟨filed.minefields.get?_of_mem listed, eq_of_beq here, by simpa using List.find?_some own⟩

/-- Whatever happens next leaves standing what holds of a field that stays. -/
theorem Next.harbours (next : world.Next after) (keyed : world.sectors.KeyedBy (·.id))
    {field : Minefield} (harbours : world.Harbours field) {qty : Nat} (mines : 0 < qty) :
    after.Harbours { field with qty } where
  mines := mines
  lawless := by
    obtain ⟨sector, found, lawless⟩ := harbours.lawless
    exact ⟨sector, next.lawless keyed found lawless, lawless⟩
  owned := by
    obtain ⟨player, laid, present⟩ := harbours.owned
    exact ⟨player, laid, next.players_stay present⟩

/-- What a request makes of the minefields, whatever the limit on writes. -/
theorem lays_of_request {settings : Settings} {now : Int} {player : PlayerId}
    {request : Request} {storage after : Storage} {answer : Except StoreFailure Response}
    (filed : storage.world.Filed)
    (executed : Storage.execute settings now player request storage = (answer, after)) :
    after.world.minefields = storage.world.minefields ∨
      ∃ row commander, storage.world.Commands player row commander ∧
        storage.world.Lays commander after.world.minefields := by
  rcases Storage.execute_deed executed with ⟨players, same⟩ |
    ⟨row, commander, effects, players, logs, commands, deed, same⟩
  · exact .inl (by rw [same])
  · refine .inr ⟨row, commander, commands, ?_⟩
    rw [same]
    exact deed.lays filed

/-- What may happen to minefields next. -/
theorem Next.lays (next : world.Next after) (filed : world.Filed) :
    after.minefields = world.minefields ∨
      ∃ player row commander, world.Commands player row commander ∧
        world.Lays commander after.minefields := by
  cases next with
  | join =>
    obtain ⟨_, _, _, same⟩ := world.join_frame _ _ _ _
    rw [same]
    exact .inl rfl
  | command executed =>
    rcases lays_of_request filed executed with same | ⟨row, commander, commands, lays⟩
    · exact .inl same
    · exact .inr ⟨_, row, commander, commands, lays⟩
  | portTick | planetTick | protectorateTick => exact .inl rfl
  | @eventTick γ _ now dice =>
    obtain ⟨_, _, _, same⟩ := world.eventTick_frame now dice
    rw [same]
    exact .inl rfl

/-- Fields that remain keep what holds of the minefields. -/
theorem Mined.remain (mined : world.Mined) (next : world.Next after)
    (remain : Minefield.Remain world.minefields after.minefields) : after.Mined where
  filed := mined.filed.next next
  sectors := next.sectors_keyed mined.sectors
  harboured id field found := by
    obtain ⟨old, qty, stored, rfl, stays⟩ := remain id field found
    have before := mined.harboured id old stored
    exact next.harbours mined.sectors before (stays before.mines)
  apart := remain.apart mined.apart

/-- Whatever happens next keeps what holds of the minefields: only a player who
has no field in a lawless sector lays a new one there. -/
theorem Mined.next (mined : world.Mined) (next : world.Next after) : after.Mined := by
  rcases next.lays mined.filed with same | ⟨player, row, commander, commands, lays⟩
  · exact mined.remain next (same ▸ .refl _)
  · obtain ⟨found, turns, stamp, rfl⟩ := commands
    have own : row.id = player := mined.filed.players player row found
    have present : after.players.contains row.id = true :=
      next.players_stay (Option.isSome_iff_exists.mpr ⟨row, own.symm ▸ found⟩)
    have kept : ∀ id field, world.minefields.get? id = some field → after.Harbours field :=
      fun id field stored =>
        next.harbours mined.sectors (mined.harboured id field stored)
          (mined.harboured id field stored).mines
    -- What `after` says of sectors and players is needed beside its fields, so only
    -- the fields are split.
    generalize commanded : after.minefields = fields at lays
    cases lays with
    | spent remain => exact mined.remain next (commanded ▸ remain)
    | laid here lawless positive fresh =>
      refine ⟨mined.filed.next next, next.sectors_keyed mined.sectors, ?_, ?_⟩
      · rw [commanded]
        intro id field stored
        rw [Table.get?_insert] at stored
        split at stored
        · cases stored
          exact ⟨positive, ⟨_, next.lawless mined.sectors here lawless, lawless⟩, row.id,
            Owner.claimedBy_player? _ _, present⟩
        · exact kept id field stored
      · rw [commanded]
        refine mined.apart.add (fun id other claim stored named same => ?_) _
        rw [Minefield.claim, Owner.claimedBy_player?, Option.map_some] at same
        cases same
        exact vacant_claim fresh stored named
    | @reinforced field qty theirs positive =>
      obtain ⟨stored, here, laid⟩ := mined.filed.field_of_own theirs
      refine ⟨mined.filed.next next, next.sectors_keyed mined.sectors, ?_, ?_⟩
      · rw [commanded]
        intro id other found
        rw [Table.get?_insert] at found
        split at found
        · cases found
          exact ⟨positive, (kept _ _ stored).lawless, row.id, Owner.claimedBy_player? _ _, present⟩
        · exact kept id other found
      · rw [commanded]
        refine mined.apart.save ⟨field, stored, ?_⟩
        simp only [Minefield.claim, laid, Owner.claimedBy_player?]

end World

/-- Minefields on a course from a start without any, such as a checked universe
that has just been laid out: each has mines left, is in a sector that exists and
is no protectorate, and was laid by a player. No two are in one sector and by one
player, whatever corporations the player was in when they laid them. -/
theorem minefields_stay_apart {start world : World} (reachable : start.Reachable)
    (clear : start.minefields = .empty) (leads : start.Leads world) :
    (∀ id field, world.minefields.get? id = some field →
      1 ≤ field.qty ∧
      (∃ sector, world.sectors.get? field.sector = some sector ∧
        sector.isProtectorate = false) ∧
      ∃ player, field.owner.player? = some player ∧ world.players.contains player = true) ∧
    ∀ first second a b, world.minefields.get? first = some a →
      world.minefields.get? second = some b → a.sector = b.sector →
      a.owner.player? = b.owner.player? → first = second := by
  have mined := leads.keeps (World.Mined.clear reachable clear) World.Mined.next
  refine ⟨fun id field stored => ?_, fun first second a b one other here theirs => ?_⟩
  · have harbours := mined.harboured id field stored
    exact ⟨harbours.mines, harbours.lawless, harbours.owned⟩
  · obtain ⟨player, laid, _⟩ := (mined.harboured first a one).owned
    refine mined.apart first a second b (a.sector, player) one other ?_ ?_
    · rw [Minefield.claim, laid, Option.map_some]
    · rw [Minefield.claim, ← theirs, laid, Option.map_some, here]

/-- The drill with a pilot who has equipment for mines on board. -/
def Drill.armed : World :=
  (World.empty.addUniverse layout).addPlayer
    { Settings.standard.newPlayer 7 "ada" 2 ⟨1, "Season 1", startTime⟩ startTime with
      cargo := ⟨0, 0, 20⟩ }

/-- The request to lay some mines. -/
def Drill.layMines (quantity : Int) : Request :=
  { Request.ofKind "MINE" with action := "DEPLOY", quantity }

/-- The drill after its pilot has laid mines alone, in a corporation and alone
again. -/
def Drill.mined : World :=
  asked 7 (layMines 2) <| asked 7 (namedRequest "CORP" "LEAVE" "") <| asked 7 (layMines 3) <|
    asked 7 (namedRequest "CORP" "CREATE" "Acme") <| asked 7 (layMines 5) armed

theorem Drill.mined_leads : armed.Leads mined :=
  ((((Relation.ReflTransGen.single (asked_next _ _ _)).tail (asked_next _ _ _)).tail
    (asked_next _ _ _)).tail (asked_next _ _ _)).tail (asked_next _ _ _)

/-- All the mines that the pilot laid are in one field, their own. -/
theorem minefields_stay_apart_merged :
    ∃ field, Drill.mined.minefields.get? 1 = some field ∧ field.qty = 10 ∧
      field.owner = .player 7 ∧
      (∃ sector, Drill.mined.sectors.get? field.sector = some sector ∧
        sector.isProtectorate = false) ∧
      ∀ id other, Drill.mined.minefields.get? id = some other → other.sector = field.sector →
        other.owner.player? = some 7 → id = 1 := by
  have reachable : Drill.armed.Reachable := .seed (.seed .empty (.layout _)) (.player _)
  obtain ⟨harboured, apart⟩ := minefields_stay_apart reachable rfl Drill.mined_leads
  have merged : ((Drill.mined.minefields.get? 1).map fun field => (field.qty, field.owner)) =
      some (10, .player 7) := by decide +kernel
  obtain ⟨field, stored, told⟩ := Option.map_eq_some_iff.mp merged
  obtain ⟨mines, laid⟩ := Prod.ext_iff.mp told
  have laid : field.owner = .player 7 := laid
  refine ⟨field, stored, mines, laid, (harboured 1 field stored).2.1, ?_⟩
  intro id other found here theirs
  refine apart id 1 other field found stored here ?_
  rw [theirs, laid]
  rfl

end Starlane
