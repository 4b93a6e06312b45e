import Starlane.Proofs.History

/-!
# Rows are filed under their own numbers

One counter numbers planets, corporations, minefields and events, so a number
it has not given out is free in all four tables. Every write keeps this, and so
do seeding and the tickers.
-/

namespace Starlane

namespace Table

variable {α : Type} {table : Table Nat α} {number : α → Nat} {last : Nat}

/-- Whether every value is filed under its own number. -/
def KeyedBy (table : Table Nat α) (number : α → Nat) : Prop :=
  ∀ key value, table.get? key = some value → number value = key

/-- Whether no key lies beyond a number. -/
def UpTo (table : Table Nat α) (last : Nat) : Prop :=
  ∀ key value, table.get? key = some value → key ≤ last

theorem KeyedBy.insert (keyed : table.KeyedBy number) {key : Nat} {value : α}
    (own : number value = key) : (table.insert key value).KeyedBy number := by
  intro other found present
  rw [get?_insert] at present
  split at present
  · next same => cases present; rw [same, own]
  · exact keyed other found present

theorem KeyedBy.erase (keyed : table.KeyedBy number) (key : Nat) :
    (table.erase key).KeyedBy number := by
  intro other found present
  rw [get?_erase] at present
  split at present
  · cases present
  · exact keyed other found present

theorem KeyedBy.mapValues (keyed : table.KeyedBy number) (f : Nat → α → α)
    (same : ∀ key value, number (f key value) = number value) :
    (table.mapValues f).KeyedBy number := by
  intro key found present
  rw [get?_mapValues] at present
  obtain ⟨value, before, rfl⟩ := Option.map_eq_some_iff.mp present
  rw [same, keyed key value before]

theorem KeyedBy.insertAll (keyed : table.KeyedBy number) (values : List α) :
    (values.foldl (fun table value => table.insert (number value) value) table).KeyedBy
      number := by
  induction values generalizing table with
  | nil => exact keyed
  | cons value rest ih => exact ih (keyed.insert rfl)

theorem KeyedBy.eraseAll (keyed : table.KeyedBy number) (keys : List Nat) :
    (keys.foldl Table.erase table).KeyedBy number := by
  induction keys generalizing table with
  | nil => exact keyed
  | cons key rest ih => exact ih (keyed.erase key)

/-- A value is found under its own number. -/
theorem KeyedBy.get?_of_mem (keyed : table.KeyedBy number) {value : α}
    (member : value ∈ table.values) : table.get? (number value) = some value := by
  obtain ⟨key, found⟩ := (mem_values_iff table value).mp member
  rw [keyed key value found]
  exact found

/-- No two values have one number. -/
theorem KeyedBy.distinct (keyed : table.KeyedBy number) :
    table.values.Pairwise fun a b => number a ≠ number b := by
  unfold values
  rw [List.pairwise_map]
  refine List.Pairwise.imp_of_mem ?_ table.ascending
  intro a b first second before
  have own : number a.2 = a.1 := keyed a.1 a.2 ((mem_entries_iff table a.1 a.2).mp first)
  have other : number b.2 = b.1 := keyed b.1 b.2 ((mem_entries_iff table b.1 b.2).mp second)
  rw [own, other]
  exact Entries.before_ne before

theorem UpTo.insert (upTo : table.UpTo last) {key : Nat} (value : α) (bound : key ≤ last) :
    (table.insert key value).UpTo last := by
  intro other found present
  rw [get?_insert] at present
  split at present
  · next same => rw [same]; exact bound
  · exact upTo other found present

theorem UpTo.save (upTo : table.UpTo last) {key : Nat} (value : α)
    (present : table.contains key = true) : (table.insert key value).UpTo last := by
  obtain ⟨before, found⟩ := Option.isSome_iff_exists.mp present
  exact upTo.insert value (upTo key before found)

theorem UpTo.erase (upTo : table.UpTo last) (key : Nat) : (table.erase key).UpTo last := by
  intro other found present
  rw [get?_erase] at present
  split at present
  · cases present
  · exact upTo other found present

theorem UpTo.eraseAll (upTo : table.UpTo last) (keys : List Nat) :
    (keys.foldl Table.erase table).UpTo last := by
  induction keys generalizing table with
  | nil => exact upTo
  | cons key rest ih => exact ih (upTo.erase key)

theorem UpTo.mapValues (upTo : table.UpTo last) (f : Nat → α → α) :
    (table.mapValues f).UpTo last := by
  intro key found present
  rw [get?_mapValues] at present
  obtain ⟨value, before, rfl⟩ := Option.map_eq_some_iff.mp present
  exact upTo key value before

theorem UpTo.grow (upTo : table.UpTo last) {more : Nat} (grown : last ≤ more) :
    table.UpTo more :=
  fun key value present => Nat.le_trans (upTo key value present) grown

/-- The next number is free. -/
theorem UpTo.fresh (upTo : table.UpTo last) : table.get? (last + 1) = none := by
  cases present : table.get? (last + 1) with
  | none => rfl
  | some value =>
    have bound := upTo (last + 1) value present
    omega

end Table

namespace World

/-- Every row is filed under its own number, and the numbers that the counter
gives out do not exceed it. -/
structure Filed (world : World) : Prop where
  players : world.players.KeyedBy (·.id)
  ports : world.ports.KeyedBy (·.sector)
  planets : world.planets.KeyedBy (·.id)
  corps : world.corps.KeyedBy (·.id)
  minefields : world.minefields.KeyedBy (·.id)
  events : world.events.KeyedBy (·.id)
  planetsUpTo : world.planets.UpTo world.lastId
  corpsUpTo : world.corps.UpTo world.lastId
  minefieldsUpTo : world.minefields.UpTo world.lastId
  eventsUpTo : world.events.UpTo world.lastId

theorem Filed.empty : World.empty.Filed := by
  constructor <;> intro key value present <;> cases present

/-- Giving out the next number misfiles nothing. -/
theorem Filed.counted {world : World} (filed : world.Filed) :
    { world with lastId := world.lastId + 1 }.Filed := by
  have grown : world.lastId ≤ world.lastId + 1 := Nat.le_succ _
  exact { filed with
    planetsUpTo := filed.planetsUpTo.grow grown
    corpsUpTo := filed.corpsUpTo.grow grown
    minefieldsUpTo := filed.minefieldsUpTo.grow grown
    eventsUpTo := filed.eventsUpTo.grow grown }

theorem Filed.addEvent {world : World} (filed : world.Filed) (event : Event) :
    (world.addEvent event).Filed :=
  { filed.counted with
    events := filed.events.insert rfl
    eventsUpTo := filed.counted.eventsUpTo.insert _ (Nat.le_refl _) }

/-- No admitted write misfiles a row. -/
theorem Filed.kept : Kept Filed := by
  intro world change filed admits
  have counted := filed.counted
  cases change with
  | savePlayer player => exact { filed with players := filed.players.insert rfl }
  | savePort port => exact { filed with ports := filed.ports.insert rfl }
  | insertPlanet planet =>
    exact { counted with
      planets := filed.planets.insert rfl
      planetsUpTo := counted.planetsUpTo.insert _ (Nat.le_refl _) }
  | savePlanet planet =>
    exact { filed with
      planets := filed.planets.insert rfl
      planetsUpTo := filed.planetsUpTo.save _ admits }
  | insertCorp name now =>
    exact { counted with
      corps := filed.corps.insert rfl
      corpsUpTo := counted.corpsUpTo.insert _ (Nat.le_refl _) }
  | saveCorp corp =>
    exact { filed with
      corps := filed.corps.insert rfl
      corpsUpTo := filed.corpsUpTo.save _ admits }
  | deleteCorp corp =>
    exact { filed with
      corps := filed.corps.erase corp
      corpsUpTo := filed.corpsUpTo.erase corp }
  | insertMinefield field =>
    exact { counted with
      minefields := filed.minefields.insert rfl
      minefieldsUpTo := counted.minefieldsUpTo.insert _ (Nat.le_refl _) }
  | saveMinefield field =>
    exact { filed with
      minefields := filed.minefields.insert rfl
      minefieldsUpTo := filed.minefieldsUpTo.save _ admits }
  | deleteMinefield field =>
    exact { filed with
      minefields := filed.minefields.erase field
      minefieldsUpTo := filed.minefieldsUpTo.erase field }
  | _ => exact { filed with }

/-- Seeding misfiles nothing. -/
theorem Filed.seeded {world after : World} (filed : world.Filed) (seeded : world.Seeded after) :
    after.Filed := by
  cases seeded with
  | port port => exact { filed with ports := filed.ports.insert rfl }
  | layout layout => exact { filed with ports := filed.ports.insertAll layout.ports }
  | player player => exact { filed with players := filed.players.insert rfl }
  | planet planet => exact Filed.kept world (.insertPlanet planet) filed trivial
  | minefield field => exact Filed.kept world (.insertMinefield field) filed trivial
  | event event => exact filed.addEvent event
  | _ => exact { filed with }

/-- A player who joins is filed under their own number, even in the place of
another. -/
theorem Filed.join {world : World} (filed : world.Filed) (settings : Settings) (now : Int)
    (id : PlayerId) (username : String) : (world.join settings now id username).2.Filed := by
  obtain ⟨seasons, same | ⟨start, season, _, same⟩⟩ :=
    world.join_cases settings now id username
  · rw [same]
    exact { filed with }
  · rw [same]
    exact { filed with players := filed.players.insert rfl }

/-- Steps misfile nothing. -/
theorem Filed.step {settings : Settings} {world after : World} {what : Occurrence}
    (filed : world.Filed) (step : Step settings world what after) : after.Filed := by
  cases step with
  | join fresh => exact filed.join _ _ _ _
  | command executed => exact Storage.execute_keeps Filed.kept executed filed
  | portTick => exact { filed with ports := filed.ports.mapValues _ fun _ _ => rfl }
  | planetTick =>
    exact { filed with
      planets := filed.planets.mapValues _ fun _ _ => rfl
      planetsUpTo := filed.planetsUpTo.mapValues _ }
  | protectorateTick => exact { filed with }
  | eventTick =>
    have purged : ∀ ids : List EventId,
        { world with events := ids.foldl Table.erase world.events }.Filed := by
      intro ids
      exact { filed with
        events := filed.events.eraseAll ids
        eventsUpTo := filed.eventsUpTo.eraseAll ids }
    unfold eventTick
    dsimp only
    split
    · exact purged _
    · exact (purged _).addEvent _

/-- Every reachable world is filed. -/
theorem Reachable.filed {world : World} (reachable : world.Reachable) : world.Filed := by
  induction reachable with
  | empty => exact .empty
  | seed _ seeded ih => exact ih.seeded seeded
  | step _ step ih => exact ih.step step

end World

end Starlane
