import Starlane.Proofs.Isolation
import Starlane.Proofs.Lifecycle
import Starlane.Proofs.Minelaying
import Starlane.Proofs.Tenure

/-!
# Fresh numbers

Planets, corporations, minefields and events are numbered by one counter, and
rows that are gone leave their numbers behind in owners, rosters and messages.
A number stands in one register at most, no number runs ahead of the counter,
and neither does a corporation that something still names. So what is entered
next replaces nothing, and nothing names a corporation before it is founded.
-/

namespace Starlane

open Chance

/-- The registers that share the counter. -/
inductive Register where
  | planets
  | corps
  | minefields
  | events
  deriving DecidableEq, Repr

/-- The register in which a write enters something new. -/
def Write.enters? : Write → Option Register
  | insertPlanet _ => some .planets
  | insertCorp _ _ => some .corps
  | insertMinefield _ => some .minefields
  | _ => none

namespace Table

variable {α : Type} {table : Table Nat α} {key other : Nat}

theorem contains_of_erase (present : (table.erase key).contains other = true) :
    table.contains other = true := by
  obtain ⟨value, found⟩ := Option.isSome_iff_exists.mp present
  rw [get?_erase] at found
  split at found
  · cases found
  · exact Option.isSome_iff_exists.mpr ⟨value, found⟩

theorem contains_of_eraseAll {keys : List Nat}
    (present : (keys.foldl Table.erase table).contains other = true) :
    table.contains other = true := by
  induction keys generalizing table with
  | nil => exact present
  | cons key rest ih => exact contains_of_erase (ih present)

/-- A value in a place that is there takes no other. -/
theorem contains_of_save {value : α} (saved : table.contains key = true)
    (present : (table.insert key value).contains other = true) : table.contains other = true := by
  rcases contains_insert.mp present with same | before
  · exact same ▸ saved
  · exact before

end Table

namespace World

variable {start world after : World}

/-- Whether a number stands in a register. -/
def lists (world : World) (number : Nat) : Register → Bool
  | .planets => world.planets.contains number
  | .corps => world.corps.contains number
  | .minefields => world.minefields.contains number
  | .events => world.events.contains number

/-- No two registers list the same number. -/
def Unshared (world : World) : Prop :=
  ∀ number first second, world.lists number first = true → world.lists number second = true →
    first = second

/-- A number in a register has been given out. -/
theorem Filed.listed_le (filed : world.Filed) {number : Nat} {register : Register}
    (listed : world.lists number register = true) : number ≤ world.lastId := by
  cases register <;> obtain ⟨row, found⟩ := Option.isSome_iff_exists.mp listed
  · exact filed.planetsUpTo number row found
  · exact filed.corpsUpTo number row found
  · exact filed.minefieldsUpTo number row found
  · exact filed.eventsUpTo number row found

/-- A write lists the next number in the register that it enters something in,
and nothing else that is new. -/
theorem lists_written {change : Write} (admits : world.Admits change) {number : Nat}
    {register : Register} (listed : (world.written change).lists number register = true) :
    world.lists number register = true ∨
      number = world.lastId + 1 ∧ change.enters? = some register := by
  cases change with
  | insertPlanet | insertCorp | insertMinefield =>
    cases register <;> first
      | exact .inl listed
      | exact (Table.contains_insert.mp listed).symm.imp_right fun new => ⟨new.symm, rfl⟩
  | savePlanet | saveCorp | saveMinefield =>
    cases register <;> first
      | exact .inl listed
      | exact .inl (Table.contains_of_save admits listed)
  | deleteCorp | deleteMinefield =>
    cases register <;> first
      | exact .inl listed
      | exact .inl (Table.contains_of_erase listed)
  | _ => cases register <;> exact .inl listed

theorem lists_addEvent {event : Event} {number : Nat} {register : Register}
    (listed : (world.addEvent event).lists number register = true) :
    world.lists number register = true ∨ number = world.lastId + 1 ∧ register = .events := by
  cases register with
  | events => exact (Table.contains_insert.mp listed).symm.imp_right fun new => ⟨new.symm, rfl⟩
  | _ => exact .inl listed

/-- The world without some events. -/
def withoutEvents (world : World) (ids : List EventId) : World :=
  { world with events := ids.foldl Table.erase world.events }

theorem lists_withoutEvents {ids : List EventId} {number : Nat} {register : Register}
    (listed : (world.withoutEvents ids).lists number register = true) :
    world.lists number register = true := by
  cases register with
  | events => exact Table.contains_of_eraseAll listed
  | _ => exact listed

/-- A round of the event ticker drops events and enters one at most. -/
theorem eventTick_cases {γ : Type} [Dice γ] (world : World) (now : Int) (dice : γ) :
    ∃ ids, (world.eventTick now dice).1 = world.withoutEvents ids ∨
      ∃ event, (world.eventTick now dice).1 = (world.withoutEvents ids).addEvent event := by
  unfold eventTick
  dsimp only
  split
  · exact ⟨_, .inl rfl⟩
  · exact ⟨_, .inr ⟨_, rfl⟩⟩

/-- What becomes of the numbers of a world: rows stay filed, no number is shared,
and every number in a register stood there before or had not been given out. -/
structure Numbers (start world : World) : Prop where
  filed : world.Filed
  unshared : world.Unshared
  succeeds : start.Succeeds world
  listed : ∀ number register, world.lists number register = true →
    start.lists number register = true ∨ start.lastId < number

theorem Numbers.refl (filed : world.Filed) (unshared : world.Unshared) : world.Numbers world :=
  ⟨filed, unshared, .refl world, fun _ _ stands => .inl stands⟩

/-- The next number may be entered in one register, where nothing else is new. -/
theorem Numbers.enter (numbers : start.Numbers world) (filed : after.Filed)
    (succeeds : start.Succeeds after) (entered : Option Register)
    (listed : ∀ number register, after.lists number register = true →
      world.lists number register = true ∨
        number = world.lastId + 1 ∧ entered = some register) : start.Numbers after where
  filed := filed
  unshared number first second one other := by
    have fresh : ∀ register, number = world.lastId + 1 →
        world.lists number register ≠ true := by
      intro register new stands
      have bound := numbers.filed.listed_le stands
      omega
    rcases listed number first one with before | ⟨new, here⟩ <;>
      rcases listed number second other with before' | ⟨new', there⟩
    · exact numbers.unshared number first second before before'
    · exact absurd before (fresh first new')
    · exact absurd before' (fresh second new)
    · exact Option.some.inj (here.symm.trans there)
  succeeds := succeeds
  listed number register stands := by
    rcases listed number register stands with before | ⟨new, _⟩
    · exact numbers.listed number register before
    · exact .inr (new ▸ Nat.lt_succ_of_le numbers.succeeds.counted)

/-- Admitted writes keep numbers in order. -/
theorem Numbers.kept : Kept start.Numbers := by
  intro world change numbers admits
  exact numbers.enter (Filed.kept world change numbers.filed admits)
    (Succeeds.kept world change numbers.succeeds admits) change.enters?
    fun _ _ => lists_written admits

/-- Whatever happens next keeps numbers in order. -/
theorem Next.numbers (next : world.Next after) (filed : world.Filed)
    (unshared : world.Unshared) : world.Numbers after := by
  have before := Numbers.refl filed unshared
  have enter := before.enter (filed.next next) next.succeeds
  cases next with
  | join =>
    obtain ⟨_, _, _, same⟩ := world.join_frame _ _ _ _
    refine enter none fun number register listed => .inl ?_
    rw [same] at listed
    exact listed
  | command executed => exact Storage.limited_keeps Numbers.kept executed before
  | portTick | protectorateTick => exact enter none fun _ _ listed => .inl listed
  | planetTick =>
    refine enter none fun number register listed => .inl ?_
    cases register with
    | planets =>
      change (world.planets.mapValues _).contains number = true at listed
      rwa [Table.contains_mapValues] at listed
    | _ => exact listed
  | @eventTick γ _ now dice =>
    refine enter (some .events) fun number register listed => ?_
    obtain ⟨ids, same | ⟨event, same⟩⟩ := world.eventTick_cases now dice <;> rw [same] at listed
    · exact .inl (lists_withoutEvents listed)
    · rcases lists_addEvent listed with stood | ⟨new, rfl⟩
      · exact .inl (lists_withoutEvents stood)
      · exact .inr ⟨new, rfl⟩

/-- Whether something in a world names a corporation. -/
inductive Refers (world : World) (corp : CorpId) : Prop
  | planet {id : PlanetId} {planet : Planet} (stored : world.planets.get? id = some planet)
      (holds : planet.owner.corp? = some corp)
  | minefield {id : MinefieldId} {field : Minefield}
      (stored : world.minefields.get? id = some field) (holds : field.owner.corp? = some corp)
  | member {line : Member} (lined : line ∈ world.members) (employer : line.corp = corp)
  | message {message : CorpMessage} (kept : message ∈ world.messages)
      (addressee : message.corp = corp)

/-- Where the owner of a minefield comes from after an order of a commander. -/
theorem Lays.owner_from {commander : Commander} {fields : Table MinefieldId Minefield}
    (lays : world.Lays commander fields) {id : MinefieldId} {field : Minefield}
    (stored : fields.get? id = some field) :
    (∃ before, world.minefields.get? id = some before ∧ field.owner = before.owner) ∨
      field.owner = Owner.claimedBy commander.id commander.corp? := by
  cases lays with
  | spent remain =>
    obtain ⟨before, _, found, rfl, _⟩ := remain id field stored
    exact .inl ⟨before, found, rfl⟩
  | laid | reinforced =>
    rw [Table.get?_insert] at stored
    split at stored
    · cases stored
      exact .inr rfl
    · exact .inl ⟨field, stored, rfl⟩

/-- The messages after some writes: those before, and those that are sent. -/
theorem messages_writtenAll {changes : List Write} {message : CorpMessage}
    (kept : message ∈ (world.writtenAll changes).messages) :
    message ∈ world.messages ∨ Write.insertMessage message ∈ changes := by
  induction changes generalizing world with
  | nil => exact .inl kept
  | cons change rest ih =>
    rcases ih kept with before | sent
    · cases change with
      | insertMessage other =>
        rcases List.mem_append.mp before with older | new
        · exact .inl older
        · exact .inr (List.mem_singleton.mp new ▸ .head _)
      | _ => exact .inl before
    · exact .inr (.tail _ sent)

/-- A message comes from before whatever happened, or goes to a corporation that
existed then. -/
theorem Next.message_from (next : world.Next after) (filed : world.Filed)
    (rostered : world.Rostered) {message : CorpMessage} (kept : message ∈ after.messages) :
    message ∈ world.messages ∨ world.corps.contains message.corp = true := by
  cases next with
  | join =>
    obtain ⟨_, _, _, same⟩ := world.join_frame _ _ _ _
    rw [same] at kept
    exact .inl kept
  | command executed =>
    rcases Storage.execute_deed executed with ⟨players, same⟩ |
      ⟨row, commander, effects, players, logs, commands, deed, same⟩
    · rw [same] at kept
      exact .inl kept
    · rw [same] at kept
      rcases messages_writtenAll kept with before | sent
      · exact .inl before
      · obtain ⟨membership, belongs, addressee⟩ := deed.message_sent sent
        have employed : commander.corp? = some message.corp := by
          rw [addressee, Commander.corp?, belongs]
          rfl
        exact .inr (commands.employer filed rostered employed).1
  | portTick | planetTick | protectorateTick => exact .inl kept
  | @eventTick γ _ now dice =>
    obtain ⟨_, _, _, same⟩ := world.eventTick_frame now dice
    rw [same] at kept
    exact .inl kept

/-- Whatever is named after whatever happens was named before, or exists. -/
theorem Next.refers (next : world.Next after) (filed : world.Filed) (rostered : world.Rostered)
    {corp : CorpId} (refers : after.Refers corp) :
    world.Refers corp ∨ world.corps.contains corp = true ∨ after.corps.contains corp = true := by
  cases refers with
  | planet stored holds =>
    rcases next.holder_from filed rostered stored holds with ⟨_, _, found, held⟩ | present
    · exact .inl (.planet found held)
    · exact .inr (.inl present)
  | minefield stored holds =>
    rcases next.lays filed with same | ⟨_, _, commander, commands, lays⟩
    · exact .inl (.minefield (same ▸ stored) holds)
    · rcases lays.owner_from stored with ⟨before, found, same⟩ | claimed
      · exact .inl (.minefield found (same ▸ holds))
      · have belongs : commander.corp? = some corp := by
          rw [← Owner.claimedBy_corp? commander.id commander.corp?, ← claimed]
          exact holds
        exact .inr (.inl (commands.employer filed rostered belongs).1)
  | member lined employer =>
    exact .inr (.inr (employer ▸ (rostered.next filed next).employed _ lined))
  | message kept addressee =>
    rcases next.message_from filed rostered kept with before | present
    · exact .inl (.message before addressee)
    · exact .inr (.inl (addressee ▸ present))

/-- What is kept about numbers: those of corporations that are named anywhere
have been given out, whether they still exist or not. -/
structure Accounted (world : World) : Prop where
  filed : world.Filed
  unshared : world.Unshared
  rostered : world.Rostered
  named : ∀ corp, world.Refers corp → corp ≤ world.lastId

theorem Accounted.empty : World.empty.Accounted where
  filed := .empty
  unshared number first second one := by cases first <;> cases one
  rostered := .empty
  named corp refers := by cases refers with
    | planet stored | minefield stored => cases stored
    | member lined => cases lined
    | message kept => cases kept

/-- Laying out a universe numbers nothing. -/
theorem Accounted.addUniverse (accounted : world.Accounted) (layout : Universe) :
    (world.addUniverse layout).Accounted where
  filed := accounted.filed.seeded (.layout layout)
  unshared number first second one other := by
    refine accounted.unshared number first second ?_ ?_
    · cases first <;> exact one
    · cases second <;> exact other
  rostered := accounted.rostered.transfer rfl rfl
  named corp refers := by
    refine accounted.named corp ?_
    cases refers with
    | planet stored holds => exact .planet stored holds
    | minefield stored holds => exact .minefield stored holds
    | member lined employer => exact .member lined employer
    | message kept addressee => exact .message kept addressee

theorem Accounted.next (accounted : world.Accounted) (next : world.Next after) :
    after.Accounted := by
  have numbers := next.numbers accounted.filed accounted.unshared
  refine ⟨numbers.filed, numbers.unshared, accounted.rostered.next accounted.filed next, ?_⟩
  intro corp refers
  rcases next.refers accounted.filed accounted.rostered refers with before | present | present
  · exact Nat.le_trans (accounted.named corp before) numbers.succeeds.counted
  · have stood : world.lists corp .corps = true := present
    exact Nat.le_trans (accounted.filed.listed_le stood) numbers.succeeds.counted
  · have stands : after.lists corp .corps = true := present
    exact numbers.filed.listed_le stands

/-- The worlds that come of an empty one: universes are laid out in it, and
anything may happen next. -/
inductive Arises : World → Prop
  | empty : Arises World.empty
  | layout {world : World} (before : Arises world) (layout : Universe) :
      Arises (world.addUniverse layout)
  | next {world after : World} (before : Arises world) (next : world.Next after) : Arises after

theorem Arises.accounted (arises : world.Arises) : world.Accounted := by
  induction arises with
  | empty => exact .empty
  | layout _ layout ih => exact ih.addUniverse layout
  | next _ next ih => exact ih.next next

/-- Something new is entered in a register. -/
inductive Enters (world : World) : World → Prop
  | planet (planet : Planet) : Enters world (world.addPlanet planet)
  | corp (name : String) : Enters world (world.addCorp name)
  | minefield (field : Minefield) : Enters world (world.addMinefield field)
  | event (event : Event) : Enters world (world.addEvent event)

/-- Whether every row of the registers of a world is in those of another. -/
structure Within (world after : World) : Prop where
  planets : ∀ id row, world.planets.get? id = some row → after.planets.get? id = some row
  corps : ∀ id row, world.corps.get? id = some row → after.corps.get? id = some row
  minefields : ∀ id row, world.minefields.get? id = some row → after.minefields.get? id = some row
  events : ∀ id row, world.events.get? id = some row → after.events.get? id = some row

/-- Nothing is replaced by what is entered. -/
theorem Filed.within (filed : world.Filed) (enters : world.Enters after) : world.Within after := by
  have beside : ∀ {α : Type} {table : Table Nat α} (value : α), table.UpTo world.lastId →
      ∀ id row, table.get? id = some row →
        (table.insert (world.lastId + 1) value).get? id = some row := by
    intro α table value upTo id row stored
    have bound := upTo id row stored
    rw [Table.get?_insert_of_ne _ _ (by omega)]
    exact stored
  cases enters with
  | planet => exact ⟨beside _ filed.planetsUpTo, fun _ _ => id, fun _ _ => id, fun _ _ => id⟩
  | corp => exact ⟨fun _ _ => id, beside _ filed.corpsUpTo, fun _ _ => id, fun _ _ => id⟩
  | minefield =>
    exact ⟨fun _ _ => id, fun _ _ => id, beside _ filed.minefieldsUpTo, fun _ _ => id⟩
  | event => exact ⟨fun _ _ => id, fun _ _ => id, fun _ _ => id, beside _ filed.eventsUpTo⟩

end World

/-- In every world that comes of an empty one by universes, joins, commands and
tickers, planets, corporations, minefields and events are filed under their own
numbers, no number is shared between them, and none is beyond the last one given
out; nor is that of a corporation which a planet, a minefield, a roster line or a
message names. So what is entered replaces nothing, even in the midst of a
request, whatever happens next gives out only numbers beyond the last, and a
corporation that has just been founded was named by nothing before. -/
theorem numbers_stay_fresh {world : World} (arises : world.Arises) :
    (world.planets.KeyedBy (·.id) ∧ world.corps.KeyedBy (·.id) ∧
      world.minefields.KeyedBy (·.id) ∧ world.events.KeyedBy (·.id)) ∧
    (∀ number first second, world.lists number first = true →
      world.lists number second = true → first = second) ∧
    (∀ number register, world.lists number register = true → number ≤ world.lastId) ∧
    (∀ corp, world.Refers corp → corp ≤ world.lastId) ∧
    (∀ changes, world.AdmitsAll changes → ∀ after, (world.writtenAll changes).Enters after →
      (world.writtenAll changes).Within after) ∧
    ∀ after, world.Next after →
      (∀ number register, after.lists number register = true →
        world.lists number register = true ∨ world.lastId < number) ∧
      ∀ corp, world.corps.contains corp = false → after.corps.contains corp = true →
        ¬ world.Refers corp := by
  have accounted := arises.accounted
  have filed := accounted.filed
  refine ⟨⟨filed.planets, filed.corps, filed.minefields, filed.events⟩, accounted.unshared,
    fun _ _ listed => filed.listed_le listed, accounted.named, ?entered, ?next⟩
  case entered =>
    intro changes admitted after enters
    exact (World.Filed.kept.all filed admitted).within enters
  case next =>
    intro after next
    have listed := (next.numbers filed accounted.unshared).listed
    refine ⟨listed, fun corp absent founded refers => ?_⟩
    rcases listed corp .corps founded with present | beyond
    · exact absurd absent (ne_of_eq_of_ne present (by decide))
    · exact absurd (accounted.named corp refers) (Nat.not_le_of_lt beyond)

/-- The drill with a colony whose corporation has been dissolved. -/
def Drill.deserted : World :=
  asked 7 (namedRequest "CORP" "LEAVE" "") <| asked 7 (namedRequest "PLANET" "COLONIZE" "Haven") <|
    asked 7 (namedRequest "CORP" "CREATE" "Acme") <|
      ((World.empty.addUniverse layout).join { Settings.standard with startCredits := 9000 }
        startTime 7 "ada").2

theorem Drill.deserted_arises : deserted.Arises :=
  .next (.next (.next (.next (.layout .empty layout) .join) (asked_next _ _ _))
    (asked_next _ _ _)) (asked_next _ _ _)

/-- The colony still names the corporation that is gone, so the next one gets a
number that nothing names. -/
theorem numbers_stay_fresh_refounded :
    let refounded := Drill.asked 7 (Drill.namedRequest "CORP" "CREATE" "Apex") Drill.deserted
    Drill.deserted.corps.contains 1 = false ∧ Drill.deserted.Refers 1 ∧
      refounded.corps.contains 3 = true ∧ ¬ Drill.deserted.Refers 3 := by
  intro refounded
  obtain ⟨_, _, _, _, _, next⟩ := numbers_stay_fresh Drill.deserted_arises
  have fresh := (next refounded (Drill.asked_next _ _ _)).2
  have gone : Drill.deserted.corps.contains 1 = false := by decide +kernel
  have founded : refounded.corps.contains 3 = true := by decide +kernel
  have absent : Drill.deserted.corps.contains 3 = false := by decide +kernel
  have held : ((Drill.deserted.planets.get? 2).bind fun planet => planet.owner.corp?) = some 1 := by
    decide +kernel
  obtain ⟨planet, stored, holds⟩ := Option.bind_eq_some_iff.mp held
  exact ⟨gone, .planet stored holds, founded, fresh 3 absent founded⟩

end Starlane
