import Starlane.Plan
import Starlane.Proofs.Chart
import Starlane.Proofs.Consumption
import Starlane.Proofs.Pairing
import Starlane.Report

/-!
# Twins

Two stores that hold the same game may number planets, corporations and
minefields differently. A twinning tells which number is which; a record and its
twin differ in such numbers and in nothing else. Stores whose records are twins
answer every look-up alike.
-/

namespace Starlane

/-- Which planets, corporations and minefields of one store are which of
another. -/
structure Twinning where
  planets : Pairing
  corps : Pairing
  fields : Pairing

/-- Whether one twinning says all that another says. -/
instance : LE Twinning where
  le first second := first.planets ≤ second.planets ∧ first.corps ≤ second.corps ∧
    first.fields ≤ second.fields

/-- The same answer from two stores, or a failure of both. -/
inductive Answers {α β : Type} (R : α → β → Prop) :
    Except StoreFailure α → Except StoreFailure β → Prop
  | ok {a : α} {b : β} (same : R a b) : Answers R (.ok a) (.ok b)
  | error {failure failure' : StoreFailure} : Answers R (.error failure) (.error failure')

namespace Twinning

variable (twins : Twinning)

/-- An owner and its twin. -/
inductive OwnerAs : Owner → Owner → Prop
  | unowned : OwnerAs .unowned .unowned
  | player (id : PlayerId) : OwnerAs (.player id) (.player id)
  | corp {corp corp' : CorpId} (paired : twins.corps.pairs corp corp') (founder : PlayerId) :
      OwnerAs (.corp corp founder) (.corp corp' founder)

/-- A membership and its twin. -/
def MembershipAs (membership other : Membership) : Prop :=
  ∃ corp, twins.corps.pairs membership.corp corp ∧ other = { membership with corp }

/-- A commander and their twin. -/
def CommanderAs (commander other : Commander) : Prop :=
  ∃ membership, Option.Rel twins.MembershipAs commander.membership membership ∧
    other = { commander with membership }

/-- A planet and its twin. -/
def PlanetAs (planet other : Planet) : Prop :=
  ∃ id owner, twins.planets.pairs planet.id id ∧ twins.OwnerAs planet.owner owner ∧
    other = { planet with id, owner }

/-- A minefield and its twin. -/
def FieldAs (field other : Minefield) : Prop :=
  ∃ id owner, twins.fields.pairs field.id id ∧ twins.OwnerAs field.owner owner ∧
    other = { field with id, owner }

/-- A corporation and its twin. -/
def CorpAs (corp other : Corporation) : Prop :=
  ∃ id, twins.corps.pairs corp.id id ∧ other = { corp with id }

/-- A roster line and its twin. -/
def MemberAs (member other : Member) : Prop :=
  ∃ corp, twins.corps.pairs member.corp corp ∧ other = { member with corp }

/-- A write and its twin. A new record has no number yet. -/
inductive WriteAs : Write → Write → Prop
  | savePlayer (player : Player) : WriteAs (.savePlayer player) (.savePlayer player)
  | discover (player : PlayerId) (sector : SectorId) :
      WriteAs (.discover player sector) (.discover player sector)
  | savePort (port : Port) : WriteAs (.savePort port) (.savePort port)
  | insertPlanet {planet : Planet} {owner : Owner} (owned : twins.OwnerAs planet.owner owner) :
      WriteAs (.insertPlanet planet) (.insertPlanet { planet with owner })
  | savePlanet {planet planet' : Planet} (same : twins.PlanetAs planet planet') :
      WriteAs (.savePlanet planet) (.savePlanet planet')
  | insertCorp (name : String) (now : Int) : WriteAs (.insertCorp name now) (.insertCorp name now)
  | saveCorp {corp corp' : Corporation} (same : twins.CorpAs corp corp') :
      WriteAs (.saveCorp corp) (.saveCorp corp')
  | deleteCorp {corp corp' : CorpId} (paired : twins.corps.pairs corp corp') :
      WriteAs (.deleteCorp corp) (.deleteCorp corp')
  | insertMember {member member' : Member} (same : twins.MemberAs member member') :
      WriteAs (.insertMember member) (.insertMember member')
  | setRole {corp corp' : CorpId} (paired : twins.corps.pairs corp corp') (player : PlayerId)
      (role : Role) : WriteAs (.setRole corp player role) (.setRole corp' player role)
  | deleteMember {corp corp' : CorpId} (paired : twins.corps.pairs corp corp')
      (player : PlayerId) : WriteAs (.deleteMember corp player) (.deleteMember corp' player)
  | insertMessage {message : CorpMessage} {corp : CorpId}
      (paired : twins.corps.pairs message.corp corp) :
      WriteAs (.insertMessage message) (.insertMessage { message with corp })
  | insertMinefield {field : Minefield} {owner : Owner}
      (owned : twins.OwnerAs field.owner owner) :
      WriteAs (.insertMinefield field) (.insertMinefield { field with owner })
  | saveMinefield {field field' : Minefield} (same : twins.FieldAs field field') :
      WriteAs (.saveMinefield field) (.saveMinefield field')
  | deleteMinefield {id id' : MinefieldId} (paired : twins.fields.pairs id id') :
      WriteAs (.deleteMinefield id) (.deleteMinefield id')
  | saveIntel (player : PlayerId) (intel : Intel) :
      WriteAs (.saveIntel player intel) (.saveIntel player intel)
  | deleteIntel (player : PlayerId) (sector : SectorId) :
      WriteAs (.deleteIntel player sector) (.deleteIntel player sector)
  | insertLog (player : PlayerId) (entry : LogEntry) :
      WriteAs (.insertLog player entry) (.insertLog player entry)
  | pruneLogs (player : PlayerId) (keep : Nat) :
      WriteAs (.pruneLogs player keep) (.pruneLogs player keep)

/-- Effects and their twin: the player is told the same. -/
structure EffectsAs (effects other : Effects) : Prop where
  commander : twins.CommanderAs effects.commander other.commander
  writes : List.Forall₂ twins.WriteAs effects.writes other.writes
  message : other.message = effects.message
  lines : other.lines = effects.lines

/-- A response and its twin: only the numbers of the planet in view and of the
player's corporation differ. -/
def ResponseAs (response other : Response) : Prop :=
  ∃ membership planet,
    Option.Rel twins.MembershipAs response.status.membership membership ∧
    Option.Rel (fun view other => ∃ id, twins.planets.pairs view.id id ∧ other = { view with id })
      response.sector.planet planet ∧
    other = { response with
      status := { response.status with membership }
      sector := { response.sector with planet } }

end Twinning

/-- Whether two stores answer alike. -/
structure Lookup.Twin (twins : Twinning) (look other : Lookup) : Prop where
  commander : ∀ id, Answers twins.CommanderAs (look.commander id) (other.commander id)
  username : other.username = look.username
  sector : other.sector = look.sector
  warpsFrom : other.warpsFrom = look.warpsFrom
  warpsAmong : ∀ sectors warp, warp ∈ other.warpsAmong sectors ↔ warp ∈ look.warpsAmong sectors
  discovered : other.discovered = look.discovered
  port : other.port = look.port
  planet : ∀ sector, Option.Rel twins.PlanetAs (look.planet sector) (other.planet sector)
  planetCount : ∀ corp corp', twins.corps.pairs corp corp' →
    other.planetCount corp' = look.planetCount corp
  corp : ∀ corp corp', twins.corps.pairs corp corp' →
    Option.Rel twins.CorpAs (look.corp corp) (other.corp corp')
  corpNamed : ∀ name, Option.Rel twins.CorpAs (look.corpNamed name) (other.corpNamed name)
  members : ∀ corp corp', twins.corps.pairs corp corp' →
    Answers (List.Forall₂ twins.MemberAs) (look.members corp) (other.members corp')
  minefields : ∀ sector, ∃ fields, List.Forall₂ twins.FieldAs (look.minefields sector) fields ∧
    (other.minefields sector).Perm fields
  numbered : ∀ sector, ∀ a ∈ look.minefields sector, ∀ b ∈ look.minefields sector,
    a.id = b.id → a = b
  lone : ∀ sector, ∀ a ∈ look.minefields sector, ∀ b ∈ look.minefields sector, ∀ player,
    a.owner.player? = some player → b.owner.player? = some player → a = b
  event : other.event = look.event
  events : other.events = look.events
  intel : other.intel = look.intel
  recentLogs : other.recentLogs = look.recentLogs
  season : other.season = look.season
  rankings : other.rankings = look.rankings

namespace Twinning

variable {twins : Twinning}

section Records

variable {owner owner' : Owner} {commander commander' : Commander}

theorem OwnerAs.player? (same : twins.OwnerAs owner owner') : owner'.player? = owner.player? := by
  cases same <;> rfl

theorem OwnerAs.isOwned (same : twins.OwnerAs owner owner') :
    owner'.isOwned = owner.isOwned := by
  cases same <;> rfl

/-- The corporations of two stores are compared alike. -/
theorem corp?_beq {corp corp' : CorpId} (paired : twins.corps.pairs corp corp')
    {membership membership' : Option Membership}
    (belongs : Option.Rel twins.MembershipAs membership membership') :
    (membership'.map (·.corp) == some corp') = (membership.map (·.corp) == some corp) := by
  cases belongs with
  | none => rfl
  | some same =>
    obtain ⟨id, related, rfl⟩ := same
    have equal := Pairing.same_iff related paired
    simp only [Option.map_some, Option.some_beq_some]
    exact (decide_eq_decide.mpr equal).symm

theorem OwnerAs.grantsAccess (same : twins.OwnerAs owner owner') (player : PlayerId)
    {membership membership' : Option Membership}
    (belongs : Option.Rel twins.MembershipAs membership membership') :
    owner'.grantsAccess player (membership'.map (·.corp)) =
      owner.grantsAccess player (membership.map (·.corp)) := by
  cases same with
  | unowned | player => rfl
  | corp paired founder => simp only [Owner.grantsAccess, corp?_beq paired belongs]

theorem claimedBy_as (player : PlayerId) {membership membership' : Option Membership}
    (belongs : Option.Rel twins.MembershipAs membership membership') :
    twins.OwnerAs (.claimedBy player (membership.map (·.corp)))
      (.claimedBy player (membership'.map (·.corp))) := by
  cases belongs with
  | none => exact .player player
  | some same =>
    obtain ⟨id, related, rfl⟩ := same
    exact .corp related player

theorem OwnerAs.unique {first second : Owner} (same : twins.OwnerAs owner first)
    (also : twins.OwnerAs owner second) : first = second := by
  cases same with
  | unowned | player => cases also; rfl
  | corp paired founder =>
    cases also with
    | corp paired' => rw [(Pairing.same_iff paired paired').mp rfl]

theorem FieldAs.unique {field first second : Minefield} (same : twins.FieldAs field first)
    (also : twins.FieldAs field second) : first = second := by
  obtain ⟨id, owner, paired, owned, rfl⟩ := same
  obtain ⟨id', owner', paired', owned', rfl⟩ := also
  rw [(Pairing.same_iff paired paired').mp rfl, owned.unique owned']

end Records

section Mines

variable {fields fields' : List Minefield}

/-- Mines are taken from twin fields alike. -/
theorem consume_as (same : List.Forall₂ twins.FieldAs fields fields') (amount : Nat) :
    (Minefield.consume fields' amount).1 = (Minefield.consume fields amount).1 ∧
      List.Forall₂ twins.WriteAs
        ((Minefield.consume fields amount).2.map Minefield.Change.toWrite)
        ((Minefield.consume fields' amount).2.map Minefield.Change.toWrite) := by
  induction same generalizing amount with
  | nil => exact ⟨rfl, .nil⟩
  | @cons field field' rest rest' each others ih =>
    obtain ⟨id, owner, paired, owned, rfl⟩ := each
    simp only [Minefield.consume]
    split
    · exact ⟨rfl, .nil⟩
    · split
      · exact ih amount
      · obtain ⟨taken, changes⟩ := ih (amount - min field.qty amount)
        refine ⟨by rw [taken], .cons ?_ changes⟩
        split
        · exact .deleteMinefield paired
        · exact .saveMinefield ⟨id, owner, paired, owned, rfl⟩

/-- Twin fields hold as many mines. -/
theorem total_as (same : List.Forall₂ twins.FieldAs fields fields') :
    Minefield.total fields' = Minefield.total fields := by
  have counted : fields'.map (·.qty) = fields.map (·.qty) := by
    induction same with
    | nil => rfl
    | cons each _ ih =>
      obtain ⟨_, _, _, _, rfl⟩ := each
      rw [List.map_cons, List.map_cons, ih]
  rw [Minefield.total_eq, Minefield.total_eq, counted]

end Mines

section Growth

/-! What is known of twins stays so when more numbers are paired. -/

variable {more : Twinning}

theorem le_refl (twins : Twinning) : twins ≤ twins :=
  ⟨fun _ _ => id, fun _ _ => id, fun _ _ => id⟩

theorem le_trans {most : Twinning} (first : twins ≤ more) (second : more ≤ most) : twins ≤ most :=
  ⟨fun a b paired => second.1 a b (first.1 a b paired),
    fun a b paired => second.2.1 a b (first.2.1 a b paired),
    fun a b paired => second.2.2 a b (first.2.2 a b paired)⟩

theorem OwnerAs.mono {owner owner' : Owner} (same : twins.OwnerAs owner owner')
    (grown : twins ≤ more) : more.OwnerAs owner owner' := by
  cases same with
  | unowned => exact .unowned
  | player id => exact .player id
  | corp paired founder => exact .corp (grown.2.1 _ _ paired) founder

theorem MembershipAs.mono {membership membership' : Membership}
    (same : twins.MembershipAs membership membership') (grown : twins ≤ more) :
    more.MembershipAs membership membership' := by
  obtain ⟨corp, paired, shown⟩ := same
  exact ⟨corp, grown.2.1 _ _ paired, shown⟩

theorem membership_mono {membership membership' : Option Membership}
    (same : Option.Rel twins.MembershipAs membership membership') (grown : twins ≤ more) :
    Option.Rel more.MembershipAs membership membership' := by
  cases same with
  | none => exact .none
  | some same => exact .some (same.mono grown)

theorem CommanderAs.mono {commander commander' : Commander}
    (same : twins.CommanderAs commander commander') (grown : twins ≤ more) :
    more.CommanderAs commander commander' := by
  obtain ⟨membership, belongs, shown⟩ := same
  exact ⟨membership, membership_mono belongs grown, shown⟩

theorem PlanetAs.mono {planet planet' : Planet} (same : twins.PlanetAs planet planet')
    (grown : twins ≤ more) : more.PlanetAs planet planet' := by
  obtain ⟨id, owner, paired, owned, shown⟩ := same
  exact ⟨id, owner, grown.1 _ _ paired, owned.mono grown, shown⟩

theorem FieldAs.mono {field field' : Minefield} (same : twins.FieldAs field field')
    (grown : twins ≤ more) : more.FieldAs field field' := by
  obtain ⟨id, owner, paired, owned, shown⟩ := same
  exact ⟨id, owner, grown.2.2 _ _ paired, owned.mono grown, shown⟩

theorem CorpAs.mono {corp corp' : Corporation} (same : twins.CorpAs corp corp')
    (grown : twins ≤ more) : more.CorpAs corp corp' := by
  obtain ⟨id, paired, shown⟩ := same
  exact ⟨id, grown.2.1 _ _ paired, shown⟩

theorem MemberAs.mono {member member' : Member} (same : twins.MemberAs member member')
    (grown : twins ≤ more) : more.MemberAs member member' := by
  obtain ⟨corp, paired, shown⟩ := same
  exact ⟨corp, grown.2.1 _ _ paired, shown⟩

theorem WriteAs.mono {change change' : Write} (same : twins.WriteAs change change')
    (grown : twins ≤ more) : more.WriteAs change change' := by
  have corps := grown.2.1
  cases same with
  | savePlayer player => exact .savePlayer player
  | discover player sector => exact .discover player sector
  | savePort port => exact .savePort port
  | insertPlanet owned => exact .insertPlanet (owned.mono grown)
  | savePlanet same => exact .savePlanet (same.mono grown)
  | insertCorp name now => exact .insertCorp name now
  | saveCorp same => exact .saveCorp (same.mono grown)
  | deleteCorp paired => exact .deleteCorp (corps _ _ paired)
  | insertMember same => exact .insertMember (same.mono grown)
  | setRole paired player role => exact .setRole (corps _ _ paired) player role
  | deleteMember paired player => exact .deleteMember (corps _ _ paired) player
  | insertMessage paired => exact .insertMessage (corps _ _ paired)
  | insertMinefield owned => exact .insertMinefield (owned.mono grown)
  | saveMinefield same => exact .saveMinefield (same.mono grown)
  | deleteMinefield paired => exact .deleteMinefield (grown.2.2 _ _ paired)
  | saveIntel player intel => exact .saveIntel player intel
  | deleteIntel player sector => exact .deleteIntel player sector
  | insertLog player entry => exact .insertLog player entry
  | pruneLogs player keep => exact .pruneLogs player keep

theorem ResponseAs.mono {response response' : Response}
    (same : twins.ResponseAs response response') (grown : twins ≤ more) :
    more.ResponseAs response response' := by
  obtain ⟨membership, planet, belongs, view, shown⟩ := same
  refine ⟨membership, planet, membership_mono belongs grown, ?_, shown⟩
  clear shown
  generalize response.sector.planet = seen at view ⊢
  cases view with
  | none => exact .none
  | some same =>
    obtain ⟨id, paired, shown⟩ := same
    exact .some ⟨id, grown.1 _ _ paired, shown⟩

end Growth

end Twinning

namespace Lookup.Twin

variable {twins : Twinning} {look other : Lookup}

/-- The fields of a sector that threaten a player, in an order of fields that
tells numbers apart. -/
theorem hostile_sorted (twin : look.Twin twins other) (sector : SectorId) (player : PlayerId)
    {membership membership' : Option Membership}
    (belongs : Option.Rel twins.MembershipAs membership membership')
    {le : Minefield → Minefield → Bool}
    (trans : ∀ a b c, le a b = true → le b c = true → le a c = true)
    (total : ∀ a b, (le a b || le b a) = true)
    (apart : ∀ a b, le a b = true → le b a = true → a.id = b.id)
    (alike : ∀ a a' b b', twins.FieldAs a a' → twins.FieldAs b b' → le a b = le a' b') :
    List.Forall₂ twins.FieldAs
      ((Minefield.hostile (look.minefields sector) player
        (membership.map (·.corp))).mergeSort le)
      ((Minefield.hostile (other.minefields sector) player
        (membership'.map (·.corp))).mergeSort le) := by
  obtain ⟨fields, same, perm⟩ := twin.minefields sector
  have hostile : List.Forall₂ twins.FieldAs
      (Minefield.hostile (look.minefields sector) player (membership.map (·.corp)))
      (Minefield.hostile fields player (membership'.map (·.corp))) := by
    refine forall₂_filter same ?_
    rintro field _ ⟨id, owner, _, owned, rfl⟩
    simp only [Minefield.isHostileTo_eq_not_grantsAccess, owned.grantsAccess player belongs]
  have sifted : (Minefield.hostile (other.minefields sector) player
      (membership'.map (·.corp))).Perm (Minefield.hostile fields player
      (membership'.map (·.corp))) := perm.filter _
  rw [mergeSort_eq_of_perm sifted trans total fun a ha b hb up down => ?_]
  · exact forall₂_mergeSort hostile alike
  · have listed := fun {field} (member : field ∈ Minefield.hostile (other.minefields sector)
        player (membership'.map (·.corp))) => perm.mem_iff.mp (List.mem_of_mem_filter member)
    obtain ⟨x, hx, first⟩ := forall₂_mem (List.Forall₂.flip same) (listed ha)
    obtain ⟨y, hy, second⟩ := forall₂_mem (List.Forall₂.flip same) (listed hb)
    obtain ⟨_, _, paired, _, rfl⟩ := id first
    obtain ⟨_, _, paired', _, rfl⟩ := id second
    have numbers := (Pairing.same_iff paired paired').mpr (apart _ _ up down)
    cases twin.numbered sector x hx y hy numbers
    exact Twinning.FieldAs.unique first second

theorem sweepOrder (twin : look.Twin twins other) (sector : SectorId) (player : PlayerId)
    {membership membership' : Option Membership}
    (belongs : Option.Rel twins.MembershipAs membership membership') :
    List.Forall₂ twins.FieldAs
      (Minefield.sweepOrder (look.minefields sector) player (membership.map (·.corp)))
      (Minefield.sweepOrder (other.minefields sector) player (membership'.map (·.corp))) := by
  refine twin.hostile_sorted sector player belongs (by grind) (by grind) (by grind) ?_
  rintro a _ b _ ⟨id, owner, paired, _, rfl⟩ ⟨id', owner', paired', _, rfl⟩
  simp only [decide_eq_decide.mpr (Pairing.le_iff paired paired')]

theorem strikeOrder (twin : look.Twin twins other) (sector : SectorId) (player : PlayerId)
    {membership membership' : Option Membership}
    (belongs : Option.Rel twins.MembershipAs membership membership') :
    List.Forall₂ twins.FieldAs
      (Minefield.strikeOrder (look.minefields sector) player (membership.map (·.corp)))
      (Minefield.strikeOrder (other.minefields sector) player (membership'.map (·.corp))) := by
  refine twin.hostile_sorted sector player belongs (by grind) (by grind) (by grind) ?_
  rintro a _ b _ ⟨id, owner, paired, _, rfl⟩ ⟨id', owner', paired', _, rfl⟩
  simp only [decide_eq_decide.mpr (Pairing.le_iff paired paired')]

/-- A player's own field in a sector. -/
theorem own_field (twin : look.Twin twins other) (sector : SectorId) (player : PlayerId) :
    Option.Rel twins.FieldAs
      ((look.minefields sector).find? fun field => field.owner.player? == some player)
      ((other.minefields sector).find? fun field => field.owner.player? == some player) := by
  obtain ⟨fields, same, perm⟩ := twin.minefields sector
  have own : ∀ field field', twins.FieldAs field field' →
      (field.owner.player? == some player) = (field'.owner.player? == some player) := by
    rintro field _ ⟨_, owner, _, owned, rfl⟩
    rw [owned.player?]
  rw [find?_eq_of_perm perm fun a ha b hb first second => ?_]
  · exact forall₂_find? same own
  · obtain ⟨x, hx, known⟩ := forall₂_mem (List.Forall₂.flip same) (perm.mem_iff.mp ha)
    obtain ⟨y, hy, known'⟩ := forall₂_mem (List.Forall₂.flip same) (perm.mem_iff.mp hb)
    rw [← own x a known] at first
    rw [← own y b known'] at second
    cases twin.lone sector x hx y hy player (eq_of_beq first) (eq_of_beq second)
    exact Twinning.FieldAs.unique known known'

theorem mineTotal (twin : look.Twin twins other) (sector : SectorId) :
    other.mineTotal sector = look.mineTotal sector := by
  obtain ⟨fields, same, perm⟩ := twin.minefields sector
  unfold Lookup.mineTotal
  rw [← Twinning.total_as same, Minefield.total_eq, Minefield.total_eq, Minefield.sum_perm perm]

end Lookup.Twin

end Starlane
