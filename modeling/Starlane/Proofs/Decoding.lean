import Starlane.Proofs.Unique
import Starlane.Server.Codec

/-!
# Rows are read back

What is written into a row is what is read from it, whatever key the row is
given. A scan is read back when its
numbers fit their columns, and a player when the row keeps their credentials.
-/

namespace Starlane.Server

theorem ownerOfColumns_ofOwner (owner : Owner) :
    ownerOfColumns owner.player? owner.corp? = owner := by
  cases owner <;> rfl

@[simp] theorem readable_some {α : Type} (value : α) (entity : Entity) (id : Nat)
    (field : String) : readable (some value) entity id field = .ok value :=
  rfl

theorem StockColumns.toStock_ofStock (stock : Stock) (sector : SectorId) :
    (StockColumns.ofStock stock).toStock sector = .ok stock := by
  simp [toStock, ofStock, bind, Except.bind, pure, Except.pure]

theorem PortRow.toPort_ofPort (port : Port) : (PortRow.ofPort port).toPort = .ok port := by
  have read : ∀ c, ((ofPort port).stocks.get c).toStock (ofPort port).sector =
      .ok (port.stocks.get c) := fun c => by
    rw [ofPort, Goods.map, Goods.get_ofFn]
    exact StockColumns.toStock_ofStock _ _
  have ore := read .ore
  have organics := read .organics
  have equipment := read .equipment
  simp only [Goods.get] at ore organics equipment
  simp only [toPort, ore, organics, equipment, bind, Except.bind, pure, Except.pure]
  rfl

@[simp] theorem PlanetRow.toPlanet_ofPlanet (planet : Planet) :
    (PlanetRow.ofPlanet planet).toPlanet = planet := by
  simp only [toPlanet, ofPlanet, ownerOfColumns_ofOwner]

@[simp] theorem MinefieldRow.toMinefield_ofMinefield (field : Minefield) :
    (MinefieldRow.ofMinefield field).toMinefield = field := by
  simp only [toMinefield, ofMinefield, ownerOfColumns_ofOwner]

theorem EventRow.toEvent_ofEvent (event : Event) :
    (EventRow.ofEvent event).toEvent = .ok event := by
  have scope : (ofEvent event).scope = .ok event.scope := by
    obtain ⟨_, _, _, scope, _⟩ := event
    cases scope with
    | none => rfl
    | some c => cases c <;> rfl
  have kind : EventKind.ofCode? (ofEvent event).kind = some event.kind :=
    EventKind.ofCode?_code _
  simp only [toEvent, scope, kind, readable_some, bind, Except.bind, pure, Except.pure]
  rfl

theorem MemberRow.toMember_ofMember (key : Nat) (member : Member) :
    (Row.withKey key (MemberRow.ofMember member)).toMember = .ok member := by
  simp [toMember, readRole, ofMember, Row.withKey, bind, Except.bind, pure, Except.pure]

theorem LogRow.toEntry_ofEntry (key : Nat) (player : PlayerId) (entry : LogEntry) :
    (Row.withKey key (LogRow.ofEntry player entry)).toEntry = .ok entry := by
  simp [toEntry, ofEntry, Row.withKey, bind, Except.bind, pure, Except.pure]

theorem IntelRow.toIntel_ofIntel (key : Nat) (player : PlayerId) {intel : Intel}
    (fits : intel.Fits) :
    (Row.withKey key (IntelRow.ofIntel player intel)).toIntel = .ok intel := by
  simp [toIntel, ofIntel, Row.withKey, Intel.read_written fits]

/-- A player is read back from a new row where the season has its name. -/
theorem PlayerRow.toPlayer_ofPlayer {identity : Identity} {createdAt : Micros} {player : Player}
    {name : String} (named : player.seasonName = name) :
    (PlayerRow.ofPlayer identity createdAt player).toPlayer name = .ok player := by
  subst named
  simp [toPlayer, ofPlayer, bind, Except.bind, pure, Except.pure]

/-- A saved player is read back from a row that has the player's credentials. -/
theorem PlayerRow.toPlayer_save {row : PlayerRow} {name : String} {old player : Player}
    (read : row.toPlayer name = .ok old) (own : player.id = row.id)
    (known : old.credentials = player.credentials) :
    (row.save player).toPlayer name = .ok player := by
  unfold toPlayer at read
  cases ship : Ship.ofCode? row.ship with
  | none => simp [ship, readable, bind, Except.bind] at read
  | some hull =>
    simp only [ship, readable_some, bind, Except.bind, pure, Except.pure, Except.ok.injEq] at read
    subst read
    simp only [Player.credentials, Prod.mk.injEq] at known
    obtain ⟨username, isAdmin, mustChange, season, named⟩ := known
    obtain ⟨_, _, _, _, _, _, _, _, _, _, _, _, _, _, _, _, _, _⟩ := player
    simp_all [toPlayer, save, bind, Except.bind, pure, Except.pure]

end Starlane.Server
