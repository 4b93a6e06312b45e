/-!
# Identifiers and ownership

The numbers that name players, sectors and the rest, and who controls a planet or a minefield.
-/

namespace Starlane

abbrev PlayerId := Nat

abbrev SectorId := Nat

abbrev CorpId := Nat

abbrev PlanetId := Nat

abbrev MinefieldId := Nat

abbrev EventId := Nat

abbrev SeasonId := Nat

/-- Who controls a planet or a minefield.  A corporation's holding remembers the player who
claimed it, who keeps access after leaving the corporation. -/
inductive Owner where
  | unowned
  | player (id : PlayerId)
  | corp (corp : CorpId) (founder : PlayerId)
  deriving DecidableEq, Repr

namespace Owner

/-- The owner of what a player claims: the player's corporation, if any. -/
def claimedBy (player : PlayerId) : Option CorpId → Owner
  | some c => corp c player
  | none => .player player

/-- Whether anyone owns it. -/
def isOwned : Owner → Bool
  | unowned => false
  | _ => true

/-- The player who claimed it. -/
def player? : Owner → Option PlayerId
  | unowned => none
  | player id => some id
  | corp _ founder => some founder

/-- The corporation that holds it. -/
def corp? : Owner → Option CorpId
  | corp c _ => some c
  | _ => none

/-- Whether a player, perhaps a member of a corporation, may use it. -/
def grantsAccess (owner : Owner) (id : PlayerId) (membership : Option CorpId) : Bool :=
  match owner with
  | unowned => false
  | player holder => holder == id
  | corp c founder => founder == id || membership == some c

end Owner

end Starlane
