import Starlane.Store.Lookup

/-!
# Writes

The changes that a command makes to the storage, as data.  A store carries them out one by one; a
new record gets its number from the store.
-/

namespace Starlane

/-- One change of the storage. -/
inductive Write where
  | savePlayer (player : Player)
  | discover (player : PlayerId) (sector : SectorId)
  | savePort (port : Port)
  | insertPlanet (planet : Planet)
  | savePlanet (planet : Planet)
  | insertCorp (name : String) (now : Int)
  | saveCorp (corp : Corporation)
  | deleteCorp (corp : CorpId)
  | insertMember (member : Member)
  | setRole (corp : CorpId) (player : PlayerId) (role : Role)
  | deleteMember (corp : CorpId) (player : PlayerId)
  | insertMessage (message : CorpMessage)
  | insertMinefield (field : Minefield)
  | saveMinefield (field : Minefield)
  | deleteMinefield (field : MinefieldId)
  | saveIntel (player : PlayerId) (intel : Intel)
  | deleteIntel (player : PlayerId) (sector : SectorId)
  | insertLog (player : PlayerId) (entry : LogEntry)
  | pruneLogs (player : PlayerId) (keep : Nat)
  deriving DecidableEq, Repr

/-- The write that a changed minefield needs. -/
def Minefield.Change.toWrite : Minefield.Change → Write
  | shrink field qty => .saveMinefield { field with qty }
  | remove field => .deleteMinefield field.id

/-- A store answers lookups and carries out writes.  A write that fails may still leave a trace,
such as a number that has been used up. -/
class Store (σ : Type) where
  lookup : σ → Lookup
  write : Write → σ → Except StoreFailure Unit × σ

namespace Store

variable {σ : Type} [Store σ]

/-- Carries out writes in order, up to the first that fails. -/
def writeAll : List Write → σ → Except StoreFailure Unit × σ
  | [], store => (.ok (), store)
  | change :: rest, store =>
    match write change store with
    | (.ok _, store) => writeAll rest store
    | (.error failure, store) => (.error failure, store)

end Store

end Starlane
