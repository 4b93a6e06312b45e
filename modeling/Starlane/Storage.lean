import Starlane.Overflow
import Starlane.World.Change
import Starlane.World.Lookup

/-!
# Storage that may give out

A world behind a limit on writes.  Once the limit is used up every further write fails, which
shows that a command in a transaction either happens as a whole or not at all.
-/

namespace Starlane

/-- A world, and how many more writes it takes; unlimited if nothing is said. -/
structure Storage where
  world : World
  budget : Option Nat

namespace Storage

/-- Storage without a limit. -/
def ofWorld (world : World) : Storage :=
  ⟨world, none⟩

/-- Whether a write has nothing to do and spends nothing: a pruning of a log that is short
enough. -/
def isIdle (world : World) : Write → Bool
  | .pruneLogs player keep => world.excessLogs player keep == 0
  | _ => false

/-- The limit after one more write; a failure if it is used up. -/
def spend : Option Nat → Except StoreFailure (Option Nat)
  | none => .ok none
  | some 0 => .error .writesExhausted
  | some (left + 1) => .ok (some left)

/-- Carries out a write.  One that fails for another reason than the limit has spent from it. -/
def write (change : Write) (storage : Storage) : Except StoreFailure Unit × Storage :=
  if isIdle storage.world change then (.ok (), storage)
  else
    match spend storage.budget with
    | .error failure => (.error failure, storage)
    | .ok budget =>
      match storage.world.apply change with
      | .error failure => (.error failure, { storage with budget })
      | .ok world => (.ok (), ⟨world, budget⟩)

instance : Store Storage where
  lookup storage := storage.world.lookup
  write := write

/-- The storage with room for so many more writes. -/
def limited (storage : Storage) (writes : Nat) : Storage :=
  { storage with budget := some writes }

/-- Runs an action as a whole or not at all: after a failure the world is as before, and the limit
is lifted. -/
def transaction {ε α : Type} (action : Storage → Except ε α × Storage) (storage : Storage) :
    Except ε α × Storage :=
  match action storage with
  | (.ok value, after) => (.ok value, after)
  | (.error failure, _) => (.error failure, .ofWorld storage.world)

/-- Carries out a player's request as one transaction, with numbers of any size. -/
def execute (settings : Settings) (now : Int) (player : PlayerId) (request : Request) :
    Storage → Except StoreFailure Response × Storage :=
  transaction (Store.execute settings now player request)

/-- What the program does with a player's request: the answer and the storage afterwards, or
nothing where a number overflows, which ends it. -/
def serve? (settings : Settings) (now : Int) (player : PlayerId) (request : Request)
    (storage : Storage) : Option (Except StoreFailure Response × Storage) :=
  if Store.aborts settings now player request storage then none
  else some (execute settings now player request storage)

end Storage

end Starlane
