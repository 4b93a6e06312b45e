import Starlane.Proofs.Limit

/-!
# A fault undoes a request

A world that counts the writes asked of it tells how many a request makes. A
limit that covers them all changes nothing about the request. One that does not
makes it fail, and then the world is as before and the limit is gone.
-/

namespace Starlane

/-- A world without a limit that counts the writes it is asked for. -/
structure Metered where
  world : World
  calls : Nat

/-- Whether a limit, if there is one, covers a number of writes. -/
def Storage.Covers (limit : Option Nat) (calls : Nat) : Prop :=
  ∀ most ∈ limit, calls ≤ most

theorem Storage.Covers.fewer {limit : Option Nat} {calls later : Nat}
    (covers : Covers limit later) (fewer : calls ≤ later) : Covers limit calls :=
  fun most given => Nat.le_trans fewer (covers most given)

/-- A limit that covers the writes so far covers one more, or is used up. -/
theorem Storage.spend_covered {limit : Option Nat} {calls : Nat} (covered : Covers limit calls) :
    (Covers limit (calls + 1) ∧
      spend (limit.map (· - calls)) = .ok (limit.map (· - (calls + 1)))) ∨
    (¬ Covers limit (calls + 1) ∧ spend (limit.map (· - calls)) = .error .writesExhausted) := by
  cases limit with
  | none => exact .inl ⟨nofun, rfl⟩
  | some most =>
    have reached : calls ≤ most := covered most rfl
    by_cases full : calls = most
    · refine .inr ⟨fun covers => ?_, ?_⟩
      · have bound : calls + 1 ≤ most := covers most rfl
        omega
      · simp [full, spend]
    · refine .inl ⟨?_, ?_⟩
      · rintro _ ⟨rfl⟩
        omega
      · obtain ⟨left, rest⟩ : ∃ left, most - calls = left + 1 := ⟨most - calls - 1, by omega⟩
        have next : most - (calls + 1) = left := by omega
        simp [rest, next, spend]

namespace Store

variable {σ : Type} [Store σ]

/-- A settled request writes first and responds from what it has written. -/
theorem settle_eq (settings : Settings) (now : Int) (commander : Commander) (message : String)
    (refusal : Option Refusal) (changes : List Write) (store : σ) :
    settle settings now commander message refusal changes store =
      ((writeAll changes store).1.bind fun _ =>
        (lookup (writeAll changes store).2).respond
          (Settings.shownLogs settings.recentLogLimit) now commander message refusal,
        (writeAll changes store).2) := by
  unfold settle
  split <;> next written => rw [written]; rfl

end Store

namespace Metered

/-- Carries out a write and counts it, also if it fails. One with nothing to do
is not asked for. -/
def write (change : Write) (metered : Metered) : Except StoreFailure Unit × Metered :=
  if Storage.isIdle metered.world change then (.ok (), metered)
  else
    match metered.world.apply change with
    | .error failure => (.error failure, { metered with calls := metered.calls + 1 })
    | .ok world => (.ok (), ⟨world, metered.calls + 1⟩)

instance : Store Metered where
  lookup metered := metered.world.lookup
  write := write

/-- The storage behind what is left of a limit. -/
def behind (limit : Option Nat) (metered : Metered) : Storage :=
  ⟨metered.world, limit.map (· - metered.calls)⟩

variable {α : Type} {limit : Option Nat} {metered : Metered}

/-- Whether a run behind a limit comes to what the counted run comes to if the
limit covers the count, and fails if it does not. -/
structure Tracks (limit : Option Nat) (counted : Except StoreFailure α × Metered)
    (limited : Except StoreFailure α × Storage) : Prop where
  within : Storage.Covers limit counted.2.calls →
    limited = (counted.1, counted.2.behind limit)
  beyond : ¬ Storage.Covers limit counted.2.calls → limited.1 = .error .writesExhausted

/-- What a run comes to that writes nothing. -/
theorem Tracks.idle (covered : Storage.Covers limit metered.calls)
    (answer : Except StoreFailure α) :
    Tracks limit (answer, metered) (answer, metered.behind limit) where
  within _ := rfl
  beyond uncovered := absurd covered uncovered

theorem write_tracks (covered : Storage.Covers limit metered.calls) (change : Write) :
    Tracks limit (write change metered) (Storage.write change (metered.behind limit)) := by
  by_cases idle : Storage.isIdle metered.world change = true
  · rw [show write change metered = _ from if_pos idle,
      show Storage.write change (metered.behind limit) = _ from if_pos idle]
    exact .idle covered _
  · rw [show write change metered = _ from if_neg idle,
      show Storage.write change (metered.behind limit) = _ from if_neg idle]
    rcases Storage.spend_covered covered with ⟨covers, spent⟩ | ⟨uncovered, spent⟩
    · rw [show Storage.spend (metered.behind limit).budget = _ from spent,
        show (metered.behind limit).world = metered.world from rfl]
      cases metered.world.apply change with
      | error failure => exact @Tracks.idle _ limit ⟨metered.world, _⟩ covers _
      | ok world => exact @Tracks.idle _ limit ⟨world, _⟩ covers _
    · rw [show Storage.spend (metered.behind limit).budget = _ from spent]
      refine ⟨fun covers => ?_, fun _ => rfl⟩
      split at covers <;> exact absurd covers uncovered

theorem calls_write (change : Write) (metered : Metered) :
    metered.calls ≤ (Store.write change metered).2.calls := by
  change metered.calls ≤ (write change metered).2.calls
  unfold write
  split
  · exact Nat.le_refl _
  · split <;> exact Nat.le_succ _

theorem calls_writeAll (changes : List Write) (metered : Metered) :
    metered.calls ≤ (Store.writeAll changes metered).2.calls := by
  induction changes generalizing metered with
  | nil => exact Nat.le_refl _
  | cons change rest ih =>
    have first := calls_write change metered
    unfold Store.writeAll
    split
    · next next written =>
      rw [written] at first
      exact Nat.le_trans first (ih next)
    · next next written =>
      rw [written] at first
      exact first

/-- Writes in order behind a limit go as far as the limit does. -/
theorem writeAll_tracks (covered : Storage.Covers limit metered.calls) (changes : List Write) :
    Tracks limit (Store.writeAll changes metered)
      (Store.writeAll changes (metered.behind limit)) := by
  induction changes generalizing metered with
  | nil => exact .idle covered _
  | cons change rest ih =>
    have first : Tracks limit (Store.write change metered)
      (Store.write change (metered.behind limit)) := write_tracks covered change
    unfold Store.writeAll
    generalize Store.write change metered = counted at first
    generalize Store.write change (metered.behind limit) = limited at first
    obtain ⟨answer, next⟩ := counted
    by_cases covers : Storage.Covers limit next.calls
    · rw [first.within covers]
      cases answer with
      | ok done => exact ih covers
      | error failure => exact .idle covers _
    · -- Whatever the counted run still writes, the limit does not cover it.
      have failed := first.beyond covers
      obtain ⟨_ | _, stuck⟩ := limited
      · cases failed
        refine ⟨fun later => absurd (later.fewer ?_) covers, fun _ => rfl⟩
        cases answer with
        | ok done => exact calls_writeAll rest next
        | error failure => exact Nat.le_refl _
      · cases failed

/-- What follows some writes without writing tracks as the writes do. -/
theorem Tracks.after {β : Type} {counted : Except StoreFailure α × Metered}
    {limited : Except StoreFailure α × Storage} (tracks : Tracks limit counted limited)
    (look : Lookup → α → Except StoreFailure β) :
    Tracks limit (counted.1.bind (look (Store.lookup counted.2)), counted.2)
      (limited.1.bind (look (Store.lookup limited.2)), limited.2) where
  within covers := by
    rw [tracks.within covers]
    rfl
  beyond uncovered := by
    dsimp only
    rw [tracks.beyond uncovered]
    rfl

theorem settle_tracks (covered : Storage.Covers limit metered.calls) (settings : Settings)
    (now : Int) (commander : Commander) (message : String) (refusal : Option Refusal)
    (changes : List Write) :
    Tracks limit (Store.settle settings now commander message refusal changes metered)
      (Store.settle settings now commander message refusal changes (metered.behind limit)) := by
  rw [Store.settle_eq, Store.settle_eq]
  exact (writeAll_tracks covered changes).after fun look _ =>
    look.respond (Settings.shownLogs settings.recentLogLimit) now commander message refusal

/-- A request behind a limit goes as far as the limit does. -/
theorem execute_tracks (covered : Storage.Covers limit metered.calls) (settings : Settings)
    (now : Int) (player : PlayerId) (request : Request) :
    Tracks limit (Store.execute settings now player request metered)
      (Store.execute settings now player request (metered.behind limit)) := by
  cases loads : (Store.lookup metered).commander player with
  | error failure =>
    have loads' : (Store.lookup (metered.behind limit)).commander player = _ := loads
    rw [Store.execute_unloaded loads, Store.execute_unloaded loads']
    exact .idle covered _
  | ok loaded =>
    have loads' : (Store.lookup (metered.behind limit)).commander player = _ := loads
    cases planned : (Command.ofRequest request).outcome (Store.lookup metered) now
        (loaded.regenerate settings.turnRegenSeconds now) with
    | ok effects =>
      rw [Store.execute_planned loads rfl planned, Store.execute_planned loads' rfl planned]
      exact settle_tracks covered _ _ _ _ _ _
    | error halt =>
      cases halt with
      | refused written reason =>
        rw [Store.execute_refused loads rfl planned, Store.execute_refused loads' rfl planned]
        exact settle_tracks covered _ _ _ _ _ _
      | failed written failure =>
        rw [Store.execute_halted loads rfl planned, Store.execute_halted loads' rfl planned]
        exact (writeAll_tracks covered written).after fun _ _ => .error failure

/-- The run that counts is the one on storage without a limit. -/
theorem execute_uncounted (settings : Settings) (now : Int) (player : PlayerId)
    (request : Request) (metered : Metered) :
    Store.execute settings now player request (Storage.ofWorld metered.world) =
      ((Store.execute settings now player request metered).1,
        .ofWorld (Store.execute settings now player request metered).2.world) := by
  have tracks := @execute_tracks none metered nofun settings now player request
  exact tracks.within nofun

end Metered

namespace Storage

variable {ε α : Type} (action : Storage → Except ε α × Storage) (storage : Storage)

theorem transaction_answer : (transaction action storage).1 = (action storage).1 := by
  unfold transaction
  split <;> next ran => rw [ran]

/-- The world that a transaction leaves does not depend on the limit. -/
theorem transaction_world :
    (transaction action storage).2.world =
      match (action storage).1 with
      | .ok _ => (action storage).2.world
      | .error _ => storage.world := by
  unfold transaction
  split <;> next ran => simp only [ran, ofWorld]

theorem transaction_undone {failure : ε} (failed : (action storage).1 = .error failure) :
    transaction action storage = (.error failure, .ofWorld storage.world) := by
  unfold transaction
  split
  · next ran =>
    rw [ran] at failed
    cases failed
  · next ran =>
    rw [ran] at failed
    cases failed
    rfl

end Storage

/-- The writes that a request asks for are counted without a change to the
request. A limit that covers them all changes neither the answer nor the world
that is left. Any other limit makes the request fail, leaves the world as it was
and is lifted, so that the request can be repeated. -/
theorem faults_undo_requests (settings : Settings) (now : Int) (player : PlayerId)
    (request : Request) (world : World) (limit : Nat) :
    let counted := Store.execute settings now player request (⟨world, 0⟩ : Metered)
    let free := Storage.execute settings now player request (.ofWorld world)
    let limited := Storage.execute settings now player request
      ((Storage.ofWorld world).limited limit)
    Store.execute settings now player request (Storage.ofWorld world) =
      (counted.1, .ofWorld counted.2.world) ∧
    (counted.2.calls ≤ limit → limited.1 = free.1 ∧ limited.2.world = free.2.world) ∧
    (limit < counted.2.calls →
      limited = (.error .writesExhausted, .ofWorld world) ∧
        Storage.execute settings now player request limited.2 = free) := by
  intro counted free limited
  have uncounted : Store.execute settings now player request (Storage.ofWorld world) =
    (counted.1, .ofWorld counted.2.world) :=
    Metered.execute_uncounted settings now player request ⟨world, 0⟩
  have tracks := @Metered.execute_tracks (some limit) ⟨world, 0⟩
    (fun _ _ => Nat.zero_le _) settings now player request
  refine ⟨uncounted, fun covered => ?_, fun short => ?_⟩
  · have covers : Storage.Covers (some limit) counted.2.calls := by
      rintro _ ⟨rfl⟩
      exact covered
    have ran : Store.execute settings now player request ((Storage.ofWorld world).limited limit) =
      (counted.1, counted.2.behind (some limit)) := tracks.within covers
    constructor
    · calc
        limited.1 = counted.1 := (Storage.transaction_answer _ _).trans (congrArg Prod.fst ran)
        _ = free.1 := ((Storage.transaction_answer _ _).trans (congrArg Prod.fst uncounted)).symm
    · change (Storage.transaction _ _).2.world = (Storage.transaction _ _).2.world
      rw [Storage.transaction_world, Storage.transaction_world, ran, uncounted]
      rfl
  · have uncovered : ¬ Storage.Covers (some limit) counted.2.calls :=
      fun covers => absurd (covers limit rfl) (Nat.not_le_of_lt short)
    have undone : limited = (.error .writesExhausted, .ofWorld world) :=
      Storage.transaction_undone _ _ (tracks.beyond uncovered)
    rw [undone]
    exact ⟨rfl, rfl⟩

/-- A purchase saves the port and the player and logs a line: a limit of three
writes lets it through, and one of two undoes it. -/
theorem faults_undo_requests_purchase :
    (Storage.execute Settings.standard 1000130 7 (Drill.cargoRequest "TRADE" "BUY" "ORE" 5)
      ((Storage.ofWorld Drill.docked).limited 3)).1.toOption.map Response.ok = some true ∧
    Storage.execute Settings.standard 1000130 7 (Drill.cargoRequest "TRADE" "BUY" "ORE" 5)
      ((Storage.ofWorld Drill.docked).limited 2) =
        (.error .writesExhausted, .ofWorld Drill.docked) := by
  have calls : (Store.execute Settings.standard 1000130 7
      (Drill.cargoRequest "TRADE" "BUY" "ORE" 5) (⟨Drill.docked, 0⟩ : Metered)).2.calls = 3 := by
    decide +kernel
  have accepted : (Storage.execute Settings.standard 1000130 7
      (Drill.cargoRequest "TRADE" "BUY" "ORE" 5) (.ofWorld Drill.docked)).1.toOption.map
        Response.ok = some true := by decide +kernel
  obtain ⟨_, covered, _⟩ := faults_undo_requests Settings.standard 1000130 7
    (Drill.cargoRequest "TRADE" "BUY" "ORE" 5) Drill.docked 3
  obtain ⟨_, _, short⟩ := faults_undo_requests Settings.standard 1000130 7
    (Drill.cargoRequest "TRADE" "BUY" "ORE" 5) Drill.docked 2
  rw [calls] at covered short
  refine ⟨?_, (short (by decide)).1⟩
  rw [(covered (by decide)).1]
  exact accepted

end Starlane
