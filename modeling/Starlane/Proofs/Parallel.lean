import Starlane.Proofs.Retention
import Starlane.Proofs.Ruling

/-!
# Writes in place of others

A limit on writes counts them and does not look at what they save. Where a list of
writes gets through, every list that is alike gets through in its place, and leaves
as many writes. So a request is accepted wherever it has an outcome that is written
like that of an accepted one.
-/

namespace Starlane

/-- Whether two writes fail and spend alike: they save rows under one number or
add to or prune one log. -/
inductive Write.Parallel : Write → Write → Prop
  | savePort {port other : Port} (same : other.sector = port.sector) :
      Parallel (.savePort port) (.savePort other)
  | savePlayer {player other : Player} (same : other.id = player.id) :
      Parallel (.savePlayer player) (.savePlayer other)
  | insertLog (player : PlayerId) (entry other : LogEntry) :
      Parallel (.insertLog player entry) (.insertLog player other)
  | pruneLogs (player : PlayerId) (keep : Nat) :
      Parallel (.pruneLogs player keep) (.pruneLogs player keep)

namespace World

/-- Whether two worlds have ports and players under the same numbers, and as many
lines in every log. -/
structure Parallel (world other : World) : Prop where
  ports : ∀ sector, other.ports.contains sector = world.ports.contains sector
  players : ∀ player, other.players.contains player = world.players.contains player
  logs : ∀ player, (other.logOf player).length = (world.logOf player).length

variable {world other : World} {change change' : Write}

theorem Parallel.refl (world : World) : world.Parallel world :=
  ⟨fun _ => rfl, fun _ => rfl, fun _ => rfl⟩

theorem Parallel.idle (parallel : world.Parallel other) (alike : change.Parallel change') :
    Storage.isIdle other change' = Storage.isIdle world change := by
  cases alike with
  | pruneLogs player keep =>
    change (other.excessLogs player keep == 0) = (world.excessLogs player keep == 0)
    rw [excessLogs, excessLogs, parallel.logs]
  | _ => rfl

theorem Parallel.admits (parallel : world.Parallel other) (alike : change.Parallel change')
    (admits : world.Admits change) : other.Admits change' := by
  cases alike with
  | @savePort port row same =>
    change other.ports.contains row.sector = true
    rw [parallel.ports, same]
    exact admits
  | @savePlayer player row same =>
    change other.players.contains row.id = true
    rw [parallel.players, same]
    exact admits
  | _ => trivial

/-- Writing alike keeps worlds parallel. -/
theorem Parallel.written (parallel : world.Parallel other) (alike : change.Parallel change') :
    (world.written change).Parallel (other.written change') := by
  cases alike with
  | @savePort port row same =>
    refine ⟨fun sector => Bool.eq_iff_iff.mpr ?_, parallel.players, parallel.logs⟩
    refine Table.contains_insert.trans (Iff.trans ?_ Table.contains_insert.symm)
    rw [same, parallel.ports]
  | @savePlayer player row same =>
    refine ⟨parallel.ports, fun id => Bool.eq_iff_iff.mpr ?_, parallel.logs⟩
    refine Table.contains_insert.trans (Iff.trans ?_ Table.contains_insert.symm)
    rw [same, parallel.players]
  | insertLog player entry line =>
    refine ⟨parallel.ports, parallel.players, fun reader => ?_⟩
    by_cases own : player = reader
    · subst own
      rw [logOf_insertLog, logOf_insertLog, List.length_append, List.length_append,
        parallel.logs]
      rfl
    · have apart : ∀ entry, (Write.insertLog player entry).logged? ≠ some reader :=
        fun _ same => own (Option.some.inj same)
      rw [logOf_written_of_ne (apart _), logOf_written_of_ne (apart _), parallel.logs]
  | pruneLogs player keep =>
    refine ⟨parallel.ports, parallel.players, fun reader => ?_⟩
    by_cases own : player = reader
    · subst own
      rw [logOf_pruneLogs, logOf_pruneLogs, List.length_drop, List.length_drop, parallel.logs]
    · have apart : (Write.pruneLogs player keep).logged? ≠ some reader :=
        fun same => own (Option.some.inj same)
      rw [logOf_written_of_ne apart, logOf_written_of_ne apart, parallel.logs]

end World

namespace Storage

variable {storage after : Storage} {world : World} {change change' : Write}

theorem written_idle (idle : isIdle world change = true) : world.written change = world := by
  cases change with
  | pruneLogs player keep =>
    have none : world.excessLogs player keep = 0 := by simpa [isIdle] using idle
    rw [World.written, none, World.dropOldest]
  | _ => cases idle

/-- What a limit lets through it lets through in a parallel world as well. -/
theorem write_parallel (parallel : storage.world.Parallel world) (alike : change.Parallel change')
    (written : write change storage = (.ok (), after)) :
    write change' ⟨world, storage.budget⟩ = (.ok (), ⟨world.written change', after.budget⟩) ∧
      after.world.Parallel (world.written change') := by
  obtain ⟨admits, same⟩ := write_success (write_unlimited written)
  have same : after.world = storage.world.written change := congrArg Storage.world same
  refine ⟨?_, same ▸ parallel.written alike⟩
  have idle := parallel.idle alike
  unfold write at written ⊢
  rw [idle]
  split at written
  · next nothing =>
    cases written
    rw [if_pos nothing, written_idle (idle.trans nothing)]
  · next busy =>
    rw [if_neg busy]
    split at written
    · cases written
    · next budget spent =>
      rw [spent]
      split at written
      · cases written
      · cases written
        simp only [World.apply_admitted (parallel.admits alike admits)]

theorem writeAll_parallel {changes changes' : List Write}
    (alike : List.Forall₂ Write.Parallel changes changes')
    (parallel : storage.world.Parallel world)
    (written : Store.writeAll changes storage = (.ok (), after)) :
    Store.writeAll changes' (Storage.mk world storage.budget) =
      (.ok (), ⟨world.writtenAll changes', after.budget⟩) := by
  induction alike generalizing storage world with
  | nil =>
    cases written
    rfl
  | @cons change change' rest rest' first _ ih =>
    unfold Store.writeAll at written ⊢
    split at written
    · next next wrote =>
      have wrote : write change storage = (.ok (), next) := wrote
      obtain ⟨wrote', beside⟩ := write_parallel parallel first wrote
      have wrote' : Store.write change' (Storage.mk world storage.budget) =
        (.ok (), ⟨world.written change', next.budget⟩) := wrote'
      rw [wrote']
      exact ih beside written
    · cases written

variable {settings : Settings} {now : Int} {player : PlayerId} {request : Request}

/-- A request that is settled has made all of its writes, and leaves the player in a
sector that exists. -/
theorem settle_written {commander : Commander} {message : String} {refusal : Option Refusal}
    {changes : List Write} {response : Response}
    (settled : Store.settle settings now commander message refusal changes storage =
      (.ok response, after)) :
    Store.writeAll changes storage = (.ok (), after) ∧ response.refusal = refusal ∧
      after.world.sectors.contains commander.sector = true := by
  unfold Store.settle at settled
  split at settled
  · cases settled
  · next written =>
    obtain ⟨responded, rfl⟩ := Prod.ext_iff.mp settled
    refine ⟨written, (Lookup.respond_success responded).2.1, ?_⟩
    by_contra absent
    cases (World.respond_missing absent _ _ _ _).symm.trans responded

/-- An accepted request has an outcome, and all of its writes are carried out. -/
theorem accepted_outcome {response : Response}
    (executed : execute settings now player request storage = (.ok response, after))
    (accepted : response.ok = true) :
    ∃ row effects, storage.world.players.get? player = some row ∧
      (Command.ofRequest request).outcome storage.world.lookup now
        (storage.world.present settings now player row) = .ok effects ∧
      Store.writeAll (effects.allWrites now) storage = (.ok (), after) ∧
      after.world.sectors.contains effects.commander.sector = true := by
  unfold execute transaction at executed
  split at executed
  case h_2 => cases executed
  next ran =>
  cases executed
  cases loads : (Store.lookup storage).commander player with
  | error failure =>
    rw [Store.execute_unloaded loads] at ran
    cases ran
  | ok loaded =>
    obtain ⟨row, found, rfl⟩ := World.commander_success loads
    cases planned : (Command.ofRequest request).outcome storage.world.lookup now
        (storage.world.present settings now player row) with
    | ok effects =>
      rw [Store.execute_planned loads rfl planned] at ran
      obtain ⟨written, _, here⟩ := settle_written ran
      exact ⟨row, effects, found, planned, written, here⟩
    | error halt =>
      cases halt with
      | refused written reason =>
        rw [Store.execute_refused loads rfl planned] at ran
        rw [Response.ok, (settle_written ran).2.1] at accepted
        cases accepted
      | failed written failure =>
        obtain ⟨cause, failed⟩ := Store.execute_failed loads rfl planned
        rw [failed] at ran
        cases ran

/-- A request with an outcome whose writes are all carried out is accepted, if it
leaves the player in a sector that exists. -/
theorem outcome_accepted {row : Player} {effects : Effects}
    (found : storage.world.players.get? player = some row)
    (planned : (Command.ofRequest request).outcome storage.world.lookup now
      (storage.world.present settings now player row) = .ok effects)
    (written : Store.writeAll (effects.allWrites now) storage = (.ok (), after))
    (here : after.world.sectors.contains effects.commander.sector = true) :
    ∃ response, execute settings now player request storage = (.ok response, after) ∧
      response.ok = true := by
  have loads : (Store.lookup storage).commander player =
      .ok { toPlayer := row, membership := storage.world.membershipOf player } := by
    change storage.world.commander player = _
    rw [World.commander, found]
  obtain ⟨response, responded⟩ := World.respond_located here
    (Settings.shownLogs settings.recentLogLimit) now effects.message none
  have ran : Store.execute settings now player request storage = (.ok response, after) := by
    rw [Store.execute_planned loads rfl planned, Store.settle, written]
    exact congrArg (·, after) responded
  refine ⟨response, ?_, ?_⟩
  · unfold execute transaction
    rw [ran]
  · rw [Response.ok, (Lookup.respond_success responded).2.1]
    rfl

/-- A request with an outcome that leaves the player in one place with another one
and is written alike is accepted where that one was. -/
theorem accepted_instead {row : Player} {effects effects' : Effects}
    (found : storage.world.players.get? player = some row)
    (planned : (Command.ofRequest request).outcome storage.world.lookup now
      (storage.world.present settings now player row) = .ok effects')
    (written : Store.writeAll (effects.allWrites now) storage = (.ok (), after))
    (here : after.world.sectors.contains effects.commander.sector = true)
    (alike : List.Forall₂ Write.Parallel (effects.allWrites now) (effects'.allWrites now))
    (stays : effects'.commander.sector = effects.commander.sector) :
    ∃ response after', execute settings now player request storage = (.ok response, after') ∧
      response.ok = true := by
  have instead := writeAll_parallel alike (.refl _) written
  have same := congrArg Storage.world (writeAll_success (writeAll_unlimited written)).2
  have sectors : after.world.sectors = storage.world.sectors :=
    same ▸ (storage.world.writtenAll_map _).1
  have there : (storage.world.writtenAll (effects'.allWrites now)).sectors.contains
      effects'.commander.sector = true := by
    rw [(storage.world.writtenAll_map _).1, stays, ← sectors]
    exact here
  obtain ⟨response, executed, accepted⟩ := outcome_accepted found planned instead there
  exact ⟨response, _, executed, accepted⟩

end Storage

end Starlane
