import Starlane.Proofs.Ruling

/-!
# What an outcome comes to

A player whose sector exists is answered once the outcome of the command is known, and is
told what the outcome says: the message of its effects, or that of the refusal. What the
outcome is depends on what is planned for the player after the command has been paid.
-/

namespace Starlane

/-- What a player is told on a plan that is carried out or refused. -/
def Plan.told? : Plan Effects → Option String
  | .ok effects => some effects.message
  | .error (.refused _ reason) => some reason.message
  | .error (.failed _ _) => none

namespace Command

variable {look other : Lookup} {now : Int} {command : Command} {commander : Commander}

/-- An outcome depends on what is planned for the commander who has paid. -/
theorem outcome_congr (same : command.plan other now (command.paidBy commander) =
      command.plan look now (command.paidBy commander)) :
    command.outcome other now commander = command.outcome look now commander := by
  unfold outcome
  cases charged : command.charge commander with
  | error => rfl
  | ok paid =>
    cases charge_success charged
    simp only [bind, Except.bind, same]

/-- The outcome of a command that can be paid. -/
theorem outcome_paid (free : commander.mustChangePassword = false)
    (affordable : command.costFor commander ≤ commander.turns) :
    command.outcome look now commander =
      (command.plan look now (command.paidBy commander)).map fun effects =>
        effects.rewarded (command.rewardFor commander) := by
  have gate : Plan.require (!commander.mustChangePassword) .passwordChange = .ok () := by
    rw [free]
    rfl
  have payment : Plan.require (decide (command.costFor commander ≤ commander.turns)) .turnsShort =
      .ok () := by
    rw [decide_eq_true affordable]
    rfl
  have charged : command.charge commander = .ok (command.paidBy commander) := by
    unfold charge
    rw [gate]
    dsimp only [bind, Except.bind]
    rw [payment]
    rfl
  unfold outcome
  rw [charged]
  dsimp only [bind, Except.bind]
  cases command.plan look now (command.paidBy commander) <;> rfl

end Command

namespace Storage

variable {settings : Settings} {now : Int} {player : PlayerId} {request : Request}
  {response : Response} {world : World} {row : Player}

/-- The message of an answer is what the outcome tells the player. -/
theorem execute_told {after : Storage}
    (executed : execute settings now player request (ofWorld world) = (.ok response, after)) :
    ∃ row, world.players.get? player = some row ∧
      Plan.told? ((Command.ofRequest request).outcome world.lookup now
        (world.present settings now player row)) = some response.message := by
  unfold execute transaction at executed
  split at executed
  case h_2 => cases executed
  next ran =>
  cases executed
  cases loads : (Store.lookup (ofWorld world)).commander player with
  | error failure =>
    rw [Store.execute_unloaded loads] at ran
    cases ran
  | ok loaded =>
    obtain ⟨row, found, same⟩ := World.commander_success loads
    have granted : loaded.regenerate settings.turnRegenSeconds now =
        world.present settings now player row := by
      rw [same]
      rfl
    refine ⟨row, found, ?_⟩
    change Plan.told? ((Command.ofRequest request).outcome (Store.lookup (ofWorld world)) now
      (world.present settings now player row)) = some response.message
    generalize planned : (Command.ofRequest request).outcome _ now _ = outcome
    cases outcome with
    | ok effects =>
      rw [Store.execute_planned loads granted planned] at ran
      obtain ⟨_, _, message, _⟩ := settle_success ran
      exact congrArg some message.symm
    | error halt =>
      cases halt with
      | refused written reason =>
        rw [Store.execute_refused loads granted planned] at ran
        obtain ⟨_, _, message, _⟩ := settle_success ran
        exact congrArg some message.symm
      | failed written failure =>
        obtain ⟨cause, failed⟩ := Store.execute_failed loads granted planned
        rw [failed] at ran
        cases ran

theorem loads_of_found (found : world.players.get? player = some row) :
    (Store.lookup (ofWorld world)).commander player =
      .ok { toPlayer := row, membership := world.membershipOf player } := by
  change world.commander player = _
  rw [World.commander, found]

/-- Settling admitted writes for a commander in a sector that exists answers with the
message. -/
theorem settle_answers {commander : Commander} {message : String} {refusal : Option Refusal}
    {writes : List Write} (admitted : world.AdmitsAll writes)
    (here : world.sectors.contains commander.sector = true) :
    ∃ response, transaction (Store.settle settings now commander message refusal writes)
        (ofWorld world) = (.ok response, ofWorld (world.writtenAll writes)) ∧
      response.message = message ∧ response.refusal = refusal := by
  have there : (world.writtenAll writes).sectors.contains commander.sector = true := by
    rw [(world.writtenAll_map writes).1]
    exact here
  obtain ⟨response, answered⟩ := World.respond_located there
    (Settings.shownLogs settings.recentLogLimit) now message refusal
  obtain ⟨told, refused, _⟩ := Lookup.respond_success answered
  refine ⟨response, ?_, told, refused⟩
  rw [transaction_settle admitted, World.verdict, if_pos here]
  simp only [Ruling.answer, Ruling.writes, answered]

/-- A request with an outcome that keeps the player in sectors that exist is accepted, and
everything is written. -/
theorem execute_performs (filed : world.Filed) (rostered : world.Rostered)
    (found : world.players.get? player = some row) {effects : Effects}
    (planned : (Command.ofRequest request).outcome world.lookup now
      (world.present settings now player row) = .ok effects)
    (here : world.sectors.contains effects.commander.sector = true) :
    ∃ response, execute settings now player request (ofWorld world) =
        (.ok response, ofWorld (world.writtenAll (effects.allWrites now))) ∧
      response.message = effects.message ∧ response.refusal = none := by
  have own : row.id = player := filed.players player row found
  obtain ⟨_, _, made, deed, same⟩ := Command.outcome_success planned
  obtain ⟨turns, stamp, paid⟩ :=
    (Command.ofRequest request).paidBy_frame world settings now player row
  rw [paid] at deed
  have admitted : world.AdmitsAll (effects.allWrites now) := by
    rw [same]
    refine deed.admitted_all rostered filed (congrArg world.membershipOf own.symm) ?_ _
    change world.players.contains row.id = true
    rw [own, Table.contains, found]
    rfl
  unfold execute
  rw [transaction_congr (Store.execute_planned (loads_of_found found) rfl planned)]
  exact settle_answers admitted here

/-- A request that is refused to a player in a sector that exists is answered with the
reason, and only the grant of turns is written. -/
theorem execute_refuses (filed : world.Filed)
    (found : world.players.get? player = some row) {written : List Write} {reason : Refusal}
    (planned : (Command.ofRequest request).outcome world.lookup now
      (world.present settings now player row) = .error (.refused written reason))
    (here : world.sectors.contains row.sector = true) :
    ∃ response, execute settings now player request (ofWorld world) =
        (.ok response, ofWorld (world.written
          (.savePlayer (row.regenerate settings.turnRegenSeconds now).1))) ∧
      response.message = reason.message ∧ response.refusal = some reason := by
  have own : row.id = player := filed.players player row found
  obtain ⟨turns, stamp, granted⟩ := row.regenerate_frame settings.turnRegenSeconds now
  unfold execute
  rw [transaction_congr (Store.execute_refused (loads_of_found found) rfl planned)]
  have saved : world.Admits (.savePlayer (row.regenerate settings.turnRegenSeconds now).1) := by
    change world.players.contains (row.regenerate settings.turnRegenSeconds now).1.id = true
    rw [granted]
    change world.players.contains row.id = true
    rw [own, Table.contains, found]
    rfl
  refine settle_answers (.single saved) ?_
  change world.sectors.contains (row.regenerate settings.turnRegenSeconds now).1.sector = true
  rw [granted]
  exact here

end Storage

end Starlane
