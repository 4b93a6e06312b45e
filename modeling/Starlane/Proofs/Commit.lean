import Starlane.Proofs.Level
import Starlane.Proofs.Planning
import Starlane.Proofs.Writing
import Starlane.Storage

/-!
# What a request commits

On storage without a limit a request fails and restores the world, is refused
and saves the grant of turns, or is accepted and commits the writes of its
deed, the player and the log. `Storage.execute_cases` reads all three off the
transaction, so later proofs never open it.
-/

namespace Starlane

namespace World

/-- When none of some writes in order fails. -/
inductive AdmitsAll : World → List Write → Prop
  | nil {world : World} : AdmitsAll world []
  | cons {world : World} {change : Write} {rest : List Write} (first : world.Admits change)
      (others : (world.written change).AdmitsAll rest) : AdmitsAll world (change :: rest)

/-- What every admitted write keeps, admitted writes in order keep. -/
theorem Kept.all {holds : World → Prop} (kept : Kept holds) {world : World}
    {changes : List Write} (before : holds world) (admitted : world.AdmitsAll changes) :
    holds (world.writtenAll changes) := by
  induction admitted with
  | nil => exact before
  | cons first _ ih => exact ih (kept _ _ before first)

/-- The commander that a command finds: the row with the grant of turns, and
the snapshot of the corporation. -/
def present (world : World) (settings : Settings) (now : Int) (player : PlayerId) (row : Player) :
    Commander :=
  { toPlayer := (row.regenerate settings.turnRegenSeconds now).1
    membership := world.membershipOf player }

end World

/-- A grant of turns touches nothing but turns and their stamp. -/
theorem Player.regenerate_frame (interval now : Int) (player : Player) :
    ∃ turns stamp, (player.regenerate interval now).1 =
      { player with turns, regenStamp := stamp } := by
  unfold regenerate
  dsimp only
  split
  · exact ⟨_, _, rfl⟩
  · split <;> exact ⟨_, _, rfl⟩

theorem Player.regenerate_id (interval now : Int) (player : Player) :
    (player.regenerate interval now).1.id = player.id := by
  obtain ⟨turns, stamp, same⟩ := player.regenerate_frame interval now
  rw [same]

/-- A grant of turns is no reward. -/
theorem Player.regenerate_rank (interval now : Int) (player : Player) :
    (player.regenerate interval now).1.xp = player.xp ∧
      (player.regenerate interval now).1.level = player.level := by
  obtain ⟨turns, stamp, same⟩ := player.regenerate_frame interval now
  rw [same]
  exact ⟨rfl, rfl⟩

namespace World

theorem commander_success {world : World} {player : PlayerId} {loaded : Commander}
    (success : world.commander player = .ok loaded) :
    ∃ row, world.players.get? player = some row ∧
      loaded = { toPlayer := row, membership := world.membershipOf player } := by
  unfold commander at success
  split at success
  · cases success
  · next row found => cases success; exact ⟨row, found, rfl⟩

end World

namespace Command

/-- The commander after paying the turns of a command. -/
def paidBy (command : Command) (commander : Commander) : Commander :=
  { commander with turns := commander.turns - command.costFor commander }

/-- The experience for a command. -/
def rewardFor (command : Command) (commander : Commander) : Int :=
  Rank.reward command.kindCode command.actionCode (command.costFor commander)

/-- A payment of turns touches nothing but turns and their stamp. -/
theorem paidBy_frame (command : Command) (world : World) (settings : Settings) (now : Int)
    (player : PlayerId) (row : Player) :
    ∃ turns stamp, command.paidBy (world.present settings now player row) =
      { toPlayer := { row with turns, regenStamp := stamp },
        membership := world.membershipOf player } := by
  obtain ⟨turns, stamp, same⟩ := row.regenerate_frame settings.turnRegenSeconds now
  refine ⟨turns - command.costFor (world.present settings now player row), stamp, ?_⟩
  simp only [paidBy, World.present, same]

/-- Whoever can pay has paid then. -/
theorem charge_success {command : Command} {commander paid : Commander}
    (charged : command.charge commander = .ok paid) : paid = command.paidBy commander := by
  unfold charge at charged
  obtain ⟨_, _, charged⟩ := Plan.bind_success charged
  obtain ⟨_, _, charged⟩ := Plan.bind_success charged
  cases charged
  rfl

/-- An outcome stops at one of the gates, which refuse, or where the plan for the
commander who has paid stops. -/
theorem outcome_stops {ways : Halt → Prop} {look : Lookup} {now : Int} {command : Command}
    {commander : Commander} (gates : ∀ reason, ways (.refused [] reason))
    (plans : (command.plan look now (command.paidBy commander)).Stops ways) :
    (command.outcome look now commander).Stops ways := by
  have charged : (command.charge commander).Stops ways :=
    Plan.stops_then (Plan.stops_require (gates _)) fun _ =>
      Plan.stops_then (Plan.stops_require (gates _)) fun _ => Plan.stops_pure _
  refine Plan.stops_bind charged fun paid payment => ?_
  cases charge_success payment
  exact Plan.stops_then plans fun _ => Plan.stops_pure _

/-- How a command stops for a commander: refused before anything is written, or failed
after its opening. -/
theorem outcome_stop {look : Lookup} {now : Int} {command : Command} {commander : Commander}
    {halt : Halt} (stopped : command.outcome look now commander = .error halt) :
    Plan.Stop look now (command.paidBy commander)
      (command.opening now (command.paidBy commander)) halt :=
  outcome_stops .refused (command.plan_stops look now (command.paidBy commander)) halt stopped

/-- A command that is refused has written nothing. -/
theorem outcome_refused {look : Lookup} {now : Int} {command : Command} {commander : Commander}
    {written : List Write} {reason : Refusal}
    (refused : command.outcome look now commander = .error (.refused written reason)) :
    written = [] := by
  cases outcome_stop refused
  rfl

/-- A command that fails has written its opening. -/
theorem outcome_failed {look : Lookup} {now : Int} {command : Command} {commander : Commander}
    {written : List Write} {failure : StoreFailure}
    (failed : command.outcome look now commander = .error (.failed written failure)) :
    written = command.opening now (command.paidBy commander) := by
  cases outcome_stop failed
  rfl

/-- An outcome with effects: the gates are passed, and it is what the command is
planned to do for the commander who has paid, with the reward. -/
theorem outcome_planned {look : Lookup} {now : Int} {command : Command} {commander : Commander}
    {result : Effects} (success : command.outcome look now commander = .ok result) :
    commander.mustChangePassword = false ∧ command.costFor commander ≤ commander.turns ∧
      ∃ effects, command.plan look now (command.paidBy commander) = .ok effects ∧
        result = effects.rewarded (command.rewardFor commander) := by
  unfold outcome at success
  obtain ⟨paid, charged, rest⟩ := Plan.bind_success success
  unfold charge at charged
  obtain ⟨_, allowed, charged⟩ := Plan.bind_success charged
  obtain ⟨_, affordable, charged⟩ := Plan.bind_success charged
  cases charged
  obtain ⟨effects, planned, rewarded⟩ := Plan.bind_success rest
  cases rewarded
  exact ⟨by simpa using Plan.require_success allowed,
    of_decide_eq_true (Plan.require_success affordable), effects, planned, rfl⟩

/-- An outcome with effects is a deed with the reward. -/
theorem outcome_success {look : Lookup} {now : Int} {command : Command} {commander : Commander}
    {result : Effects} (success : command.outcome look now commander = .ok result) :
    commander.mustChangePassword = false ∧ command.costFor commander ≤ commander.turns ∧
      ∃ effects, Deed look now (command.paidBy commander) command effects ∧
        result = effects.rewarded (command.rewardFor commander) := by
  obtain ⟨free, affordable, effects, planned, same⟩ := outcome_planned success
  exact ⟨free, affordable, effects, plan_deed command planned, same⟩

end Command

/-- Whether a response gives a text, perhaps with the announcement of a rise
behind it. -/
def Response.Tells (response : Response) (text : String) : Prop :=
  response.message = text ∨ ∃ promotion : Rank.Promotion,
    response.message = s!"{text}\n{promotion.announcement}"

/-- A refused request: the row with the grant of turns is all that is saved. -/
structure Refused (settings : Settings) (now : Int) (player : PlayerId) (world : World)
    (row : Player) (response : Response) (after : World) : Prop where
  found : world.players.get? player = some row
  refusal : response.ok = false
  status : response.status = .ofCommander (world.present settings now player row)
  admitted : world.Admits (.savePlayer (row.regenerate settings.turnRegenSeconds now).1)
  committed : after =
    world.written (.savePlayer (row.regenerate settings.turnRegenSeconds now).1)
  responded : after.lookup.respond (Settings.shownLogs settings.recentLogLimit) now
    (world.present settings now player row) response.message response.refusal = .ok response

/-- An accepted request: its deed, with the reward, is written as a whole. -/
structure Accepted (settings : Settings) (now : Int) (player : PlayerId) (command : Command)
    (world : World) (row : Player) (effects : Effects) (response : Response) (after : World) :
    Prop where
  found : world.players.get? player = some row
  accepted : response.ok = true
  affordable : command.costFor (world.present settings now player row) ≤
    (world.present settings now player row).turns
  deed : Deed world.lookup now (command.paidBy (world.present settings now player row)) command
    effects
  told : response.Tells effects.message
  admitted : world.AdmitsAll
    ((effects.rewarded (command.rewardFor (world.present settings now player row))).allWrites now)
  committed : after = world.writtenAll
    ((effects.rewarded (command.rewardFor (world.present settings now player row))).allWrites now)
  responded : after.lookup.respond (Settings.shownLogs settings.recentLogLimit) now
    (effects.rewarded (command.rewardFor (world.present settings now player row))).commander
    response.message response.refusal = .ok response

namespace Effects

variable (effects : Effects) (experience : Int) (now : Int)

theorem rewarded_player :
    (effects.rewarded experience).commander.toPlayer =
      (Rank.award experience effects.commander.toPlayer).1 := by
  unfold rewarded
  dsimp only
  split <;> rfl

theorem rewarded_writes : (effects.rewarded experience).writes = effects.writes := by
  unfold rewarded
  dsimp only
  split <;> rfl

/-- A reward adds nothing to the message but the announcement of a rise. -/
theorem rewarded_tells {response : Response}
    (message : response.message = (effects.rewarded experience).message) :
    response.Tells effects.message := by
  unfold rewarded at message
  dsimp only at message
  split at message
  · exact .inl message
  · next promotion _ => exact .inr ⟨promotion, message⟩

theorem logWrites_onlyLogs : ∀ change ∈ effects.logWrites now, World.onlyLogs change = true := by
  intro change member
  unfold logWrites at member
  rcases List.mem_append.mp member with line | pruning
  · obtain ⟨entry, _, rfl⟩ := List.mem_map.mp line
    rfl
  · split at pruning
    · cases pruning
    · cases List.mem_singleton.mp pruning
      rfl

end Effects

/-- After rewarded effects the tables are those after their writes, but for the
player's row and the logs. -/
theorem World.writtenAll_rewarded (world : World) (effects : Effects) (experience now : Int) :
    ∃ logs, world.writtenAll ((effects.rewarded experience).allWrites now) =
      { world.writtenAll effects.writes with
        players := (world.writtenAll effects.writes).players.insert effects.commander.id
          (Rank.award experience effects.commander.toPlayer).1
        logs } := by
  rw [Effects.allWrites, Effects.rewarded_player, Effects.rewarded_writes, writtenAll_append]
  change ∃ logs, World.writtenAll (World.written _ _) _ = _
  rw [writtenAll_onlyLogs _ (Effects.logWrites_onlyLogs _ now)]
  simp only [written, Rank.award_id]
  exact ⟨_, rfl⟩

/-- After an accepted request the tables are those after the writes of the
deed, but for the player's row and the logs. -/
theorem Accepted.tables {settings : Settings} {now : Int} {player : PlayerId} {command : Command}
    {world after : World} {row : Player} {effects : Effects} {response : Response}
    (accepted : Accepted settings now player command world row effects response after) :
    ∃ logs, after =
      { world.writtenAll effects.writes with
        players := (world.writtenAll effects.writes).players.insert effects.commander.id
          (Rank.award (command.rewardFor (world.present settings now player row))
            effects.commander.toPlayer).1
        logs } := by
  obtain ⟨logs, same⟩ := world.writtenAll_rewarded effects
    (command.rewardFor (world.present settings now player row)) now
  exact ⟨logs, accepted.committed.trans same⟩

namespace Store

variable {σ : Type} [Store σ] {store : σ} {settings : Settings} {now : Int} {player : PlayerId}
  {request : Request} {loaded commander : Commander}

/-- Without the player a request fails at once. -/
theorem execute_unloaded {failure : StoreFailure}
    (loads : (lookup store).commander player = .error failure) :
    execute settings now player request store = (.error failure, store) := by
  unfold execute
  dsimp only
  rw [loads]

/-- A request that is planned is settled with all its effects. -/
theorem execute_planned {effects : Effects} (loads : (lookup store).commander player = .ok loaded)
    (granted : loaded.regenerate settings.turnRegenSeconds now = commander)
    (planned : (Command.ofRequest request).outcome (lookup store) now commander = .ok effects) :
    execute settings now player request store =
      settle settings now effects.commander effects.message none (effects.allWrites now) store := by
  subst granted
  unfold execute
  dsimp only
  rw [loads]
  dsimp only
  rw [planned]

/-- A request that is refused is settled with the grant of turns alone. -/
theorem execute_refused {written : List Write} {reason : Refusal}
    (loads : (lookup store).commander player = .ok loaded)
    (granted : loaded.regenerate settings.turnRegenSeconds now = commander)
    (planned : (Command.ofRequest request).outcome (lookup store) now commander =
      .error (.refused written reason)) :
    execute settings now player request store =
      settle settings now commander reason.message (some reason)
        [.savePlayer commander.toPlayer] store := by
  subst granted
  cases Command.outcome_refused planned
  unfold execute
  dsimp only
  rw [loads]
  dsimp only
  rw [planned]
  rfl

/-- A request whose plan fails makes the writes that come before, and fails. -/
theorem execute_halted {written : List Write} {failure : StoreFailure}
    (loads : (lookup store).commander player = .ok loaded)
    (granted : loaded.regenerate settings.turnRegenSeconds now = commander)
    (planned : (Command.ofRequest request).outcome (lookup store) now commander =
      .error (.failed written failure)) :
    execute settings now player request store =
      ((writeAll written store).1.bind fun _ => .error failure, (writeAll written store).2) := by
  subst granted
  unfold execute
  dsimp only
  rw [loads]
  dsimp only
  rw [planned]
  dsimp only
  split <;> next wrote => rw [wrote]; rfl

/-- A request whose plan fails, fails after the writes that come before. -/
theorem execute_failed {written : List Write} {failure : StoreFailure}
    (loads : (lookup store).commander player = .ok loaded)
    (granted : loaded.regenerate settings.turnRegenSeconds now = commander)
    (planned : (Command.ofRequest request).outcome (lookup store) now commander =
      .error (.failed written failure)) :
    ∃ cause, execute settings now player request store =
      (.error cause, (writeAll written store).2) := by
  rw [execute_halted loads granted planned]
  cases (writeAll written store).1 with
  | error earlier => exact ⟨earlier, rfl⟩
  | ok => exact ⟨failure, rfl⟩

/-- A request whose plan fails, fails with that once what comes before is
written. -/
theorem execute_failed_after {written : List Write} {failure : StoreFailure} {done : Unit}
    {after : σ} (loads : (lookup store).commander player = .ok loaded)
    (granted : loaded.regenerate settings.turnRegenSeconds now = commander)
    (planned : (Command.ofRequest request).outcome (lookup store) now commander =
      .error (.failed written failure)) (wrote : writeAll written store = (.ok done, after)) :
    execute settings now player request store = (.error failure, after) := by
  rw [execute_halted loads granted planned, wrote]
  rfl

end Store

/-- The parts of a response, read from one state. -/
theorem Lookup.respond_success {look : Lookup} {shown : Nat} {now : Int} {commander : Commander}
    {message : String} {refusal : Option Refusal} {response : Response}
    (success : look.respond shown now commander message refusal = .ok response) :
    response.message = message ∧ response.refusal = refusal ∧
      response.status = .ofCommander commander ∧
      look.view commander.sector now = .ok response.sector ∧
      look.recentLogs commander.id shown = .ok response.logs := by
  unfold respond at success
  simp only [bind, Except.bind] at success
  split at success
  · cases success
  · next viewed =>
    split at success
    · cases success
    · next logged =>
      cases success
      exact ⟨rfl, rfl, rfl, viewed, logged⟩

namespace Storage

/-- A write to storage without a limit; an idle one is skipped, which is the
same. -/
theorem write_success {world : World} {change : Write} {after : Storage}
    (success : write change (ofWorld world) = (.ok (), after)) :
    world.Admits change ∧ after = ofWorld (world.written change) := by
  unfold write at success
  split at success
  · next idle =>
    cases success
    cases change with
    | pruneLogs player keep =>
      have none : world.excessLogs player keep = 0 := by simpa [isIdle, ofWorld] using idle
      refine ⟨trivial, ?_⟩
      rw [World.written, none, World.dropOldest]
    | _ => cases idle
  · simp only [ofWorld, spend] at success
    split at success
    · cases success
    · next applied =>
      cases success
      obtain ⟨admits, rfl⟩ := World.apply_success applied
      exact ⟨admits, rfl⟩

/-- Writes to storage without a limit, none of which fails. -/
theorem writeAll_success {world : World} {changes : List Write} {done : Unit} {after : Storage}
    (success : Store.writeAll changes (ofWorld world) = (.ok done, after)) :
    world.AdmitsAll changes ∧ after = ofWorld (world.writtenAll changes) := by
  induction changes generalizing world with
  | nil => cases success; exact ⟨.nil, rfl⟩
  | cons change rest ih =>
    unfold Store.writeAll at success
    split at success
    · next next written =>
      obtain ⟨admits, rfl⟩ := write_success written
      obtain ⟨admitted, same⟩ := ih success
      exact ⟨.cons admits admitted, same⟩
    · cases success

/-- A settled request has written everything, and the response is read from the
world after it. -/
theorem settle_success {settings : Settings} {now : Int} {commander : Commander}
    {message : String} {refusal : Option Refusal} {changes : List Write} {world : World}
    {response : Response} {after : Storage}
    (success : Store.settle settings now commander message refusal changes (ofWorld world) =
      (.ok response, after)) :
    world.AdmitsAll changes ∧ after = ofWorld (world.writtenAll changes) ∧
      response.message = message ∧ response.refusal = refusal ∧
      response.status = .ofCommander commander ∧
      (world.writtenAll changes).lookup.respond (Settings.shownLogs settings.recentLogLimit) now
        commander response.message response.refusal = .ok response := by
  unfold Store.settle at success
  split at success
  · cases success
  · next written =>
    obtain ⟨admitted, rfl⟩ := writeAll_success written
    obtain ⟨responded, rfl⟩ := Prod.ext_iff.mp success
    obtain ⟨rfl, rfl, status, _⟩ := Lookup.respond_success responded
    exact ⟨admitted, rfl, rfl, rfl, status, responded⟩

/-- An answered request was refused or accepted. -/
theorem answer_cases {settings : Settings} {now : Int} {player : PlayerId} {request : Request}
    {world : World} {response : Response} {after : Storage}
    (success : Store.execute settings now player request (ofWorld world) = (.ok response, after)) :
    (∃ row later, after = ofWorld later ∧
      Refused settings now player world row response later) ∨
    (∃ row effects later, after = ofWorld later ∧
      Accepted settings now player (.ofRequest request) world row effects response later) := by
  unfold Store.execute at success
  dsimp only at success
  split at success
  · cases success
  · next loaded found =>
    obtain ⟨row, present, rfl⟩ := World.commander_success found
    generalize planned : (Command.ofRequest request).outcome _ now _ = outcome at success
    cases outcome with
    | ok result =>
      have planned : (Command.ofRequest request).outcome world.lookup now
          (world.present settings now player row) = .ok result := planned
      obtain ⟨_, affordable, effects, deed, same⟩ := Command.outcome_success planned
      obtain ⟨admitted, written, message, refusal, _, responded⟩ := settle_success success
      rw [same] at admitted written message responded
      have ok : response.ok = true := by rw [Response.ok, refusal]; rfl
      exact .inr ⟨row, effects, _, written,
        { found := present, accepted := ok, affordable, deed,
          told := Effects.rewarded_tells effects _ message, admitted, committed := rfl,
          responded }⟩
    | error halt =>
      cases halt with
      | refused changes reason =>
        cases Command.outcome_refused planned
        obtain ⟨admitted, written, _, refusal, status, responded⟩ := settle_success success
        have rejected : response.ok = false := by rw [Response.ok, refusal]; rfl
        cases admitted with
        | cons admits _ =>
          exact .inl ⟨row, _, written,
            { found := present, refusal := rejected, status, admitted := admits,
              committed := rfl, responded }⟩
      | failed changes failure =>
        dsimp only at success
        split at success <;> cases success

/-- A request on storage without a limit fails and leaves the world as it was,
is refused, or is accepted. -/
theorem execute_cases {settings : Settings} {now : Int} {player : PlayerId} {request : Request}
    {world : World} {answer : Except StoreFailure Response} {after : Storage}
    (executed : execute settings now player request (ofWorld world) = (answer, after)) :
    (∃ failure, answer = .error failure ∧ after = ofWorld world) ∨
    (∃ response row later, answer = .ok response ∧ after = ofWorld later ∧
      Refused settings now player world row response later) ∨
    (∃ response row effects later, answer = .ok response ∧ after = ofWorld later ∧
      Accepted settings now player (.ofRequest request) world row effects response later) := by
  unfold execute transaction at executed
  cases ran : Store.execute settings now player request (ofWorld world) with
  | mk result final =>
    rw [ran] at executed
    cases result with
    | error failure =>
      cases executed
      exact .inl ⟨failure, rfl, rfl⟩
    | ok response =>
      cases executed
      rcases answer_cases ran with
        ⟨row, later, same, refused⟩ | ⟨row, effects, later, same, accepted⟩
      · exact .inr (.inl ⟨response, row, later, rfl, same, refused⟩)
      · exact .inr (.inr ⟨response, row, effects, later, rfl, same, accepted⟩)

/-- A response that refuses comes from a refused request. -/
theorem execute_refused {settings : Settings} {now : Int} {player : PlayerId} {request : Request}
    {world : World} {response : Response} {after : Storage}
    (executed : execute settings now player request (ofWorld world) = (.ok response, after))
    (refused : response.ok = false) :
    ∃ row later, after = ofWorld later ∧
      Refused settings now player world row response later := by
  rcases execute_cases executed with ⟨_, failed, _⟩ | ⟨_, row, later, same, stored, rejection⟩ |
    ⟨_, _, _, _, same, _, acceptance⟩
  · cases failed
  · cases same
    exact ⟨row, later, stored, rejection⟩
  · cases same
    rw [acceptance.accepted] at refused
    cases refused

/-- A response that accepts comes from an accepted request. -/
theorem execute_accepted {settings : Settings} {now : Int} {player : PlayerId} {request : Request}
    {world : World} {response : Response} {after : Storage}
    (executed : execute settings now player request (ofWorld world) = (.ok response, after))
    (accepted : response.ok = true) :
    ∃ row effects later, after = ofWorld later ∧
      Accepted settings now player (.ofRequest request) world row effects response later := by
  rcases execute_cases executed with ⟨_, failed, _⟩ | ⟨_, _, _, same, _, rejection⟩ |
    ⟨_, row, effects, later, same, stored, acceptance⟩
  · cases failed
  · cases same
    rw [rejection.refusal] at accepted
    cases accepted
  · cases same
    exact ⟨row, effects, later, stored, acceptance⟩

/-- A request that is answered has a response. -/
theorem execute_answered {settings : Settings} {now : Int} {player : PlayerId} {request : Request}
    {storage : Storage} {verdict : Bool}
    (answered : (execute settings now player request storage).1.toOption.map Response.ok =
      some verdict) :
    ∃ response after, execute settings now player request storage = (.ok response, after) ∧
      response.ok = verdict := by
  cases ran : execute settings now player request storage with
  | mk answer after =>
    rw [ran] at answered
    cases answer with
    | error failure => cases answered
    | ok response => exact ⟨response, after, rfl, Option.some.inj answered⟩

/-- What every admitted write keeps, a request keeps. -/
theorem execute_keeps {holds : World → Prop} (kept : World.Kept holds) {settings : Settings}
    {now : Int} {player : PlayerId} {request : Request} {world : World}
    {answer : Except StoreFailure Response} {after : Storage}
    (executed : execute settings now player request (ofWorld world) = (answer, after))
    (before : holds world) : holds after.world := by
  rcases execute_cases executed with ⟨_, _, rfl⟩ | ⟨_, _, _, _, rfl, refused⟩ |
    ⟨_, _, _, _, _, rfl, accepted⟩
  · exact before
  · rw [refused.committed]
    exact kept world _ before refused.admitted
  · have held := kept.all before accepted.admitted
    rw [← accepted.committed] at held
    exact held

end Storage

end Starlane
