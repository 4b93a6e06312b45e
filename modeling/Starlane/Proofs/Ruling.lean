import Starlane.Proofs.Answer
import Starlane.Proofs.Isolation
import Starlane.Proofs.Unique

/-!
# Rulings on local commands

Scans, moves, trades and orders for planets, mines and shipyards are local: they
read and write what is the player's own and what is in one or two sectors. What
such a command comes to can be told before anything is written, as its ruling:
a failure that changes nothing, or writes that are all carried out and an answer
that is read afterwards.
-/

namespace Starlane

/-- Whether a command stays with its player and with sectors. -/
def Command.isLocal : Command → Bool
  | scan | move _ | trade _ _ _ | planet _ | mine _ | shipyard _ => true
  | _ => false

/-- The sector that a command leads to, if it is a move. -/
def Command.destination? : Command → Option SectorId
  | move target => Plan.destination? target
  | _ => none

/-- The sectors that a player's command concerns: where they are, and where it
leads. -/
def World.concerned (world : World) (player : PlayerId) (command : Command) : List SectorId :=
  ((world.players.get? player).map (·.sector)).toList ++ command.destination?.toList

/-- What a local command opens with is always admitted. -/
theorem Command.opening_admitted {now : Int} {commander : Commander} {command : Command}
    (stays : command.isLocal = true) :
    ∀ change ∈ command.opening now commander, ∀ world : World, world.Admits change := by
  intro change listed world
  cases command with
  | scan =>
    cases List.mem_singleton.mp listed
    trivial
  | move target =>
    obtain ⟨there, _, rfl⟩ := List.mem_map.mp listed
    trivial
  | corp => cases stays
  | _ => cases listed

/-- What a request comes to: a failure, or some writes and the answer that is
read after them. -/
inductive Ruling where
  | failure (cause : StoreFailure)
  | verdict (commander : Commander) (message : String) (refusal : Option Refusal)
      (writes : List Write)

namespace Ruling

/-- What is written. -/
def writes : Ruling → List Write
  | .failure _ => []
  | .verdict _ _ _ changes => changes

/-- The answer, read from the world after the writes. -/
def answer (settings : Settings) (now : Int) (after : World) :
    Ruling → Except StoreFailure Response
  | .failure cause => .error cause
  | .verdict commander message refusal _ =>
    after.lookup.respond (Settings.shownLogs settings.recentLogLimit) now commander message refusal

end Ruling

namespace World

/-- The verdict for a commander whose sector exists. -/
def verdict (world : World) (commander : Commander) (message : String) (refusal : Option Refusal)
    (writes : List Write) : Ruling :=
  if world.sectors.contains commander.sector then .verdict commander message refusal writes
  else .failure (.missing .sector commander.sector)

/-- A commander in a sector that does not exist gets no response. -/
theorem respond_missing {world : World} {commander : Commander}
    (absent : ¬ world.sectors.contains commander.sector = true) (shown : Nat) (now : Int)
    (message : String) (refusal : Option Refusal) :
    world.lookup.respond shown now commander message refusal =
      .error (.missing .sector commander.sector) := by
  have none : world.sectors.get? commander.sector = none := by simpa [Table.contains] using absent
  simp [Lookup.respond, Lookup.view, Lookup.sectorOrFail, World.lookup, none, bind, Except.bind]

/-- The ruling on a player's command. -/
def ruling (world : World) (settings : Settings) (now : Int) (player : PlayerId)
    (command : Command) : Ruling :=
  match world.players.get? player with
  | none => .failure (.missing .player player)
  | some row =>
    let commander := world.present settings now player row
    match command.outcome world.lookup now commander with
    | .ok effects =>
      world.verdict effects.commander effects.message none (effects.allWrites now)
    | .error (.refused written reason) =>
      world.verdict commander reason.message (some reason)
        (written ++ [.savePlayer commander.toPlayer])
    | .error (.failed _ failure) => .failure failure

end World

namespace Storage

variable {world : World} {settings : Settings} {now : Int}

/-- Settling admitted writes comes to a verdict. -/
theorem transaction_settle {commander : Commander} {message : String} {refusal : Option Refusal}
    {writes : List Write} (admitted : world.AdmitsAll writes) :
    transaction (Store.settle settings now commander message refusal writes) (.ofWorld world) =
      ((world.verdict commander message refusal writes).answer settings now
          (world.writtenAll (world.verdict commander message refusal writes).writes),
        .ofWorld (world.writtenAll (world.verdict commander message refusal writes).writes)) := by
  have map := world.writtenAll_map writes
  unfold transaction Store.settle
  rw [writeAll_admitted admitted]
  dsimp only
  by_cases here : world.sectors.contains commander.sector = true
  · have there : (world.writtenAll writes).sectors.contains commander.sector = true := by
      rw [map.1]
      exact here
    obtain ⟨response, answered⟩ := World.respond_located there
      (Settings.shownLogs settings.recentLogLimit) now message refusal
    have looked : (Store.lookup (ofWorld (world.writtenAll writes))).respond
      (Settings.shownLogs settings.recentLogLimit) now commander message refusal =
        .ok response := answered
    rw [World.verdict, if_pos here]
    simp only [Ruling.writes, Ruling.answer, looked, answered]
  · have absent : ¬ (world.writtenAll writes).sectors.contains commander.sector = true := by
      rw [map.1]
      exact here
    have missing := World.respond_missing absent (Settings.shownLogs settings.recentLogLimit) now
      message refusal
    have looked : (Store.lookup (ofWorld (world.writtenAll writes))).respond
      (Settings.shownLogs settings.recentLogLimit) now commander message refusal =
        .error (.missing .sector commander.sector) := missing
    rw [World.verdict, if_neg here]
    simp only [Ruling.writes, Ruling.answer, looked]
    rfl

theorem transaction_congr {ε α : Type} {first second : Storage → Except ε α × Storage}
    {storage : Storage} (same : first storage = second storage) :
    transaction first storage = transaction second storage := by
  unfold transaction
  rw [same]

/-- A local request comes to its ruling. -/
theorem execute_ruled (filed : world.Filed) (rostered : world.Rostered) {player : PlayerId}
    {request : Request} (stays : (Command.ofRequest request).isLocal = true) :
    execute settings now player request (.ofWorld world) =
      ((world.ruling settings now player (.ofRequest request)).answer settings now
          (world.writtenAll (world.ruling settings now player (.ofRequest request)).writes),
        .ofWorld (world.writtenAll
          (world.ruling settings now player (.ofRequest request)).writes)) := by
  unfold execute World.ruling
  cases found : world.players.get? player with
  | none =>
    have loads : (Store.lookup (ofWorld world)).commander player =
        .error (.missing .player player) := by
      simp [Store.lookup, ofWorld, World.lookup, World.commander, found]
    unfold transaction
    rw [Store.execute_unloaded loads]
    rfl
  | some row =>
    have own : row.id = player := filed.players player row found
    have joined : world.players.contains player = true := by rw [Table.contains, found]; rfl
    have loads : (Store.lookup (ofWorld world)).commander player =
        .ok { toPlayer := row, membership := world.membershipOf player } := by
      simp [Store.lookup, ofWorld, World.lookup, World.commander, found]
    dsimp only
    cases planned : (Command.ofRequest request).outcome world.lookup now
        (world.present settings now player row) with
    | ok result =>
      obtain ⟨_, _, effects, deed, same⟩ := Command.outcome_success planned
      obtain ⟨turns, stamp, paid⟩ :=
        (Command.ofRequest request).paidBy_frame world settings now player row
      rw [paid] at deed
      have admitted : world.AdmitsAll (result.allWrites now) := by
        rw [same]
        exact deed.admitted_all rostered filed (congrArg world.membershipOf own.symm)
          (own ▸ joined) _
      rw [transaction_congr (Store.execute_planned loads rfl planned)]
      exact transaction_settle admitted
    | error halt =>
      cases halt with
      | refused written reason =>
        rw [transaction_congr (Store.execute_refused loads rfl planned)]
        cases Command.outcome_refused planned
        refine transaction_settle (.single ?_)
        obtain ⟨turns, stamp, granted⟩ := row.regenerate_frame settings.turnRegenSeconds now
        change world.players.contains (row.regenerate settings.turnRegenSeconds now).1.id = true
        rw [granted]
        exact own ▸ joined
      | failed written failure =>
        have admitted : world.AdmitsAll written := by
          rw [Command.outcome_failed planned]
          exact .free (Command.opening_admitted stays)
        unfold transaction
        rw [Store.execute_failed_after loads rfl planned (writeAll_admitted admitted)]
        rfl

end Storage

/-- Whether a write is one that a local command of a player makes in a sector. -/
structure Write.Stays (world : World) (player : PlayerId) (here : SectorId) (change : Write) :
    Prop where
  within : change.Within world player here
  apart : change.part ∉ [Part.corps, .messages]
  logged : ∀ other, change.logged? = some other → other = player
  named : ∀ row, change = .savePlayer row →
    (world.players.get? row.id).map (·.username) = some row.username

namespace World

/-- Whether a world, beyond the reach of a player in a sector, has what another
one has: also the same corporations, names of players and logs of others. -/
structure LeavesAlone (world : World) (player : PlayerId) (here : SectorId) (after : World) :
    Prop extends world.Spares player here after where
  corps : after.corps = world.corps
  members : after.members = world.members
  messages : after.messages = world.messages
  names : ∀ id, (after.players.get? id).map (·.username) =
    (world.players.get? id).map (·.username)
  logs : ∀ other, other ≠ player → after.logOf other = world.logOf other

variable {world : World} {player : PlayerId} {here : SectorId} {changes : List Write}

theorem writtenAll_messages (apart : ∀ change ∈ changes, change.part ≠ .messages)
    (world : World) : (world.writtenAll changes).messages = world.messages := by
  refine writtenAll_untouched (·.messages) (fun change member world => ?_) world
  have other := apart change member
  cases change with
  | insertMessage => exact absurd rfl other
  | _ => rfl

/-- Rows saved under the names that they had leave all names as they were. -/
theorem names_writtenAll {mid : World}
    (named : ∀ change ∈ changes, ∀ row, change = .savePlayer row →
      (world.players.get? row.id).map (·.username) = some row.username)
    (same : ∀ id, (mid.players.get? id).map (·.username) =
      (world.players.get? id).map (·.username)) (id : PlayerId) :
    ((mid.writtenAll changes).players.get? id).map (·.username) =
      (world.players.get? id).map (·.username) := by
  induction changes generalizing mid with
  | nil => exact same id
  | cons change rest ih =>
    refine ih (fun later member => named later (.tail _ member)) fun id => ?_
    rw [written_players]
    cases change with
    | savePlayer row =>
      dsimp only
      rw [Table.get?_insert]
      split
      · next own =>
        rw [own, named _ (.head _) row rfl]
        rfl
      · exact same id
    | _ => exact same id

/-- The writes of a local command leave alone what lies beyond its reach. -/
theorem leavesAlone (filed : world.Filed)
    (stays : ∀ change ∈ changes, change.Stays world player here) :
    world.LeavesAlone player here (world.writtenAll changes) where
  toSpares := Spares.refl.writeAll filed fun change member => (stays change member).within
  corps := writtenAll_corps
    (fun change member same => (stays change member).apart (same ▸ .head _)) world
  members := writtenAll_members
    (fun change member same => (stays change member).apart (same ▸ .head _)) world
  messages := writtenAll_messages
    (fun change member same => (stays change member).apart (same ▸ .tail _ (.head _))) world
  names := names_writtenAll (fun change member => (stays change member).named) fun _ => rfl
  logs other different := logOf_writtenAll_of_ne
    (fun change member same => different ((stays change member).logged other same)) world

end World

section Verdicts

variable {world : World} {settings : Settings} {now : Int} {player : PlayerId}
  {command : Command} {commander : Commander} {message : String} {refusal : Option Refusal}
  {writes : List Write}

theorem World.verdict_eq {who : Commander} {text : String} {reason : Option Refusal}
    {changes : List Write}
    (ruled : world.verdict who text reason changes =
      .verdict commander message refusal writes) : who = commander ∧ changes = writes := by
  unfold World.verdict at ruled
  split at ruled
  · cases ruled
    exact ⟨rfl, rfl⟩
  · cases ruled

/-- A local command writes neither to players nor to corporations nor to logs. -/
theorem Command.parts_of_isLocal {part : Part} (isLocal : command.isLocal = true)
    (listed : part ∈ command.parts) : part ∉ [Part.players, .corps, .messages, .logs] := by
  cases command with
  | scan | move | trade | planet | mine | shipyard =>
    cases part <;> simp [Command.parts] at listed ⊢
  | _ => cases isLocal

/-- The commander of a local deed ends up in a sector that the command concerns. -/
theorem Deed.concerned {look : Lookup} {effects : Effects}
    (deed : Deed look now commander command effects) :
    effects.commander.sector = commander.sector ∨
      some effects.commander.sector = command.destination? := by
  cases deed with
  | moved destined =>
    rw [Plan.arrival_eq]
    exact .inr destined.symm
  | _ => exact .inl rfl

/-- To save a player under the name that they had is a write of theirs. -/
theorem Write.stays_savePlayer {row saved : Player} {here : SectorId}
    (found : world.players.get? player = some row) (own : saved.id = player)
    (known : saved.credentials = row.credentials) :
    (Write.savePlayer saved).Stays world player here where
  within := own
  apart := by simp [Write.part]
  logged _ logged := by cases logged
  named other same := by
    cases same
    rw [own, found]
    exact congrArg some (congrArg Prod.fst known).symm

/-- To write to a player's log is a write of theirs. -/
theorem Write.stays_log {change : Write} {owner : PlayerId} {here : SectorId}
    (logs : (∃ entry, change = .insertLog owner entry) ∨ ∃ keep, change = .pruneLogs owner keep)
    (own : owner = player) : change.Stays world player here := by
  rcases logs with ⟨entry, rfl⟩ | ⟨keep, rfl⟩
  all_goals
    constructor
    · trivial
    · simp [Write.part]
    · intro other logged
      exact (Option.some.inj logged).symm.trans own
    · intro row same
      cases same

/-- The writes of an accepted local command are its player's. -/
theorem Deed.stays {effects : Effects} {row : Player}
    (deed : Deed world.lookup now commander command effects) (filed : world.Filed)
    (isLocal : command.isLocal = true) (found : world.players.get? player = some row)
    (own : commander.id = player) (known : commander.credentials = row.credentials)
    (experience : Int) :
    ∀ change ∈ (effects.rewarded experience).allWrites now,
      change.Stays world player effects.commander.sector := by
  intro change member
  have within := deed.within_all filed experience change member
  have commands := deed.commander_id.trans own
  rw [own] at within
  rcases Effects.mem_allWrites member with written | rfl | ⟨entry, rfl⟩ | rfl
  · have foreign := Command.parts_of_isLocal isLocal (deed.parts change written)
    refine ⟨within, fun apart => foreign ?_, fun other logged => ?_, ?_⟩
    · rcases List.mem_cons.mp apart with same | same
      · rw [same]
        exact .tail _ (.head _)
      · rw [List.mem_singleton.mp same]
        exact .tail _ (.tail _ (.head _))
    · rw [Write.logged_part logged] at foreign
      simp at foreign
    · rintro saved rfl
      exact absurd (.head _) foreign
  · refine Write.stays_savePlayer found ((Rank.award_id _ _).trans commands) ?_
    rw [Rank.award_frame]
    exact deed.credentials.trans known
  · exact Write.stays_log (.inl ⟨entry, rfl⟩) commands
  · exact Write.stays_log (.inr ⟨logKeep, rfl⟩) commands

/-- A verdict on a local command concerns its player and a sector that the
command concerns. -/
theorem World.ruling_stays (filed : world.Filed) (isLocal : command.isLocal = true)
    (ruled : world.ruling settings now player command =
      .verdict commander message refusal writes) :
    commander.id = player ∧ commander.sector ∈ world.concerned player command ∧
      ∀ change ∈ writes, change.Stays world player commander.sector := by
  unfold World.ruling at ruled
  cases found : world.players.get? player with
  | none =>
    rw [found] at ruled
    cases ruled
  | some row =>
    have own : row.id = player := filed.players player row found
    obtain ⟨turns, stamp, granted⟩ := row.regenerate_frame settings.turnRegenSeconds now
    obtain ⟨paidTurns, paidStamp, paid⟩ := command.paidBy_frame world settings now player row
    have here : row.sector ∈ world.concerned player command := by
      simp [World.concerned, found]
    rw [found] at ruled
    dsimp only at ruled
    cases planned : command.outcome world.lookup now (world.present settings now player row) with
    | ok result =>
      obtain ⟨_, _, effects, deed, same⟩ := Command.outcome_success planned
      rw [planned, same] at ruled
      obtain ⟨rfl, rfl⟩ := World.verdict_eq ruled
      rw [paid] at deed
      have sector : (effects.rewarded
          (command.rewardFor (world.present settings now player row))).commander.sector =
            effects.commander.sector := by
        rw [Effects.rewarded_player, Rank.award_frame]
      rw [sector]
      refine ⟨?_, ?_, deed.stays filed isLocal found own rfl _⟩
      · rw [Effects.rewarded_player, Rank.award_id, deed.commander_id]
        exact own
      · rcases deed.concerned with stayed | moved
        · rw [stayed]
          exact here
        · simp [World.concerned, ← moved]
    | error halt =>
      rw [planned] at ruled
      cases halt with
      | refused written reason =>
        cases Command.outcome_refused planned
        obtain ⟨rfl, rfl⟩ := World.verdict_eq ruled
        refine ⟨?_, ?_, fun change member => ?_⟩
        · simp only [World.present, granted]
          exact own
        · simp only [World.present, granted]
          exact here
        · rw [List.mem_singleton.mp member]
          refine Write.stays_savePlayer found ?_ ?_
          · simp only [World.present, granted]
            exact own
          · simp only [World.present, granted]
            rfl
      | failed => cases ruled

end Verdicts

end Starlane
