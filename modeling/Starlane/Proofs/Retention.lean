import Mathlib.Data.List.DropRight
import Starlane.Proofs.Chronicle
import Starlane.Proofs.Isolation

/-!
# What logs retain

A player's log holds the newest of the lines that were ever delivered to them, in
order of delivery. Delivered are the lines of their own accepted commands and the
messages to their corporation. Each delivery appends to the log and drops what is
beyond its length, so the log after a course is read off its chronicle.
-/

namespace Starlane

section Newest

variable {α : Type}

/-- To keep the newest of what was kept, with more behind it, is to keep the newest
of all. -/
theorem rtake_append_rtake (lines more : List α) (keep : Nat) :
    (lines.rtake keep ++ more).rtake keep = (lines ++ more).rtake keep := by
  simp only [List.rtake_eq_reverse_take_reverse, List.reverse_append, List.reverse_reverse,
    List.take_append, List.take_take]
  rw [Nat.min_eq_left (Nat.sub_le _ _)]

theorem rtake_of_length_le {lines : List α} {keep : Nat} (short : lines.length ≤ keep) :
    lines.rtake keep = lines := by
  rw [List.rtake, Nat.sub_eq_zero_of_le short, List.drop_zero]

theorem length_rtake_le (lines : List α) (keep : Nat) : (lines.rtake keep).length ≤ keep := by
  rw [List.rtake, List.length_drop]
  omega

end Newest

namespace World

variable {world mid after : World} {player reader : PlayerId} {lines more : List LogEntry}

/-- Whether a player's log is what it was with some lines behind it, as far as it
is kept. -/
def Appends (world after : World) (player : PlayerId) (lines : List LogEntry) : Prop :=
  after.logOf player = (world.logOf player ++ lines).rtake logKeep

theorem Appends.trans (first : world.Appends mid player lines)
    (second : mid.Appends after player more) : world.Appends after player (lines ++ more) := by
  rw [Appends, second, first, rtake_append_rtake, List.append_assoc]

/-- A log that is kept in full stays as it is. -/
theorem Appends.same (short : (world.logOf player).length ≤ logKeep)
    (same : after.logOf player = world.logOf player) : world.Appends after player [] := by
  rw [Appends, same, List.append_nil, rtake_of_length_le short]

/-- Writes about other logs append nothing. -/
theorem Appends.spared {changes : List Write} (short : (world.logOf player).length ≤ logKeep)
    (others : ∀ change ∈ changes, change.logged? ≠ some player) :
    world.Appends (world.writtenAll changes) player [] :=
  .same short (logOf_writtenAll_of_ne others world)

theorem Appends.short (appends : world.Appends after player lines) :
    (after.logOf player).length ≤ logKeep := by
  rw [appends]
  exact length_rtake_le _ _

theorem logOf_pruned (world : World) (player : PlayerId) (keep : Nat) :
    (world.written (.pruneLogs player keep)).logOf player = (world.logOf player).rtake keep :=
  logOf_pruneLogs world player keep

theorem logOf_insertLogs (world : World) (player : PlayerId) (entries : List LogEntry) :
    (world.writtenAll (entries.map (.insertLog player))).logOf player =
      world.logOf player ++ entries := by
  induction entries generalizing world with
  | nil => exact (List.append_nil _).symm
  | cons entry rest ih =>
    have entered := ih (world.written (.insertLog player entry))
    rw [logOf_insertLog, List.append_assoc] at entered
    exact entered

/-- Lines are appended by entering them and pruning the log. -/
theorem Appends.entered (world : World) (player : PlayerId) (entries : List LogEntry) :
    world.Appends (world.writtenAll
      (entries.map (.insertLog player) ++ [.pruneLogs player logKeep])) player entries := by
  rw [Appends, writtenAll_append]
  change (World.written _ (.pruneLogs player logKeep)).logOf player = _
  rw [logOf_pruned, logOf_insertLogs]

/-- A delivery appends its line for each time that the reader is listed. -/
theorem Appends.delivered (members : List Member) (now : Int) (line : String)
    (short : (world.logOf reader).length ≤ logKeep) :
    world.Appends (world.writtenAll (Plan.delivery members now line)) reader
      ((members.filter fun member => member.player == reader).map fun _ => ⟨now, .corp, line⟩) := by
  induction members generalizing world with
  | nil => exact .same short rfl
  | cons member rest ih =>
    have parts : Plan.delivery (member :: rest) now line =
        ([⟨now, .corp, line⟩].map (.insertLog member.player) ++
          [.pruneLogs member.player logKeep]) ++ Plan.delivery rest now line := rfl
    rw [parts, writtenAll_append]
    by_cases own : member.player = reader
    · subst own
      have first := Appends.entered world member.player [⟨now, .corp, line⟩]
      rw [List.filter_cons_of_pos (by simp), List.map_cons]
      exact first.trans (ih first.short)
    · have first : world.Appends (world.writtenAll
          ([⟨now, .corp, line⟩].map (.insertLog member.player) ++
            [.pruneLogs member.player logKeep])) reader [] := by
        refine .spared short fun change written logged => own ?_
        rcases List.mem_cons.mp written with rfl | pruned
        · exact Option.some.inj logged
        · cases List.mem_singleton.mp pruned
          exact Option.some.inj logged
      rw [List.filter_cons_of_neg (by simpa using own)]
      exact first.trans (ih first.short)

/-- The line that an accepted command of a speaker puts into the log of a reader who
is in the same corporation: that of a message to it. -/
def chatter (world : World) (now : Int) (speaker reader : PlayerId) (command : Command) :
    List LogEntry :=
  match command, world.players.get? speaker, world.membershipOf speaker with
  | .corp (.say raw), some row, some membership =>
    if (world.membershipOf reader).map (·.corp) = some membership.corp then
      [⟨now, .corp, s!"[{membership.name}] {row.username}: {Naming.cleanMessage raw}"⟩]
    else []
  | _, _, _ => []

/-- The lines that an accepted command puts into the log of who gave it: those of
its plan and the announcement of a rise, empty ones apart. -/
def account (world : World) (settings : Settings) (now : Int) (player : PlayerId)
    (command : Command) : List LogEntry :=
  match world.players.get? player with
  | none => []
  | some row =>
    let commander := world.present settings now player row
    match command.plan world.lookup now (command.paidBy commander) with
    | .error _ => []
    | .ok effects =>
      let risen := (Rank.award (command.rewardFor commander) effects.commander.toPlayer).2
      let lines := effects.lines ++
        risen.toList.map fun promotion => (LogKind.system, promotion.announcement)
      (lines.filter fun line => !line.2.isEmpty).map fun line => ⟨now, line.1, line.2⟩

/-- Whether a reader is in a corporation, read off their snapshot. -/
theorem Rostered.membershipOf_corp (rostered : world.Rostered) (filed : world.Filed)
    {corp : CorpId} :
    (world.membershipOf reader).map (·.corp) = some corp ↔
      ∃ member ∈ world.rosterOf corp, member.player = reader := by
  constructor
  · intro belongs
    obtain ⟨membership, snapshot, rfl⟩ := Option.map_eq_some_iff.mp belongs
    obtain ⟨member, _, listed, own, _⟩ := rostered.membership_line filed snapshot
    exact ⟨member, listed, own⟩
  · rintro ⟨member, listed, rfl⟩
    obtain ⟨lined, rfl⟩ := mem_rosterOf.mp listed
    obtain ⟨corp, found⟩ := contains_iff.mp (rostered.employed member lined)
    rw [rostered.membershipOf_of_mem lined found]
    exact congrArg some (filed.corps _ corp found)

/-- A reader is listed once on the roster of their corporation, and on no other. -/
theorem Rostered.listings (rostered : world.Rostered) (filed : world.Filed) (corp : CorpId)
    (reader : PlayerId) (entry : LogEntry) :
    ((Member.sortByJoining (world.rosterOf corp)).filter
        fun member => member.player == reader).map (fun _ => entry) =
      if (world.membershipOf reader).map (·.corp) = some corp then [entry] else [] := by
  have perm : (Member.sortByJoining (world.rosterOf corp)).Perm (world.rosterOf corp) :=
    List.mergeSort_perm _ _
  rw [List.map_const']
  have counted : ((Member.sortByJoining (world.rosterOf corp)).filter
      fun member => member.player == reader).length =
      ((world.rosterOf corp).map (·.player)).count reader := by
    rw [← List.countP_eq_length_filter, perm.countP_eq, List.count, List.countP_map]
    rfl
  rw [counted, (rostered.roster_single corp).count]
  simp only [rostered.membershipOf_corp filed, List.mem_map]
  split <;> rfl

end World

namespace Effects

variable (effects : Effects) (experience : Int)

/-- A reward adds a line where it announces a rise. -/
theorem rewarded_lines :
    (effects.rewarded experience).lines = effects.lines ++
      (Rank.award experience effects.commander.toPlayer).2.toList.map
        fun promotion => (LogKind.system, promotion.announcement) := by
  unfold rewarded
  dsimp only
  split
  · next level => rw [level, Option.toList_none, List.map_nil, List.append_nil]
  · next promotion risen => rw [risen]; rfl

theorem rewarded_id : (effects.rewarded experience).commander.id = effects.commander.id := by
  rw [rewarded_player, Rank.award_id]

end Effects

/-- The lines of a command are appended to the log of its commander, and to no
other. -/
theorem World.Appends.logged {world : World} {reader : PlayerId} (effects : Effects) (now : Int)
    (short : (world.logOf reader).length ≤ logKeep) :
    world.Appends (world.writtenAll (effects.logWrites now)) reader
      (if reader = effects.commander.id then effects.entries now else []) := by
  unfold Effects.logWrites
  by_cases own : reader = effects.commander.id
  · rw [if_pos own]
    subst own
    dsimp only
    split
    · next silent =>
      rw [List.isEmpty_iff.mp silent]
      exact .same short rfl
    · exact .entered world _ _
  · rw [if_neg own]
    refine .spared short fun change member logged => own ?_
    rcases List.mem_append.mp member with line | pruning
    · obtain ⟨entry, _, rfl⟩ := List.mem_map.mp line
      exact (Option.some.inj logged).symm
    · split at pruning
      · cases pruning
      · cases List.mem_singleton.mp pruning
        exact (Option.some.inj logged).symm

namespace Plan

variable {look : Lookup} {now : Int} {commander : Commander} {effects : Effects}

/-- A message that is planned goes to everybody on the roster, under the names of
the corporation and of the speaker. -/
theorem sayToCorp_success {raw : String}
    (planned : sayToCorp look now commander raw = .ok effects) :
    ∃ membership members message, commander.membership = some membership ∧
      look.members membership.corp = .ok members ∧
      effects = .silent commander (.insertMessage message :: delivery members now
        s!"[{membership.name}] {commander.username}: {Naming.cleanMessage raw}")
        "Corp message sent." := by
  unfold sayToCorp at planned
  obtain ⟨membership, belongs, planned⟩ := bind_success planned
  obtain ⟨_, _, planned⟩ := bind_success planned
  obtain ⟨_, _, planned⟩ := bind_success planned
  obtain ⟨_, sending, rfl⟩ := writing_success planned
  obtain ⟨members, roster, sending⟩ := bind_success sending
  dsimp only at sending
  rw [writing_pure _ rfl] at sending
  cases sending
  exact ⟨membership, members, _, expect_success belongs, read_success roster, rfl⟩

end Plan

namespace Storage

variable {settings : Settings} {now : Int} {player : PlayerId} {request : Request}
  {response : Response}

/-- A request that is answered and accepted comes to an outcome, which is written
as a whole. -/
theorem outcome_of_accepted {world : World} {after : Storage}
    (success : Store.execute settings now player request (ofWorld world) = (.ok response, after))
    (accepted : response.ok = true) :
    ∃ row result, world.players.get? player = some row ∧
      (Command.ofRequest request).outcome world.lookup now
        (world.present settings now player row) = .ok result ∧
      after.world = world.writtenAll (result.allWrites now) := by
  cases loads : (Store.lookup (ofWorld world)).commander player with
  | error failure =>
    rw [Store.execute_unloaded loads] at success
    cases success
  | ok loaded =>
    obtain ⟨row, found, rfl⟩ := World.commander_success loads
    cases planned : (Command.ofRequest request).outcome world.lookup now
        (world.present settings now player row) with
    | ok result =>
      rw [Store.execute_planned loads rfl planned] at success
      obtain ⟨_, written, _⟩ := settle_success success
      exact ⟨row, result, found, planned, congrArg Storage.world written⟩
    | error halt =>
      cases halt with
      | refused written reason =>
        rw [Store.execute_refused loads rfl planned] at success
        obtain ⟨_, _, _, refusal, _⟩ := settle_success success
        rw [Response.ok, refusal] at accepted
        cases accepted
      | failed written failure =>
        obtain ⟨cause, failed⟩ := @Store.execute_failed Storage _ (ofWorld world) settings now
          player request _ _ _ _ loads rfl planned
        rw [failed] at success
        cases success

/-- An accepted request carries out what its command is planned to do, with the
reward, whatever the limit on writes. -/
theorem execute_effects {storage after : Storage}
    (executed : execute settings now player request storage = (.ok response, after))
    (accepted : response.ok = true) :
    ∃ row effects, storage.world.players.get? player = some row ∧
      (Command.ofRequest request).plan storage.world.lookup now
        ((Command.ofRequest request).paidBy (storage.world.present settings now player row)) =
        .ok effects ∧
      after.world = storage.world.writtenAll ((effects.rewarded
        ((Command.ofRequest request).rewardFor
          (storage.world.present settings now player row))).allWrites now) := by
  have answered : Store.execute settings now player request storage = (.ok response, after) := by
    unfold execute transaction at executed
    split at executed
    · next answered =>
      rw [answered]
      exact executed
    · cases executed
  have unlimited := request_unlimited answered
  obtain ⟨row, result, found, outcome, written⟩ := outcome_of_accepted unlimited accepted
  obtain ⟨_, _, effects, planned, same⟩ := Command.outcome_planned outcome
  rw [same] at written
  exact ⟨row, effects, found, planned, written⟩

end Storage

namespace World

variable {world : World} {settings : Settings} {now : Int} {player reader : PlayerId}
  {row : Player} {command : Command} {effects : Effects}

/-- Only messages are chatter. -/
theorem chatter_silent (quiet : ∀ raw, command ≠ .corp (.say raw)) :
    world.chatter now player reader command = [] := by
  unfold chatter
  split
  · next raw _ _ _ _ => exact absurd rfl (quiet raw)
  · rfl

theorem chatter_spoken {membership : Membership} {raw : String}
    (found : world.players.get? player = some row)
    (belongs : world.membershipOf player = some membership) :
    world.chatter now player reader (.corp (.say raw)) =
      if (world.membershipOf reader).map (·.corp) = some membership.corp then
        [⟨now, .corp, s!"[{membership.name}] {row.username}: {Naming.cleanMessage raw}"⟩]
      else [] := by
  simp only [chatter, found, belongs]

example : Drill.partnered.chatter Drill.startTime 7 8 (.corp (.say " hail ")) =
    [⟨Drill.startTime, .corp, "[Acme] ada: hail"⟩] := by decide +kernel

/-- What a command is planned to write appends the chatter. -/
theorem Appends.planned (rostered : world.Rostered) (filed : world.Filed)
    (short : (world.logOf reader).length ≤ logKeep)
    (found : world.players.get? player = some row)
    (planned : command.plan world.lookup now
      (command.paidBy (world.present settings now player row)) = .ok effects) :
    world.Appends (world.writtenAll effects.writes) reader
      (world.chatter now player reader command) := by
  obtain ⟨turns, stamp, paid⟩ := command.paidBy_frame world settings now player row
  rw [paid] at planned
  by_cases spoken : ∃ raw, command = .corp (.say raw)
  · obtain ⟨raw, rfl⟩ := spoken
    obtain ⟨membership, members, message, belongs, roster, rfl⟩ := Plan.sayToCorp_success planned
    have belongs : world.membershipOf player = some membership := belongs
    cases roster
    have listings := rostered.listings filed membership.corp reader
      ⟨now, .corp, s!"[{membership.name}] {row.username}: {Naming.cleanMessage raw}"⟩
    rw [chatter_spoken found belongs, ← listings]
    exact @Appends.delivered (world.written (.insertMessage message)) reader _ now _ short
  · -- No other command writes to any log before its own lines are entered.
    rw [chatter_silent fun raw same => spoken ⟨raw, same⟩]
    have own : row.id = player := filed.players player row found
    have deed := Command.plan_deed command planned
    refine .spared short fun change member logged => spoken ?_
    exact (deed.logged rostered filed (congrArg world.membershipOf own.symm)
      ⟨change, member, logged⟩).1

/-- The account of a command is the entries of its effects with the reward. -/
theorem account_eq (found : world.players.get? player = some row)
    (planned : command.plan world.lookup now
      (command.paidBy (world.present settings now player row)) = .ok effects) :
    world.account settings now player command = (effects.rewarded
      (command.rewardFor (world.present settings now player row))).entries now := by
  rw [Effects.entries, Effects.rewarded_lines]
  unfold account
  rw [found]
  dsimp only
  rw [planned]

/-- What an accepted command writes appends the chatter to every log, and to that of
its commander the entries of its effects. -/
theorem Appends.carried (rostered : world.Rostered) (filed : world.Filed)
    (short : (world.logOf reader).length ≤ logKeep)
    (found : world.players.get? player = some row)
    (planned : command.plan world.lookup now
      (command.paidBy (world.present settings now player row)) = .ok effects) {experience : Int} :
    world.Appends (world.writtenAll ((effects.rewarded experience).allWrites now)) reader
      (world.chatter now player reader command ++
        if reader = player then (effects.rewarded experience).entries now else []) := by
  obtain ⟨turns, stamp, paid⟩ := command.paidBy_frame world settings now player row
  have own : (effects.rewarded experience).commander.id = player := by
    have deed := Command.plan_deed command planned
    rw [effects.rewarded_id, deed.commander_id, paid]
    exact filed.players player row found
  -- The messages come first, then the row is saved, then the own lines are entered.
  have deeds := Appends.planned rostered filed short found planned
  have saved : (world.writtenAll effects.writes).Appends ((world.writtenAll effects.writes).written
      (.savePlayer (effects.rewarded experience).commander.toPlayer)) reader [] :=
    .same deeds.short rfl
  have entered := Appends.logged (effects.rewarded experience) now saved.short
  have all := (deeds.trans saved).trans entered
  rw [own, List.append_nil] at all
  rw [Effects.allWrites, Effects.rewarded_writes, writtenAll_append]
  exact all

end World

namespace Page

/-- The lines that a page delivers to a reader: the chatter that reaches them, and
what their own command puts into their log, if it is accepted. -/
def delivered (page : Page) (reader : PlayerId) : List LogEntry :=
  match page.petition with
  | none => []
  | some petition =>
    if wasAccepted petition.answer then
      let command := Command.ofRequest petition.request
      page.before.chatter petition.now petition.player reader command ++
        if reader = petition.player then
          page.before.account petition.settings petition.now petition.player command
        else []
    else []

variable {page : Page}

/-- A petition that is not accepted delivers nothing. -/
theorem delivered_refused {before after : World} {petition : Petition} {reader : PlayerId}
    (refused : wasAccepted petition.answer = false) :
    delivered ⟨before, some petition, after⟩ reader = [] := by
  simp [delivered, refused]

theorem delivered_accepted {before after : World} {petition : Petition} {reader : PlayerId}
    (accepted : wasAccepted petition.answer = true) :
    delivered ⟨before, some petition, after⟩ reader =
      before.chatter petition.now petition.player reader (.ofRequest petition.request) ++
        if reader = petition.player then
          before.account petition.settings petition.now petition.player
            (.ofRequest petition.request)
        else [] := by
  simp [delivered, accepted]

/-- Every page appends to a log what it delivers. -/
theorem Occurs.appends (occurs : page.Occurs) (rostered : page.before.Rostered)
    (filed : page.before.Filed) {reader : PlayerId}
    (short : (page.before.logOf reader).length ≤ logKeep) :
    page.before.Appends page.after reader (page.delivered reader) := by
  cases occurs with
  | @answered world petition limit after executed =>
    rcases Storage.outcomes executed with ⟨_, failed, same⟩ | ⟨_, _, answered, refused⟩ |
      ⟨response, _, _, answered, accepted⟩
    · have rejected : wasAccepted petition.answer = false := by rw [failed]; rfl
      rw [delivered_refused rejected, same]
      exact .same short rfl
    · have rejected : wasAccepted petition.answer = false := by
        rw [answered]
        exact refused.refusal
      rw [delivered_refused rejected, refused.committed]
      exact .same short rfl
    · have good : wasAccepted petition.answer = true := by
        rw [answered]
        exact accepted.accepted
      rw [answered] at executed
      obtain ⟨row, effects, found, planned, written⟩ :=
        Storage.execute_effects executed accepted.accepted
      have account := World.account_eq found planned
      rw [delivered_accepted good]
      dsimp only at account written ⊢
      rw [account, written]
      exact World.Appends.carried rostered filed short found planned
  | @join world settings now id username =>
    obtain ⟨_, _, _, same⟩ := world.join_frame settings now id username
    rw [same]
    exact .same short rfl
  | portTick | planetTick | protectorateTick => exact .same short rfl
  | @eventTick world γ _ now dice =>
    obtain ⟨_, _, _, same⟩ := world.eventTick_frame now dice
    rw [same]
    exact .same short rfl

/-- Every response shows the newest lines of the log after the page. -/
theorem Occurs.shows (occurs : page.Occurs) (filed : page.before.Filed) {petition : Petition}
    {response : Response} (asked : page.petition = some petition)
    (answered : petition.answer = .ok response) :
    response.logs = (page.after.logOf petition.player).reverse.take
      (Settings.shownLogs petition.settings.recentLogLimit) := by
  cases occurs with
  | @answered world _ limit after executed =>
    cases asked
    suffices told : ∃ commander message refusal, after.world.lookup.respond
        (Settings.shownLogs petition.settings.recentLogLimit) petition.now commander message
        refusal = .ok response ∧ commander.id = petition.player by
      obtain ⟨commander, message, refusal, responded, own⟩ := told
      obtain ⟨_, _, _, _, logged⟩ := Lookup.respond_success responded
      rw [own] at logged
      exact (Except.ok.inj logged).symm
    rcases Storage.outcomes executed with ⟨_, failed, _⟩ | ⟨_, row, told, refused⟩ |
      ⟨_, row, effects, told, accepted⟩
    · rw [answered] at failed
      cases failed
    · cases answered.symm.trans told
      refine ⟨_, _, _, refused.responded, ?_⟩
      exact (row.regenerate_id _ _).trans (filed.players _ row refused.found)
    · cases answered.symm.trans told
      refine ⟨_, _, _, accepted.responded, ?_⟩
      obtain ⟨turns, stamp, paid⟩ := Command.paidBy_frame (.ofRequest petition.request) world
        petition.settings petition.now petition.player row
      rw [effects.rewarded_id, accepted.deed.commander_id, paid]
      exact filed.players _ row accepted.found
  | _ => cases asked

end Page

/-- From a start without logs, what is stored of a log is the newest of what the
pages delivered. -/
theorem Chronicle.retained {start world : World} {pages : List Page}
    (chronicle : Chronicle start pages world) (reachable : start.Reachable)
    (blank : start.logs = []) (reader : PlayerId) :
    world.logOf reader = (pages.flatMap fun page => page.delivered reader).rtake logKeep := by
  induction chronicle with
  | start => rw [World.logOf, blank]; rfl
  | @turn pages page chronicle occurs ih =>
    obtain ⟨filed, rostered⟩ := chronicle.leads.ordered reachable
    have short : (page.before.logOf reader).length ≤ logKeep := by
      rw [ih]
      exact length_rtake_le _ _
    rw [occurs.appends rostered filed short, ih, rtake_append_rtake, List.flatMap_append,
      List.flatMap_singleton]

/-- A course from a start without logs, whoever has given commands on it. The log
of every player is the last fifty of all lines that were delivered to them, in
order. Every response shows the newest of them first, as many as the settings
want, but one at least and all that are stored at most. Pruning a player's log
keeps its newest lines, and all lines of others as they are. -/
theorem logs_retain_newest {start world : World} {pages : List Page}
    (reachable : start.Reachable) (blank : start.logs = [])
    (chronicle : Chronicle start pages world) :
    (∀ player, world.logOf player =
      (pages.flatMap fun page => page.delivered player).rtake 50) ∧
    (∀ page ∈ pages, ∀ petition response, page.petition = some petition →
      petition.answer = .ok response →
      response.logs = (page.after.logOf petition.player).reverse.take
        (min (max 1 (min petition.settings.recentLogLimit 50))
          (page.after.logOf petition.player).length)) ∧
    ∀ player keep, ∃ after, world.apply (.pruneLogs player keep) = .ok after ∧
      after.logOf player = (world.logOf player).rtake keep ∧
      after.logs.filter (fun line => line.1 != player) =
        world.logs.filter fun line => line.1 != player := by
  refine ⟨chronicle.retained reachable blank,
    fun page listed petition response asked answered => ?_,
    fun player keep => ⟨_, rfl, world.logOf_pruned player keep, ?_⟩⟩
  · obtain ⟨occurs, earlier, told⟩ := chronicle.page listed
    rw [occurs.shows (told.leads.ordered reachable).1 asked answered, ← List.length_reverse,
      List.take_eq_take_min]
    rfl
  · exact World.filter_dropOldest (fun line other => by simpa using other) _ _

/-- After fifty-five scans, four of which announce a rise, the pilot of the drill
has the last fifty of fifty-nine lines. -/
theorem logs_retain_newest_scans :
    let scans := List.replicate 55 (7, Request.ofKind "SCAN")
    let lines := (Drill.tell Drill.settled scans).flatMap fun page => page.delivered 7
    lines.length = 59 ∧ (Drill.askedAll Drill.settled scans).logOf 7 = lines.drop 9 := by
  intro scans lines
  have chronicle := Drill.told Drill.settled_told scans
  obtain ⟨retained, _⟩ := logs_retain_newest Drill.outpost_reachable rfl chronicle
  have counted : lines.length = 59 := by decide +kernel
  refine ⟨counted, (retained 7).trans ?_⟩
  change lines.drop (lines.length - 50) = _
  rw [counted]

end Starlane
