import Starlane.Proofs.Reach
import Starlane.Proofs.Succession

/-!
# Players are isolated from one another

A command changes nothing of another player, with two exceptions: a message to
a corporation is written into the logs of its members, and a leader who leaves
makes another member the leader. What lies outside the sector of the player
stays as it is, and so do the corporations of others.
-/

namespace Starlane

/-- The player whose log a write is about. -/
def Write.logged? : Write → Option PlayerId
  | insertLog player _ | pruneLogs player _ => some player
  | _ => none

theorem Write.logged_part {change : Write} {player : PlayerId}
    (logged : change.logged? = some player) : change.part = .logs := by
  cases change with
  | insertLog | pruneLogs => rfl
  | _ => cases logged

namespace World

/-- Dropping a player's oldest lines drops and reorders nothing else. -/
theorem filter_dropOldest {player : PlayerId} {wanted : PlayerId × LogEntry → Bool}
    (others : ∀ line, wanted line = true → line.1 ≠ player) (excess : Nat)
    (lines : List (PlayerId × LogEntry)) :
    (dropOldest player excess lines).filter wanted = lines.filter wanted := by
  induction lines generalizing excess with
  | nil => cases excess <;> rfl
  | cons line rest ih =>
    cases excess with
    | zero => rfl
    | succ excess =>
      rw [dropOldest]
      split
      · next own => rw [ih, List.filter_cons_of_neg fun picked => others line picked own]
      · simp only [List.filter_cons, ih]

/-- Only a write about a player's log changes it. -/
theorem logOf_written_of_ne {other : PlayerId} {change : Write}
    (different : change.logged? ≠ some other) (world : World) :
    (world.written change).logOf other = world.logOf other := by
  cases change with
  | insertLog player entry =>
    have apart : (player == other) = false :=
      beq_false_of_ne fun same => different (congrArg some same)
    simp [logOf, written, List.filter_append, apart]
  | pruneLogs player keep =>
    have apart : other ≠ player := fun same => different (congrArg some same.symm)
    rw [logOf, logOf, written]
    dsimp only
    rw [filter_dropOldest]
    simp only [beq_iff_eq]
    exact fun line mine => mine ▸ apart
  | _ => rfl

theorem logOf_writtenAll_of_ne {other : PlayerId} {changes : List Write}
    (different : ∀ change ∈ changes, change.logged? ≠ some other) (world : World) :
    (world.writtenAll changes).logOf other = world.logOf other :=
  writtenAll_untouched (·.logOf other)
    (fun change member world => logOf_written_of_ne (different change member) world) world

theorem logOf_insertLog (world : World) (player : PlayerId) (entry : LogEntry) :
    (world.written (.insertLog player entry)).logOf player = world.logOf player ++ [entry] := by
  simp [logOf, written, List.filter_append]

/-- A player's oldest lines are the ones that are dropped. -/
theorem filter_dropOldest_self (player : PlayerId) (excess : Nat)
    (lines : List (PlayerId × LogEntry)) :
    (dropOldest player excess lines).filter (fun line => line.1 == player) =
      (lines.filter fun line => line.1 == player).drop excess := by
  induction lines generalizing excess with
  | nil => cases excess <;> rfl
  | cons line rest ih =>
    cases excess with
    | zero => rfl
    | succ excess =>
      rw [dropOldest]
      split
      · next own => rw [ih, List.filter_cons_of_pos (by simpa using own), List.drop_succ_cons]
      · next other =>
        rw [List.filter_cons_of_neg (by simpa using other),
          List.filter_cons_of_neg (by simpa using other), ih]

theorem logOf_pruneLogs (world : World) (player : PlayerId) (keep : Nat) :
    (world.written (.pruneLogs player keep)).logOf player =
      (world.logOf player).drop ((world.logOf player).length - keep) := by
  rw [logOf, written, filter_dropOldest_self, List.map_drop]
  rfl

/-- Whether two players are on one roster. -/
def Mates (world : World) (player other : PlayerId) : Prop :=
  ∃ line mate, world.memberOf? player = some line ∧ world.memberOf? other = some mate ∧
    line.corp = mate.corp

/-- The roster line of the member who takes over when a player leaves their
corporation as its leader. -/
def successor? (world : World) (player : PlayerId) : Option Member :=
  (world.membershipOf player).bind fun membership =>
    Plan.heir membership player (Member.sortByJoining (world.rosterOf membership.corp))

/-- The roster line behind a snapshot. -/
theorem Rostered.line_found {world : World} (rostered : world.Rostered) (filed : world.Filed)
    {player : PlayerId} {membership : Membership}
    (belongs : world.membershipOf player = some membership) :
    ∃ line, world.memberOf? player = some line ∧ line.corp = membership.corp := by
  obtain ⟨line, _, among, own, _⟩ := rostered.membership_line filed belongs
  obtain ⟨enrolled, employer⟩ := mem_rosterOf.mp among
  refine ⟨line, ?_, employer⟩
  rw [← own]
  exact rostered.memberOf?_of_mem enrolled

/-- Those on the roster behind a snapshot are mates. -/
theorem Rostered.mates {world : World} (rostered : world.Rostered) (filed : world.Filed)
    {player : PlayerId} {membership : Membership} {mate : Member}
    (belongs : world.membershipOf player = some membership)
    (listed : mate ∈ world.rosterOf membership.corp) : world.Mates player mate.player := by
  obtain ⟨line, found, employer⟩ := rostered.line_found filed belongs
  obtain ⟨known, colleague⟩ := mem_rosterOf.mp listed
  exact ⟨line, mate, found, rostered.memberOf?_of_mem known, employer.trans colleague.symm⟩

/-- The successor comes from the roster of the one who leaves. -/
theorem successor?_enrolled {world : World} {player : PlayerId} {membership : Membership}
    {heir : Member} (belongs : world.membershipOf player = some membership)
    (inherits : world.successor? player = some heir) :
    heir ∈ world.members ∧ heir.corp = membership.corp := by
  rw [successor?, belongs] at inherits
  exact mem_rosterOf.mp ((List.mergeSort_perm _ _).mem_iff.mp (Plan.heir_mem inherits))

/-- A roster on which a player has a colleague is longer than one line. -/
theorem Rostered.colleague {world : World} (rostered : world.Rostered) (filed : world.Filed)
    {player other : PlayerId} {membership : Membership} (different : other ≠ player)
    (belongs : world.membershipOf player = some membership) {line : Member}
    (listed : line ∈ world.rosterOf membership.corp) (named : line.player = other) :
    1 < (world.rosterOf membership.corp).length := by
  obtain ⟨own, _, among, owned, _⟩ := rostered.membership_line filed belongs
  by_contra few
  obtain ⟨only, single⟩ := List.length_eq_one_iff.mp
    (Nat.le_antisymm (Nat.le_of_not_lt few) (List.length_pos_of_mem among))
  rw [single, List.mem_singleton] at among listed
  exact different (by rw [← named, listed, ← among, owned])

/-- The rosters after a player has left, as another player finds their line in
them: only the successor gets another role. -/
theorem Rostered.memberOf?_departed {world after : World} (rostered : world.Rostered)
    (filed : world.Filed) {player other : PlayerId} {membership : Membership}
    (different : other ≠ player) (belongs : world.membershipOf player = some membership)
    (members : after.members = ((world.members.map (Member.under membership.corp
      (world.successor? player))).filter fun member =>
        !isMember membership.corp player member).filter fun member =>
          decide (1 < (world.rosterOf membership.corp).length) ||
            member.corp != membership.corp) :
    after.memberOf? other = (world.memberOf? other).map fun line =>
      if world.successor? player = some line then { line with role := .leader } else line := by
  -- A roster of one line is that of the leaver, so the dissolution takes nobody else's line.
  have stays : ∀ line ∈ world.members, line.player = other →
      (decide (1 < (world.rosterOf membership.corp).length) ||
        line.corp != membership.corp) = true := by
    intro line lined named
    by_cases employer : line.corp = membership.corp
    · simp [rostered.colleague filed different belongs (mem_rosterOf.mpr ⟨lined, employer⟩) named]
    · simp [employer]
  have found : after.memberOf? other = (world.members.find? fun line =>
      line.player == other).map (Member.under membership.corp (world.successor? player)) := by
    rw [memberOf?, members, List.find?_filter, List.find?_filter, List.find?_map]
    congr 1
    rw [← List.head?_filter, ← List.head?_filter]
    congr 1
    refine List.filter_congr fun line lined => ?_
    by_cases named : line.player = other
    · have kept := stays line lined named
      simp only [Function.comp_apply, Member.under_corp, Member.under_player, isMember, named,
        kept, beq_false_of_ne different]
      simp
    · simp [named]
  rw [found, memberOf?]
  cases lined : world.members.find? fun line => line.player == other with
  | none => rfl
  | some line =>
    have mine : line ∈ world.members := List.mem_of_find?_eq_some lined
    simp only [Option.map_some, Option.some.injEq, Member.under]
    congr 1
    rw [eq_iff_iff]
    cases inherits : world.successor? player with
    | none => simp
    | some heir =>
      obtain ⟨enrolled, employer⟩ := successor?_enrolled belongs inherits
      simp only [Option.any_some, isMember_iff, Option.some.injEq]
      constructor
      · rintro ⟨_, named⟩
        exact rostered.same_line enrolled mine named.symm
      · rintro rfl
        exact ⟨employer, rfl⟩

end World

/-- The logs that an accepted command writes to: those of its deed, and that of
its commander. -/
theorem Effects.logged_cases {effects : Effects} {experience now : Int} {change : Write}
    {player : PlayerId} (member : change ∈ (effects.rewarded experience).allWrites now)
    (logged : change.logged? = some player) :
    change ∈ effects.writes ∨ player = effects.commander.id := by
  rcases mem_allWrites member with written | rfl | ⟨entry, rfl⟩ | rfl
  · exact .inl written
  · cases logged
  · exact .inr (Option.some.inj logged).symm
  · exact .inr (Option.some.inj logged).symm

namespace Deed

open World

variable {world : World} {now : Int} {commander : Commander} {command : Command}
  {effects : Effects}

/-- The logs that a deed writes to are those of the mates that a message goes
to. -/
theorem logged (deed : Deed world.lookup now commander command effects)
    (rostered : world.Rostered) (filed : world.Filed)
    (snapshot : commander.membership = world.membershipOf commander.id) {other : PlayerId}
    (logs : ∃ change ∈ effects.writes, change.logged? = some other) :
    (∃ text, command = .corp (.say text)) ∧ world.Mates commander.id other := by
  obtain ⟨change, member, logged⟩ := logs
  have part := Write.logged_part logged
  have listed := deed.parts change member
  rw [part] at listed
  cases deed with
  | @announced raw line membership members _ belongs _ _ roster =>
    refine ⟨⟨raw, rfl⟩, ?_⟩
    cases roster
    rcases List.mem_cons.mp member with rfl | delivered
    · cases logged
    · obtain ⟨mate, recipient, written⟩ := List.mem_flatMap.mp delivered
      have addressed : mate.player = other := by
        rcases List.mem_cons.mp written with rfl | pruned
        · exact Option.some.inj logged
        · rw [List.mem_singleton.mp pruned] at logged
          exact Option.some.inj logged
      rw [← addressed]
      exact rostered.mates filed (snapshot ▸ belongs)
        ((List.mergeSort_perm _ _).mem_iff.mp recipient)
  | informed => cases member
  | incorporated =>
    rcases List.mem_cons.mp member with rfl | enrolled
    · cases logged
    · rw [List.mem_singleton.mp enrolled] at logged
      cases logged
  | enlisted | deposited | withdrew =>
    rw [List.mem_singleton.mp member] at logged
    cases logged
  | resigned =>
    rcases List.mem_append.mp member with handed | member
    · rw [Plan.handover_part handed] at part
      cases part
    · rcases List.mem_cons.mp member with rfl | dissolved
      · cases logged
      · rw [Plan.dissolution_part dissolved] at part
        cases part
  | _ => simp [Command.parts] at listed

/-- What a deed makes of the roster line of another player. -/
theorem memberOf?_others (deed : Deed world.lookup now commander command effects)
    (rostered : world.Rostered) (filed : world.Filed)
    (snapshot : commander.membership = world.membershipOf commander.id) {other : PlayerId}
    (different : other ≠ commander.id) :
    (world.writtenAll effects.writes).memberOf? other =
      (world.memberOf? other).map fun line =>
        if command = .corp .leave ∧ world.successor? commander.id = some line then
          { line with role := .leader }
        else line := by
  have unchanged : ∀ after : World, after.members = world.members → command ≠ .corp .leave →
      after.memberOf? other = (world.memberOf? other).map fun line =>
        if command = .corp .leave ∧ world.successor? commander.id = some line then
          { line with role := .leader }
        else line := by
    intro after members staying
    simp only [staying, false_and, if_false, Option.map_id']
    rw [memberOf?, members, memberOf?]
  have enrolled : ∀ after : World, ∀ line : Member, after.members = world.members ++ [line] →
      line.player = commander.id → command ≠ .corp .leave →
      after.memberOf? other = (world.memberOf? other).map fun line =>
        if command = .corp .leave ∧ world.successor? commander.id = some line then
          { line with role := .leader }
        else line := by
    intro after line members own staying
    simp only [staying, false_and, if_false, Option.map_id']
    have apart : (line.player == other) = false :=
      beq_false_of_ne fun same => different (same.symm.trans own)
    rw [memberOf?, members, List.find?_append, List.find?_singleton, apart, memberOf?]
    simp
  have original := deed
  cases deed with
  | informed informs =>
    refine unchanged _ rfl ?_
    rintro rfl
    cases informs
  | announced => exact unchanged _ announced_members (by simp)
  | incorporated => exact enrolled _ _ rfl rfl (by simp)
  | enlisted => exact enrolled _ _ rfl rfl (by simp)
  | deposited | withdrew => exact unchanged _ rfl (by simp)
  | @resigned membership members _ belongs roster =>
    cases roster
    have successor : world.successor? commander.id = Plan.heir membership commander.id
        (Member.sortByJoining (world.rosterOf membership.corp)) := by
      rw [successor?, ← snapshot, belongs]
      rfl
    simp only [true_and]
    refine rostered.memberOf?_departed filed different (snapshot ▸ belongs) ?_
    rw [successor, ← (List.mergeSort_perm _ _).length_eq]
    exact resigned_members
  | _ =>
    exact unchanged _ (original.members_apart (by simp [Command.parts])) (by simp)

/-- A message goes to the corporation of the commander. -/
theorem message_sent (deed : Deed world.lookup now commander command effects)
    {message : CorpMessage} (sent : Write.insertMessage message ∈ effects.writes) :
    ∃ membership, commander.membership = some membership ∧ message.corp = membership.corp := by
  have listed := deed.parts _ sent
  cases deed with
  | announced belongs =>
    rcases List.mem_cons.mp sent with same | delivered
    · cases same
      exact ⟨_, belongs, rfl⟩
    · cases Plan.delivery_part delivered
  | informed => cases sent
  | incorporated | enlisted | deposited | withdrew => simp [Effects.logged] at sent
  | resigned =>
    rcases List.mem_append.mp sent with handed | sent
    · cases Plan.handover_part handed
    · rcases List.mem_cons.mp sent with same | dissolved
      · cases same
      · cases Plan.dissolution_part dissolved
  | _ => simp [Command.parts, Write.part] at listed

/-- The messages to a corporation that the commander does not belong to stay. -/
theorem messages_others (deed : Deed world.lookup now commander command effects) (corp : CorpId)
    (foreign : ∀ membership, commander.membership = some membership → membership.corp ≠ corp) :
    (world.writtenAll effects.writes).messages.filter (fun message => message.corp == corp) =
      world.messages.filter fun message => message.corp == corp := by
  have sent : ∀ message, Write.insertMessage message ∈ effects.writes → message.corp ≠ corp := by
    intro message member
    obtain ⟨membership, belongs, same⟩ := deed.message_sent member
    rw [same]
    exact foreign membership belongs
  refine writtenAll_untouched (fun world => world.messages.filter fun message =>
    message.corp == corp) (fun change member world => ?_) world
  cases change with
  | insertMessage message => simp [written, List.filter_append, sent message member]
  | _ => rfl

/-- What a deed makes of a corporation that its commander does not belong to:
nothing, unless it is the one that the commander founds. -/
theorem corps_others (deed : Deed world.lookup now commander command effects)
    (rostered : world.Rostered) (filed : world.Filed)
    (snapshot : commander.membership = world.membershipOf commander.id) (corp : CorpId)
    (foreign : ∀ membership, commander.membership = some membership → membership.corp ≠ corp) :
    (world.writtenAll effects.writes).corps.get? corp = world.corps.get? corp ∨
      (∃ name, command = .corp (.create name)) ∧ world.corps.get? corp = none ∧
        ∃ line, (world.writtenAll effects.writes).memberOf? commander.id = some line ∧
          line.corp = corp := by
  have banked : ∀ {membership : Membership} {row after : Corporation},
      commander.membership = some membership → world.lookup.corp membership.corp = some row →
      after.id = row.id →
        (world.corps.insert after.id after).get? corp = world.corps.get? corp := by
    intro membership row after belongs found id
    have present : world.corps.get? membership.corp = some row := found
    have own : row.id = membership.corp := filed.corps _ _ present
    refine Table.get?_insert_of_ne _ _ ?_
    rw [id, own]
    exact (foreign membership belongs).symm
  have original := deed
  cases deed with
  | informed | enlisted => exact .inl rfl
  | announced => exact .inl (by rw [Effects.silent, announced_corps])
  | deposited belongs _ _ found => exact .inl (banked belongs found rfl)
  | withdrew belongs _ _ found => exact .inl (banked belongs found rfl)
  | resigned belongs =>
    refine .inl ?_
    rw [Effects.logged, resigned_corps]
    split
    · rw [Table.get?_erase, if_neg (foreign _ belongs).symm]
    · rfl
  | @incorporated raw name _ single =>
    by_cases new : corp = world.lastId + 1
    · refine .inr ⟨⟨raw, rfl⟩, ?_, ⟨world.lastId + 1, commander.id, .leader, now⟩, ?_, new.symm⟩
      · rw [new]
        exact filed.corpsUpTo.fresh
      · have free := rostered.memberOf?_of_single (snapshot ▸ single)
        change (world.members ++ [_]).find? _ = _
        rw [memberOf?] at free
        rw [List.find?_append, free]
        simp [World.lookup]
    · refine .inl ?_
      exact Table.get?_insert_of_ne _ _ new
  | _ => exact .inl (by rw [original.corps_apart (by simp [Command.parts])])

end Deed

/-- What a command of a player leaves to all others: the other players with
their scans, discoveries, logs and roster lines, all other sectors and all other
corporations. -/
structure World.Isolates (world : World) (player : PlayerId) (command : Command)
    (accepted : Bool) (after : World) : Prop where
  /-- If anything has changed, then not beyond the sector that the player is in
  now. -/
  spared : after = world ∨
    ∃ row, after.players.get? player = some row ∧ world.Spares player row.sector after
  /-- Only a message to the corporation reaches the logs of others. -/
  logs : ∀ other, other ≠ player → after.logOf other = world.logOf other ∨
    accepted = true ∧ (∃ text, command = .corp (.say text)) ∧ world.Mates player other
  /-- Only the successor of a leader who leaves gets another role. -/
  members : ∀ other, other ≠ player →
    after.memberOf? other = (world.memberOf? other).map fun line =>
      if accepted = true ∧ command = .corp .leave ∧ world.successor? player = some line then
        { line with role := .leader }
      else line
  /-- A corporation changes for a member, or comes to be for its founder. -/
  corps : ∀ corp, after.corps.get? corp = world.corps.get? corp ∨
    (∃ line, world.memberOf? player = some line ∧ line.corp = corp) ∨
    accepted = true ∧ (∃ name, command = .corp (.create name)) ∧
      world.corps.get? corp = none ∧
      ∃ line, after.memberOf? player = some line ∧ line.corp = corp
  messages : ∀ corp, (∀ line, world.memberOf? player = some line → line.corp ≠ corp) →
    after.messages.filter (fun message => message.corp == corp) =
      world.messages.filter fun message => message.corp == corp

section Requests

variable {settings : Settings} {now : Int} {player : PlayerId} {world after : World}
  {row : Player} {response : Response}

/-- A request that is not accepted writes to no log and to no corporation. -/
theorem World.Isolates.idle {command : Command}
    (spared : after = world ∨
      ∃ row, after.players.get? player = some row ∧ world.Spares player row.sector after)
    (logs : after.logs = world.logs) (members : after.members = world.members)
    (corps : after.corps = world.corps) (messages : after.messages = world.messages) :
    world.Isolates player command false after where
  spared := spared
  logs other _ := .inl (by rw [World.logOf, logs, World.logOf])
  members other _ := by
    rw [World.memberOf?, members, World.memberOf?]
    simp
  corps corp := .inl (by rw [corps])
  messages corp _ := by rw [messages]

/-- An accepted request leaves all others what a deed leaves them. -/
theorem Accepted.isolates {command : Command} {effects : Effects}
    (accepted : Accepted settings now player command world row effects response after)
    (rostered : world.Rostered) (filed : world.Filed)
    (spared : after = world ∨
      ∃ row, after.players.get? player = some row ∧ world.Spares player row.sector after) :
    world.Isolates player command true after := by
  have own : row.id = player := filed.players player row accepted.found
  obtain ⟨experience, logs, same⟩ := accepted.state own
  obtain ⟨turns, stamp, paid⟩ := command.paidBy_frame world settings now player row
  have deed := accepted.deed
  rw [paid] at deed
  have lined : ∀ membership, world.membershipOf player = some membership →
      ∃ line, world.memberOf? player = some line ∧ line.corp = membership.corp :=
    fun membership belongs => rostered.line_found filed belongs
  subst own
  refine { spared, logs := ?_, members := ?_, corps := ?_, messages := ?_ }
  · intro other different
    by_cases addressed : ∃ change ∈ effects.writes, change.logged? = some other
    · exact .inr ⟨rfl, deed.logged rostered filed rfl addressed⟩
    · refine .inl ?_
      rw [accepted.committed]
      refine World.logOf_writtenAll_of_ne (fun change member logged => ?_) world
      rcases Effects.logged_cases member logged with written | mine
      · exact addressed ⟨change, written, logged⟩
      · exact different (mine.trans deed.commander_id)
  · intro other different
    have others := deed.memberOf?_others rostered filed rfl different
    simp only [true_and]
    rw [same]
    exact others
  · intro corp
    rw [same]
    by_cases foreign : ∀ membership, world.membershipOf row.id = some membership →
        membership.corp ≠ corp
    · rcases deed.corps_others rostered filed rfl corp foreign with kept | founded
      · exact .inl kept
      · exact .inr (.inr ⟨rfl, founded⟩)
    · push Not at foreign
      obtain ⟨membership, belongs, employer⟩ := foreign
      obtain ⟨line, found, here⟩ := lined membership belongs
      exact .inr (.inl ⟨line, found, here.trans employer⟩)
  · intro corp foreign
    have others := deed.messages_others corp fun membership belongs employer => by
      obtain ⟨line, found, here⟩ := lined membership belongs
      exact foreign line found (here.trans employer)
    rw [same]
    exact others

end Requests

/-- A command leaves to all others what is theirs: their rows, scans and
discoveries always, their logs unless it is a message to their corporation, and
their roster lines unless they succeed a leader. That holds whatever comes of the
command, also where the storage gives out. -/
theorem others_are_isolated {storage after : Storage} (reachable : storage.world.Reachable)
    {settings : Settings} {now : Int} {player : PlayerId} {request : Request}
    {answer : Except StoreFailure Response}
    (executed : Storage.execute settings now player request storage = (answer, after)) :
    storage.world.Isolates player (.ofRequest request) (wasAccepted answer) after.world := by
  have filed := reachable.filed
  have spared := Storage.execute_spares filed executed
  rcases Storage.outcomes executed with ⟨failure, rfl, same⟩ | ⟨response, row, rfl, refused⟩ |
    ⟨response, row, effects, rfl, accepted⟩
  · rw [same]
    exact .idle (.inl rfl) rfl rfl rfl rfl
  · rw [wasAccepted, refused.refusal]
    have committed := refused.committed
    rw [committed] at spared ⊢
    exact .idle spared rfl rfl rfl rfl
  · rw [wasAccepted, accepted.accepted]
    exact accepted.isolates reachable.rostered filed spared

/-- The founder of the drill's corporation leaves it: the first recruit takes
over, and the other one notices nothing. -/
theorem others_are_isolated_handover :
    ∃ response after, Storage.execute Settings.standard 1000130 7
        (Drill.namedRequest "CORP" "LEAVE" "") (.ofWorld Drill.partnered) =
          (.ok response, after) ∧
      after.world.memberOf? 8 = some ⟨1, 8, .leader, 1000000⟩ ∧
      after.world.memberOf? 9 = some ⟨1, 9, .member, 1000000⟩ ∧
      after.world.players.get? 9 = Drill.partnered.players.get? 9 := by
  obtain ⟨response, final, executed, accepted⟩ :=
    Storage.execute_answered Drill.partnered_leave_accepted
  have reachable : (Storage.ofWorld Drill.partnered).world.Reachable := Drill.partnered_reachable
  have isolates : Drill.partnered.Isolates 7 (.ofRequest (Drill.namedRequest "CORP" "LEAVE" ""))
      (wasAccepted (.ok response)) final.world := others_are_isolated reachable executed
  have order : Command.ofRequest (Drill.namedRequest "CORP" "LEAVE" "") = .corp .leave := by
    decide +kernel
  have successor : Drill.partnered.successor? 7 = some ⟨1, 8, .member, 1000000⟩ := by
    have belongs : Drill.partnered.membershipOf 7 = some ⟨1, "Acme", .leader, 0⟩ := by
      decide +kernel
    rw [World.successor?, belongs, Option.bind_some, Drill.partnered_sorted]
    decide
  have bea : Drill.partnered.memberOf? 8 = some ⟨1, 8, .member, 1000000⟩ := by decide +kernel
  have cal : Drill.partnered.memberOf? 9 = some ⟨1, 9, .member, 1000000⟩ := by decide +kernel
  refine ⟨response, final, executed, ?_, ?_, ?_⟩
  · rw [isolates.members 8 (by decide), bea, wasAccepted, accepted, order, successor]
    rfl
  · rw [isolates.members 9 (by decide), cal, wasAccepted, accepted, order, successor]
    rfl
  · rcases isolates.spared with same | ⟨row, _, spares⟩
    · rw [same]
    · exact spares.players 9 (by decide)

end Starlane
