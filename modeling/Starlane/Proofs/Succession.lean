import Starlane.Proofs.Roster

/-!
# Who follows a leader

A leader who leaves others behind hands over to the one of them who joined
first; among those who joined at the same time the roster's order of entry
decides. A corporation ends when its only member leaves, and never otherwise.
-/

namespace Starlane

namespace Member

/-- Whether a member is the first, in order of entry, of those who joined
earliest. -/
def Senior (member : Member) (members : List Member) : Prop :=
  ∃ before after, members = before ++ member :: after ∧
    (∀ other ∈ before, member.joinedAt < other.joinedAt) ∧
    ∀ other ∈ after, member.joinedAt ≤ other.joinedAt

theorem sortByJoining_sorted (members : List Member) :
    (sortByJoining members).Pairwise fun a b => a.joinedAt ≤ b.joinedAt := by
  have sorted : (members.mergeSort fun a b => decide (a.joinedAt ≤ b.joinedAt)).Pairwise
      fun a b => decide (a.joinedAt ≤ b.joinedAt) = true := List.pairwise_mergeSort
    (fun a b c ab bc => by simp only [decide_eq_true_eq] at *; omega)
    (fun a b => by simp only [Bool.or_eq_true, decide_eq_true_eq]; omega) members
  simpa [sortByJoining] using sorted

/-- Sorting is stable: of two members the one who entered first stays ahead,
unless the other joined earlier. -/
theorem sortByJoining_stable {members : List Member} {first second : Member}
    (order : [first, second].Sublist members) (early : first.joinedAt ≤ second.joinedAt) :
    [first, second].Sublist (sortByJoining members) :=
  List.pair_sublist_mergeSort
    (fun a b c ab bc => by simp only [decide_eq_true_eq] at *; omega)
    (fun a b => by simp only [Bool.or_eq_true, decide_eq_true_eq]; omega)
    (decide_eq_true early) order

/-- The first member of a sorted roster with some property is the senior of all
members with it. -/
theorem senior_of_find? {members : List Member} (distinct : members.Nodup) {p : Member → Bool}
    {heir : Member} (found : (sortByJoining members).find? p = some heir) :
    heir.Senior (members.filter p) := by
  have perm : (sortByJoining members).Perm members := List.mergeSort_perm _ _
  have head : ((sortByJoining members).filter p).head? = some heir := by
    rw [List.head?_filter, found]
  obtain ⟨rest, sorted⟩ : ∃ rest, (sortByJoining members).filter p = heir :: rest := by
    cases kept : (sortByJoining members).filter p with
    | nil => simp [kept] at head
    | cons first rest =>
      rw [kept] at head
      cases head
      exact ⟨rest, rfl⟩
  have earliest : ∀ other ∈ members.filter p, heir.joinedAt ≤ other.joinedAt := by
    intro other listed
    have pairs := (sortByJoining_sorted members).filter p
    rw [sorted] at pairs
    have present := (perm.filter p).mem_iff.mpr listed
    rw [sorted] at present
    rcases List.mem_cons.mp present with rfl | later
    · exact Int.le_refl _
    · exact (List.pairwise_cons.mp pairs).1 other later
  have listed : heir ∈ members.filter p := by
    rw [← (perm.filter p).mem_iff, sorted]
    exact .head _
  obtain ⟨before, after, parts⟩ := List.append_of_mem listed
  refine ⟨before, after, parts, fun other ahead => ?_, fun other behind => ?_⟩
  · -- Otherwise stability keeps the other one ahead of the heir, who is first.
    refine Int.not_le.mp fun early => ?_
    have order : [other, heir].Sublist (members.filter p) := by
      rw [parts]
      exact (List.singleton_sublist.mpr ahead).append (List.singleton_sublist.mpr (.head _))
    have kept := (sortByJoining_stable (order.trans List.filter_sublist) early).filter p
    have good : p other = true ∧ p heir = true := by
      constructor
      · exact (List.mem_filter.mp (order.subset (by simp))).2
      · exact (List.mem_filter.mp listed).2
    simp only [List.filter_cons, good.1, good.2, if_true, List.filter_nil, sorted] at kept
    have nodup := (perm.filter p).nodup_iff.mpr (distinct.filter p)
    rw [sorted] at nodup
    have absent := (List.nodup_cons.mp nodup).1
    cases kept with
    | cons _ later => exact absent (later.subset (by simp))
    | cons_cons _ later => exact absent (later.subset (by simp))
  · exact earliest other (parts ▸ List.mem_append_right _ (.tail _ behind))

/-- What never changes in a roster line: whose it is, and since when. -/
def entry (member : Member) : CorpId × PlayerId × Int :=
  (member.corp, member.player, member.joinedAt)

@[simp] theorem under_entry {corp : CorpId} {heir : Option Member} {member : Member} :
    (member.under corp heir).entry = member.entry := by
  unfold under
  split <;> rfl

end Member

/-- The step of an accepted command. -/
theorem Step.accepted {settings : Settings} {world after : World} {what : Occurrence}
    {player : PlayerId} {command : Command} (step : Step settings world what after)
    (happened : what = .commanded player command true) :
    ∃ now row effects response,
      Accepted settings now player command world row effects response after := by
  cases step with
  | @command now other request answer final executed =>
    obtain ⟨rfl, rfl, verdict⟩ := Occurrence.commanded.inj happened
    rcases Storage.execute_cases executed with ⟨_, rfl, _⟩ | ⟨_, _, _, rfl, _, refused⟩ |
      ⟨response, row, effects, later, rfl, rfl, accepted⟩
    · cases verdict
    · rw [wasAccepted, refused.refusal] at verdict
      cases verdict
    · exact ⟨now, row, effects, response, accepted⟩
  | _ => exact Occurrence.noConfusion happened

/-- What resigning takes and writes. -/
theorem Deed.resigning {look : Lookup} {now : Int} {commander : Commander} {effects : Effects}
    (deed : Deed look now commander (.corp .leave) effects) :
    ∃ membership members, commander.membership = some membership ∧
      look.members membership.corp = .ok members ∧
      effects.writes = Plan.handover membership commander.id members ++
        .deleteMember membership.corp commander.id :: Plan.dissolution membership members := by
  cases deed with
  | informed informs => cases informs
  | resigned belongs roster => exact ⟨_, _, belongs, roster, rfl⟩

section Leaving

variable {settings : Settings} {now : Int} {player : PlayerId} {command : Command}
  {world after : World} {row : Player} {effects : Effects} {response : Response}

/-- What leaving does to the corporations and to the rosters. -/
theorem Accepted.departed (filed : world.Filed)
    (accepted : Accepted settings now player (.corp .leave) world row effects response after) :
    ∃ membership, world.membershipOf player = some membership ∧
      after.corps = (if (world.rosterOf membership.corp).length ≤ 1 then
        world.corps.erase membership.corp else world.corps) ∧
      after.members = ((world.members.map (Member.under membership.corp
        (Plan.heir membership player
          (Member.sortByJoining (world.rosterOf membership.corp))))).filter fun member =>
            !World.isMember membership.corp player member).filter fun member =>
              decide (1 < (world.rosterOf membership.corp).length) ||
                member.corp != membership.corp := by
  have own : row.id = player := filed.players player row accepted.found
  obtain ⟨experience, logs, same⟩ := accepted.state own
  obtain ⟨membership, members, belongs, roster, writes⟩ := accepted.deed.resigning
  obtain ⟨turns, stamp, paid⟩ := Command.paidBy_frame (.corp .leave) world settings now player row
  rw [paid] at belongs writes
  have length : (Member.sortByJoining (world.rosterOf membership.corp)).length =
      (world.rosterOf membership.corp).length := (List.mergeSort_perm _ _).length_eq
  cases roster
  refine ⟨membership, belongs, ?_, ?_⟩
  · rw [same, writes, ← length]
    exact Deed.resigned_corps
  · rw [same, writes, ← length, ← own]
    exact World.resigned_members

/-- No other command ends a corporation. -/
theorem Accepted.corps_stay (filed : world.Filed)
    (accepted : Accepted settings now player command world row effects response after)
    (other : command ≠ .corp .leave) {corp : CorpId}
    (present : world.corps.contains corp = true) : after.corps.contains corp = true := by
  obtain ⟨experience, logs, same⟩ := accepted.state (filed.players player row accepted.found)
  have corps : after.corps = (world.writtenAll effects.writes).corps := by rw [same]
  have inserted : ∀ id row, (world.corps.insert id row).contains corp = true := by
    intro id row
    rw [Table.contains, Table.get?_insert]
    split
    · rfl
    · exact present
  have deed := accepted.deed
  have original := deed
  rw [corps]
  cases deed with
  | informed => exact present
  | announced => rw [Effects.silent, Deed.announced_corps]; exact present
  | incorporated | deposited | withdrew => exact inserted _ _
  | enlisted => exact present
  | resigned => exact absurd rfl other
  | _ => rw [original.corps_apart (by simp [Command.parts])]; exact present

end Leaving

namespace World

/-- The entries of all rosters, in order. -/
def entries (world : World) : List (CorpId × PlayerId × Int) :=
  world.members.map Member.entry

/-- Whether the rosters lost lines, or got one more behind all others. -/
def EnteredSince (world after : World) : Prop :=
  after.entries.Sublist world.entries ∨ ∃ entry, after.entries = world.entries ++ [entry]

theorem EnteredSince.of_members {world after : World} (same : after.members = world.members) :
    world.EnteredSince after := by
  refine .inl ?_
  rw [entries, same]
  exact .refl _

end World

/-- A deed enters its commander behind all others, if at all. -/
theorem Deed.entered {world : World} {now : Int} {commander : Commander} {command : Command}
    {effects : Effects} (deed : Deed world.lookup now commander command effects) :
    world.EnteredSince (world.writtenAll effects.writes) := by
  have original := deed
  cases deed with
  | informed => exact .of_members rfl
  | announced => exact .of_members announced_members
  | incorporated => exact .inr ⟨_, List.map_append⟩
  | enlisted => exact .inr ⟨_, List.map_append⟩
  | deposited | withdrew => exact .of_members rfl
  | @resigned membership members =>
    refine .inl ?_
    have kept : (world.members.map (Member.under membership.corp
        (Plan.heir membership commander.id members))).map Member.entry = world.entries := by
      simp [World.entries, Function.comp_def]
    rw [World.entries, Effects.logged, World.resigned_members, ← kept]
    exact (List.filter_sublist.trans List.filter_sublist).map _
  | _ => exact .of_members (original.members_apart (by simp [Command.parts]))

namespace World

variable {world after : World} {settings : Settings} {what : Occurrence}

/-- A corporation ends exactly when its only member leaves. -/
theorem dissolved_iff (rostered : world.Rostered) (filed : world.Filed)
    (step : Step settings world what after) {corp : CorpId}
    (present : world.corps.contains corp = true) :
    after.corps.get? corp = none ↔
      ∃ member, world.rosterOf corp = [member] ∧
        what = .commanded member.player (.corp .leave) true := by
  constructor
  · intro gone
    have missing : after.corps.contains corp = false := by rw [Table.contains, gone]; rfl
    have stays : after.corps = world.corps → False := by
      intro same
      rw [same, present] at missing
      cases missing
    cases step with
    | join => exact absurd (world.join_corps _ _ _ _).1 stays
    | portTick | planetTick | protectorateTick => exact absurd rfl stays
    | @eventTick γ _ now dice => exact absurd (world.eventTick_corps now dice).1 stays
    | @command now player request answer final executed =>
      rcases Storage.execute_cases executed with ⟨_, _, rfl⟩ | ⟨_, _, later, _, rfl, refused⟩ |
        ⟨response, row, effects, later, rfl, rfl, accepted⟩
      · exact absurd rfl stays
      · refine absurd ?_ stays
        change later.corps = _
        rw [refused.committed]
        rfl
      · have verdict : wasAccepted (.ok response) = true := accepted.accepted
        rw [verdict]
        by_cases leaving : Command.ofRequest request = .corp .leave
        · rw [leaving] at accepted ⊢
          obtain ⟨membership, belongs, corps, _⟩ := accepted.departed filed
          obtain ⟨line, _, listed, own, _⟩ := rostered.membership_line filed belongs
          change later.corps.get? corp = none at gone
          by_cases few : (world.rosterOf membership.corp).length ≤ 1
          · rw [corps, if_pos few, Table.get?_erase] at gone
            split at gone
            · next same =>
              obtain ⟨only, single⟩ := List.length_eq_one_iff.mp
                (Nat.le_antisymm few (List.length_pos_of_mem listed))
              rw [single, List.mem_singleton] at listed
              exact ⟨only, same ▸ single, by rw [← listed, own]⟩
            · rw [Table.contains, gone] at present
              cases present
          · exact absurd (corps.trans (if_neg few)) stays
        · have kept := accepted.corps_stay filed leaving present
          change later.corps.contains corp = false at missing
          rw [missing] at kept
          cases kept
  · rintro ⟨member, single, rfl⟩
    obtain ⟨now, row, effects, response, accepted⟩ := step.accepted rfl
    obtain ⟨membership, belongs, corps, _⟩ := accepted.departed filed
    have listed : member ∈ world.rosterOf corp := by rw [single]; exact .head _
    obtain ⟨line, _, lined, own, _⟩ := rostered.membership_line filed belongs
    have same := rostered.same_line (mem_rosterOf.mp lined).1 (mem_rosterOf.mp listed).1 own
    have here : membership.corp = corp := by
      rw [← (mem_rosterOf.mp lined).2, same, (mem_rosterOf.mp listed).2]
    have alone : (world.rosterOf corp).length ≤ 1 := by simp [single]
    rw [corps, here, if_pos alone, Table.get?_erase, if_pos rfl]

/-- The other members of a member's corporation, in order of entry. -/
def colleagues (world : World) (member : Member) : List Member :=
  (world.rosterOf member.corp).filter fun other => other.player != member.player

/-- The roster that a leaver leaves to others. -/
theorem departed_roster (rostered : world.Rostered) {corp : CorpId} {leaver : PlayerId}
    {heir : Member} (among : heir ∈ world.rosterOf corp)
    (members : after.members = (world.members.map (Member.under corp (some heir))).filter
      fun member => !isMember corp leaver member) :
    after.rosterOf corp = ((world.rosterOf corp).filter fun member => member.player != leaver).map
      fun member => if member = heir then { member with role := .leader } else member := by
  obtain ⟨enrolled, employed⟩ := mem_rosterOf.mp among
  simp only [rosterOf, members, List.filter_filter, List.filter_map, Function.comp_def]
  have kept : ∀ member : Member,
      ((member.under corp (some heir)).corp == corp &&
          !isMember corp leaver (member.under corp (some heir))) =
        (member.player != leaver && member.corp == corp) := by
    intro member
    by_cases here : member.corp = corp
    · simp [isMember, here, bne]
    · have apart : (member.corp == corp) = false := beq_false_of_ne here
      simp [apart]
  simp only [kept]
  refine List.map_congr_left fun member listed => ?_
  obtain ⟨before, stays⟩ := List.mem_filter.mp listed
  have here : member.corp = corp := by simp_all
  unfold Member.under
  by_cases same : member = heir
  · simp [same, isMember, employed]
  · have other : member.player ≠ heir.player := fun player =>
      same (rostered.same_line before enrolled player)
    simp [same, isMember, other]

/-- A leader who leaves others behind makes the senior of them leader; their
other lines stay as they were. -/
theorem succeeded (rostered : world.Rostered) (filed : world.Filed) {leader : Member}
    (listed : leader ∈ world.members) (leads : leader.role = .leader)
    (step : Step settings world (.commanded leader.player (.corp .leave) true) after)
    (others : world.colleagues leader ≠ []) :
    ∃ heir : Member, heir.Senior (world.colleagues leader) ∧
      after.rosterOf leader.corp = (world.colleagues leader).map fun member =>
        if member = heir then { member with role := .leader } else member := by
  obtain ⟨now, row, effects, response, accepted⟩ := step.accepted rfl
  obtain ⟨membership, belongs, _, members⟩ := accepted.departed filed
  obtain ⟨line, _, lined, own, role, _⟩ := rostered.membership_line filed belongs
  obtain ⟨enrolled, employer⟩ := mem_rosterOf.mp lined
  have same := rostered.same_line enrolled listed own
  rw [same] at employer role lined
  have several : 1 < (world.rosterOf membership.corp).length := by
    have fewer : (world.colleagues leader).length < (world.rosterOf leader.corp).length :=
      List.length_filter_lt_length_iff_exists.mpr ⟨leader, employer ▸ lined, by simp⟩
    have remain := List.length_pos_iff.mpr others
    rw [← employer]
    omega
  obtain ⟨heir, inherits, among, _⟩ :=
    rostered.heir_exists (role.symm.trans leads) leader.player several
  simp only [inherits, several, decide_true, Bool.true_or, List.filter_true] at members
  rw [← employer] at members among inherits
  refine ⟨heir, ?_, departed_roster rostered among members⟩
  unfold Plan.heir at inherits
  split at inherits
  · exact Member.senior_of_find? (rostered.roster_single _).of_map inherits
  · cases inherits

/-- Every step keeps the rosters in order of entry. -/
theorem entered (filed : world.Filed) (step : Step settings world what after) :
    world.EnteredSince after := by
  cases step with
  | @join now id username => exact .of_members (world.join_corps settings now id username).2
  | command executed =>
    rcases Storage.execute_cases executed with ⟨_, _, rfl⟩ | ⟨_, _, later, _, rfl, refused⟩ |
      ⟨_, row, _, later, _, rfl, accepted⟩
    · exact .of_members rfl
    · refine .of_members ?_
      change later.members = _
      rw [refused.committed]
      rfl
    · obtain ⟨experience, logs, same⟩ :=
        accepted.state (filed.players _ row accepted.found)
      have entered := accepted.deed.entered
      rw [same]
      exact entered
  | portTick | planetTick | protectorateTick => exact .of_members rfl
  | @eventTick γ _ now dice => exact .of_members (world.eventTick_corps now dice).2

end World

/-- Corporations are led at all times: each has one leader, their members have
no other corporation, and names and banks are in order. Rosters are in order of
entry; a leader is followed by the senior of the members left behind, and a
corporation ends when its only member leaves. -/
theorem corporations_stay_led {world : World} (reachable : world.Reachable) :
    world.Rostered ∧ ∀ (settings : Settings) (what : Occurrence) (after : World),
      Step settings world what after →
        world.EnteredSince after ∧
        (∀ leader ∈ world.members, leader.role = .leader → world.colleagues leader ≠ [] →
          what = .commanded leader.player (.corp .leave) true →
            ∃ heir : Member, heir.Senior (world.colleagues leader) ∧
              after.rosterOf leader.corp = (world.colleagues leader).map fun member =>
                if member = heir then { member with role := .leader } else member) ∧
        ∀ corp, world.corps.contains corp = true →
          (after.corps.get? corp = none ↔ ∃ member, world.rosterOf corp = [member] ∧
            what = .commanded member.player (.corp .leave) true) := by
  have rostered := reachable.rostered
  have filed := reachable.filed
  refine ⟨rostered, fun settings what after step => ⟨World.entered filed step, ?_, ?_⟩⟩
  · rintro leader listed leads others rfl
    exact World.succeeded rostered filed listed leads step others
  · exact fun corp present => World.dissolved_iff rostered filed step present

theorem Drill.partnered_sorted : Member.sortByJoining (partnered.rosterOf 1) =
    [⟨1, 8, .member, 1000000⟩, ⟨1, 9, .member, 1000000⟩, ⟨1, 7, .leader, 1000005⟩] := by
  have roster : partnered.rosterOf 1 =
      [⟨1, 7, .leader, 1000005⟩, ⟨1, 8, .member, 1000000⟩, ⟨1, 9, .member, 1000000⟩] := by
    decide +kernel
  rw [roster]
  simp [Member.sortByJoining, List.mergeSort]

theorem Drill.partnered_leave_accepted :
    (Storage.execute Settings.standard 1000130 7 (namedRequest "CORP" "LEAVE" "")
      (.ofWorld partnered)).1.toOption.map Response.ok = some true := by
  -- The sort does not compute in the kernel: its result is put in its place.
  have look : partnered.lookup = { partnered.lookup with
      members := Function.update partnered.lookup.members 1 (.ok
        [⟨1, 8, .member, 1000000⟩, ⟨1, 9, .member, 1000000⟩, ⟨1, 7, .leader, 1000005⟩]) } := by
    rw [← partnered_sorted]
    change _ = { partnered.lookup with
      members := Function.update partnered.lookup.members 1 (partnered.lookup.members 1) }
    rw [Function.update_eq_self]
  unfold Storage.execute Storage.transaction Store.execute
  simp only [Store.lookup, Storage.ofWorld]
  rw [look]
  decide +kernel

/-- The founder of the drill's corporation leaves it to the first recruit. -/
theorem corporations_stay_led_handover :
    ∃ after, Step Settings.standard Drill.partnered (.commanded 7 (.corp .leave) true) after ∧
      (after.rosterOf 1).map (fun member => (member.player, member.role)) =
        [(8, .leader), (9, .member)] := by
  obtain ⟨response, final, executed, accepted⟩ :=
    Storage.execute_answered Drill.partnered_leave_accepted
  have order : Command.ofRequest (Drill.namedRequest "CORP" "LEAVE" "") = .corp .leave := by
    decide +kernel
  have step := Step.command executed
  rw [order, wasAccepted, accepted] at step
  have listed : (⟨1, 7, .leader, 1000005⟩ : Member) ∈ Drill.partnered.members := by
    decide +kernel
  have crew : Drill.partnered.colleagues ⟨1, 7, .leader, 1000005⟩ =
      [⟨1, 8, .member, 1000000⟩, ⟨1, 9, .member, 1000000⟩] := by decide +kernel
  obtain ⟨heir, ⟨before, behind, parts, later, _⟩, roster⟩ :=
    ((corporations_stay_led Drill.partnered_reachable).2 _ _ _ step).2.1 _ listed rfl
      (by simp [crew]) rfl
  refine ⟨final.world, step, ?_⟩
  rw [crew] at parts roster
  match before with
  | [] =>
    obtain ⟨rfl, rfl⟩ := List.cons.inj parts
    rw [roster]
    rfl
  | [first] =>
    obtain ⟨rfl, rest⟩ := List.cons.inj parts
    obtain ⟨rfl, _⟩ := List.cons.inj rest
    exact absurd (later _ (.head _)) (by decide)
  | _ :: _ :: _ => simp at parts

end Starlane
