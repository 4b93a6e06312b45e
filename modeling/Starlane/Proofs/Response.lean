import Starlane.Proofs.Roster

/-!
# What a response says

A response is put together from the commander of the deed, with a snapshot of
the corporation that the deed itself has brought up to date. It agrees with the
state after the command: the snapshot is what a new load of the player finds.
-/

namespace Starlane

namespace World

variable {world after : World}

theorem membershipOf_congr (members : after.members = world.members)
    (corps : after.corps = world.corps) (player : PlayerId) :
    after.membershipOf player = world.membershipOf player := by
  simp only [membershipOf, memberOf?, members, corps]

/-- The snapshot of a recruit. -/
theorem membershipOf_enrolled {id : CorpId} {player : PlayerId} {role : Role} {time : Int}
    {corp : Corporation} (lines : after.members = world.members ++ [⟨id, player, role, time⟩])
    (free : world.memberOf? player = none) (found : after.corps.get? id = some corp) :
    after.membershipOf player = some ⟨corp.id, corp.name, role, corp.bank⟩ := by
  have line : after.memberOf? player = some ⟨id, player, role, time⟩ := by
    unfold memberOf? at free
    simp [memberOf?, lines, List.find?_append, free]
  simp [membershipOf, line, found]

/-- The snapshot after another balance was saved. -/
theorem membershipOf_rebanked (filed : world.Filed) {membership : Membership}
    {player : PlayerId} {corp : Corporation} {bank : Int}
    (belongs : world.membershipOf player = some membership)
    (found : world.corps.get? membership.corp = some corp) :
    (world.written (.saveCorp { corp with bank })).membershipOf player =
      some { membership with bank } := by
  have own : corp.id = membership.corp := filed.corps _ corp found
  cases line : world.memberOf? player with
  | none => simp [membershipOf, line] at belongs
  | some member =>
    cases employer : world.corps.get? member.corp with
    | none => simp [membershipOf, line, employer] at belongs
    | some row =>
      have id : row.id = member.corp := filed.corps _ row employer
      have snapshot : (⟨row.id, row.name, member.role, row.bank⟩ : Membership) = membership := by
        simpa [membershipOf, line, employer] using belongs
      have same : member.corp = membership.corp := by rw [← id, ← snapshot]
      rw [same, found] at employer
      cases employer
      change (world.memberOf? player).bind (fun member =>
        ((world.corps.insert corp.id { corp with bank }).get? member.corp).bind _) = _
      rw [line, Option.bind_some, same, own, Table.get?_insert_self, ← snapshot]
      rfl

/-- Who has left has no snapshot. -/
theorem membershipOf_resigned (rostered : world.Rostered) (filed : world.Filed)
    {membership : Membership} {leaver : PlayerId} (heir : Option Member)
    (belongs : world.membershipOf leaver = some membership)
    (lines : ∀ line ∈ after.members, line ∈ (world.members.map
      (Member.under membership.corp heir)).filter fun member =>
        !isMember membership.corp leaver member) :
    after.membershipOf leaver = none := by
  have gone : after.memberOf? leaver = none := by
    refine memberOf?_eq_none.mpr fun line listed own => ?_
    obtain ⟨among, stays⟩ := List.mem_filter.mp (lines line listed)
    obtain ⟨member, before, rfl⟩ := List.mem_map.mp among
    obtain ⟨old, _, lined, player, _⟩ := rostered.membership_line filed belongs
    obtain ⟨enrolled, employer⟩ := mem_rosterOf.mp lined
    rw [Member.under_player] at own
    have same := rostered.same_line before enrolled (own.trans player.symm)
    simp [isMember, same, employer, player] at stays
  simp [membershipOf, gone]

end World

/-- A reward leaves the snapshot alone. -/
theorem Effects.rewarded_membership (effects : Effects) (experience : Int) :
    (effects.rewarded experience).commander.membership = effects.commander.membership := by
  unfold rewarded
  dsimp only
  split <;> rfl

/-- Who gives no order about a corporation keeps the snapshot. -/
theorem Deed.membership_apart {look : Lookup} {now : Int} {commander : Commander}
    {command : Command} {effects : Effects} (deed : Deed look now commander command effects)
    (apart : Part.corps ∉ command.parts) :
    effects.commander.membership = commander.membership := by
  cases deed with
  | incorporated | enlisted | resigned | deposited | withdrew => exact absurd (.head _) apart
  | moved => rw [Plan.arrival_eq]
  | _ => rfl

theorem Deed.snapshot_apart {world : World} {now : Int} {commander : Commander}
    {command : Command} {effects : Effects}
    (deed : Deed world.lookup now commander command effects) (apart : Part.corps ∉ command.parts)
    (snapshot : commander.membership = world.membershipOf commander.id) :
    (world.writtenAll effects.writes).membershipOf commander.id =
      effects.commander.membership := by
  rw [World.membershipOf_congr (deed.members_apart apart) (deed.corps_apart apart),
    deed.membership_apart apart, snapshot]

/-- The snapshot of the commander after a deed is what a new load finds. -/
theorem Deed.snapshot {world : World} {now : Int} {commander : Commander} {command : Command}
    {effects : Effects} (deed : Deed world.lookup now commander command effects)
    (rostered : world.Rostered) (filed : world.Filed)
    (snapshot : commander.membership = world.membershipOf commander.id) :
    (world.writtenAll effects.writes).membershipOf commander.id =
      effects.commander.membership := by
  have original := deed
  cases deed with
  | informed => exact snapshot.symm
  | announced =>
    exact (World.membershipOf_congr announced_members announced_corps _).trans snapshot.symm
  | incorporated single =>
    exact (World.membershipOf_enrolled rfl (rostered.memberOf?_of_single (snapshot ▸ single))
      (Table.get?_insert_self _ _ _)).trans rfl
  | enlisted single found =>
    exact World.membershipOf_enrolled rfl (rostered.memberOf?_of_single (snapshot ▸ single))
      (filed.corps.get?_of_mem (List.mem_of_find?_eq_some found))
  | @resigned membership members _ belongs =>
    refine World.membershipOf_resigned rostered filed
      (Plan.heir membership commander.id members) (snapshot ▸ belongs) fun line listed => ?_
    rw [Effects.logged, World.resigned_members] at listed
    exact (List.mem_filter.mp listed).1
  | deposited belongs _ _ found | withdrew belongs _ _ found =>
    refine (World.membershipOf_rebanked filed (snapshot ▸ belongs) found).trans ?_
    simp [Effects.logged, Plan.withBank, belongs]
  | _ => exact original.snapshot_apart (by simp [Command.parts]) snapshot

/-- After an accepted request the player is loaded as the commander of the
deed, with the reward. -/
theorem Accepted.reloaded {settings : Settings} {now : Int} {player : PlayerId}
    {command : Command} {world after : World} {row : Player} {effects : Effects}
    {response : Response}
    (accepted : Accepted settings now player command world row effects response after)
    (rostered : world.Rostered) (filed : world.Filed) :
    after.commander player = .ok (effects.rewarded
      (command.rewardFor (world.present settings now player row))).commander := by
  have own : row.id = player := filed.players player row accepted.found
  obtain ⟨logs, same⟩ := accepted.tables
  obtain ⟨turns, stamp, paid⟩ := command.paidBy_frame world settings now player row
  have id : effects.commander.id = player := by
    rw [accepted.deed.commander_id, paid]
    exact own
  have snapshot : after.membershipOf player = effects.commander.membership := by
    have kept := accepted.deed.snapshot rostered filed (by
      rw [paid]
      exact congrArg world.membershipOf own.symm)
    rw [← accepted.deed.commander_id, id] at kept
    rw [same]
    exact kept
  have found : after.players.get? player = some (effects.rewarded
      (command.rewardFor (world.present settings now player row))).commander.toPlayer := by
    rw [same, Effects.rewarded_player, id]
    exact Table.get?_insert_self _ _ _
  unfold World.commander
  rw [found, snapshot, ← Effects.rewarded_membership effects]

/-- After a refused request the player is loaded with the grant of turns. -/
theorem Refused.reloaded {settings : Settings} {now : Int} {player : PlayerId}
    {world after : World} {row : Player} {response : Response}
    (refused : Refused settings now player world row response after) (filed : world.Filed) :
    after.commander player = .ok (world.present settings now player row) := by
  have own : row.id = player := filed.players player row refused.found
  have found : after.players.get? player =
      some (row.regenerate settings.turnRegenSeconds now).1 := by
    rw [refused.committed, World.written, Player.regenerate_id, own]
    exact Table.get?_insert_self _ _ _
  have snapshot : after.membershipOf player = world.membershipOf player := by
    rw [refused.committed]
    rfl
  unfold World.commander
  rw [found, snapshot]
  rfl

/-- Every response describes the state after the command: the player as loaded
again, the view of their sector at the same time, and the newest lines of their
log. -/
theorem response_describes_state {settings : Settings} {now : Int} {player : PlayerId}
    {request : Request} {world : World} {response : Response} {after : Storage}
    (reachable : world.Reachable)
    (executed : Storage.execute settings now player request (.ofWorld world) =
      (.ok response, after)) :
    ∃ commander, after.world.commander player = .ok commander ∧
      response.status = .ofCommander commander ∧
      after.world.lookup.view commander.sector now = .ok response.sector ∧
      after.world.lookup.recentLogs player (max 1 (min settings.recentLogLimit 50)) =
        .ok response.logs := by
  have rostered := reachable.rostered
  have filed := reachable.filed
  have later : after.world.Filed := (World.Reachable.step reachable (.command executed)).filed
  obtain ⟨commander, loaded, responded⟩ : ∃ commander,
      after.world.commander player = .ok commander ∧
      after.world.lookup.respond (Settings.shownLogs settings.recentLogLimit) now commander
        response.message response.refusal = .ok response := by
    rcases Storage.execute_cases executed with ⟨_, failed, _⟩ | ⟨_, _, _, answer, rfl, refused⟩ |
      ⟨_, _, _, _, answer, rfl, accepted⟩
    · cases failed
    · cases answer
      exact ⟨_, refused.reloaded filed, refused.responded⟩
    · cases answer
      exact ⟨_, accepted.reloaded rostered filed, accepted.responded⟩
  obtain ⟨_, _, status, viewed, logged⟩ := Lookup.respond_success responded
  obtain ⟨row, found, rfl⟩ := World.commander_success loaded
  refine ⟨_, loaded, status, viewed, ?_⟩
  rw [← later.players player row found]
  exact logged

/-- The founder of the drill's corporation pays into its bank, and is told the
new balance. -/
theorem response_describes_state_deposit :
    ∃ response after commander,
      Storage.execute Settings.standard 1000130 7
        { Request.ofKind "CORP" with action := "DEPOSIT", quantity := 100 }
        (.ofWorld Drill.partnered) = (.ok response, after) ∧
      after.world.commander 7 = .ok commander ∧ response.status = .ofCommander commander ∧
      response.status.membership.map (·.bank) = some 100 := by
  obtain ⟨response, after, executed, _⟩ := Storage.execute_answered
    (show (Storage.execute Settings.standard 1000130 7
      { Request.ofKind "CORP" with action := "DEPOSIT", quantity := 100 }
      (.ofWorld Drill.partnered)).1.toOption.map Response.ok = some true by decide +kernel)
  obtain ⟨commander, loaded, status, _⟩ :=
    response_describes_state Drill.partnered_reachable executed
  refine ⟨response, after, commander, executed, loaded, status, ?_⟩
  have told : (Storage.execute Settings.standard 1000130 7
      { Request.ofKind "CORP" with action := "DEPOSIT", quantity := 100 }
      (.ofWorld Drill.partnered)).1.toOption.bind (fun response =>
        response.status.membership.map (·.bank)) = some 100 := by decide +kernel
  rw [executed] at told
  exact told

end Starlane
