import Starlane.Proofs.Response
import Starlane.Proofs.Verdict
import Starlane.Proofs.Wording

/-!
# Recruits

A corporation's name is put on one line when it is founded, but only trimmed when
somebody joins. So the words with which a corporation was founded serve recruits as
well, in any case, if they were on one line already; else there is no corporation that
they find.
-/

namespace Starlane

variable {settings : Settings} {now : Int} {player : PlayerId} {world after : World}

/-! ## Names in use -/

namespace World

/-- Whether the names of all corporations would be accepted as they are. -/
def Named (world : World) : Prop :=
  ∀ id corp, world.corps.get? id = some corp → Naming.corpName corp.name = .ok corp.name

theorem Named.transfer (named : world.Named) (corps : after.corps = world.corps) :
    after.Named := by
  unfold Named
  rw [corps]
  exact named

/-- One more corporation, or another bank. -/
theorem Named.insert (named : world.Named) {key : CorpId} {row : Corporation}
    (corps : after.corps = world.corps.insert key row)
    (valid : Naming.corpName row.name = .ok row.name) : after.Named := by
  intro id corp found
  rw [corps, Table.get?_insert] at found
  split at found
  · cases found
    exact valid
  · exact named id corp found

/-- What is found by a name is a corporation, and has it. -/
theorem corpNamed_success (filed : world.Filed) {name : String} {corp : Corporation}
    (found : world.corpNamed name = some corp) :
    world.corps.get? corp.id = some corp ∧ Text.lower corp.name = Text.lower name := by
  unfold corpNamed at found
  dsimp only at found
  have own := List.find?_some found
  exact ⟨filed.corps.get?_of_mem (List.mem_of_find?_eq_some found), eq_of_beq own⟩

/-- Whoever has a name, in any case, is found by it. -/
theorem Rostered.corpNamed_of_lower (rostered : world.Rostered) (filed : world.Filed)
    {name : String} {corp : Corporation} (present : world.corps.get? corp.id = some corp)
    (same : Text.lower corp.name = Text.lower name) : world.corpNamed name = some corp := by
  cases found : world.corpNamed name with
  | none =>
    have listed : corp ∈ world.corps.values :=
      (Table.mem_values_iff _ _).mpr ⟨corp.id, present⟩
    have missed := List.find?_eq_none.mp found corp listed
    exact absurd same (by simpa using missed)
  | some other =>
    obtain ⟨there, own⟩ := corpNamed_success filed found
    have id := rostered.named _ _ other corp there present (own.trans same.symm)
    rw [id, present] at there
    exact there.symm

end World

/-- Every deed keeps names valid: a new one has been checked, and the others stay. -/
theorem Deed.named {commander : Commander} {command : Command} {effects : Effects}
    (deed : Deed world.lookup now commander command effects) (named : world.Named) :
    (world.writtenAll effects.writes).Named := by
  have original := deed
  cases deed with
  | informed | enlisted => exact named
  | announced => exact named.transfer announced_corps
  | incorporated _ accepted => exact named.insert rfl (Naming.corpName_idem accepted)
  | @resigned membership members =>
    intro id corp found
    rw [Effects.logged, resigned_corps] at found
    split at found
    · rw [Table.get?_erase] at found
      split at found
      · cases found
      · exact named id corp found
    · exact named id corp found
  | @deposited _ membership corp _ _ _ _ found | @withdrew _ membership corp _ _ _ _ found =>
    exact named.insert rfl (named membership.corp corp found)
  | _ => exact named.transfer (original.corps_apart (by simp [Command.parts]))

namespace World

theorem Named.step {what : Occurrence} (named : world.Named)
    (filed : world.Filed) (step : Step settings world what after) : after.Named := by
  cases step with
  | @join now id username => exact named.transfer (world.join_corps settings now id username).1
  | command executed =>
    rcases Storage.execute_cases executed with ⟨_, _, rfl⟩ | ⟨_, _, later, _, rfl, refused⟩ |
      ⟨_, row, _, later, _, rfl, accepted⟩
    · exact named
    · change later.Named
      rw [refused.committed]
      exact named.transfer rfl
    · obtain ⟨experience, logs, same⟩ := accepted.state (filed.players _ row accepted.found)
      refine (accepted.deed.named named).transfer ?_
      change later.corps = _
      rw [same]
  | portTick | planetTick | protectorateTick => exact named.transfer rfl
  | @eventTick γ _ now dice => exact named.transfer (world.eventTick_corps now dice).1

/-- The names of all corporations of a reachable world are valid. -/
theorem Reachable.named (reachable : world.Reachable) : world.Named := by
  induction reachable with
  | empty =>
    intro id corp found
    cases found
  | seed _ seeded ih => cases seeded <;> exact ih.transfer rfl
  | step before step ih => exact ih.step before.filed step

end World

/-! ## Founding -/

section Accepted

variable {command : Command} {raw : String} {row : Player} {effects : Effects}
  {response : Response}

/-- After an accepted request the player has the snapshot of the deed. -/
theorem Accepted.membership
    (accepted : Accepted settings now player command world row effects response after)
    (rostered : world.Rostered) (filed : world.Filed) :
    after.membershipOf player = effects.commander.membership := by
  obtain ⟨row, _, loaded⟩ := World.commander_success (accepted.reloaded rostered filed)
  have snapshot := congrArg Commander.membership loaded
  rw [Effects.rewarded_membership] at snapshot
  exact snapshot.symm

/-- A founder leads a new corporation with the name that was accepted. -/
theorem Accepted.founds
    (accepted : Accepted settings now player (.corp (.create raw)) world row effects response after)
    (rostered : world.Rostered) (filed : world.Filed) :
    ∃ name, Naming.corpName raw = .ok name ∧
      world.corps.get? (world.lastId + 1) = none ∧
      after.corps.get? (world.lastId + 1) = some ⟨world.lastId + 1, name, 0⟩ ∧
      after.membershipOf player = some ⟨world.lastId + 1, name, .leader, 0⟩ := by
  have snapshot := accepted.membership rostered filed
  obtain ⟨experience, logs, same⟩ := accepted.state (filed.players _ row accepted.found)
  have deed := accepted.deed
  cases deed with
  | informed asks => cases asks
  | @incorporated _ name text single named =>
    refine ⟨name, named, filed.corpsUpTo.fresh, ?_, snapshot⟩
    rw [same]
    exact Table.get?_insert_self _ _ _

/-- A recruit is an ordinary member of the corporation with the name. -/
theorem Accepted.recruits
    (accepted : Accepted settings now player (.corp (.join raw)) world row effects response after)
    (rostered : world.Rostered) (filed : world.Filed) :
    ∃ corp, world.corpNamed (Text.trim raw) = some corp ∧
      after.membershipOf player = some ⟨corp.id, corp.name, .member, corp.bank⟩ := by
  have snapshot := accepted.membership rostered filed
  have deed := accepted.deed
  cases deed with
  | informed asks => cases asks
  | @enlisted _ corp text single found => exact ⟨corp, found, snapshot⟩

end Accepted

/-! ## Joining -/

namespace Plan

variable {look : Lookup} {commander : Commander} {raw : String}

/-- Who has no corporation joins the one with the name, trimmed. -/
theorem joinCorp_found {corp : Corporation} (single : commander.membership = none)
    (worded : Text.trim raw ≠ "") (found : look.corpNamed (Text.trim raw) = some corp) :
    joinCorp look now commander raw = .ok (.logged
      { commander with membership := some ⟨corp.id, corp.name, .member, corp.bank⟩ }
      [.insertMember ⟨corp.id, commander.id, .member, now⟩] .action
      s!"Joined corporation '{corp.name}'.") := by
  have named : (!(Text.trim raw).isEmpty) = true := by simpa using worded
  unfold joinCorp
  simp only [single, named, found, require, expect, bind, Except.bind]
  rfl

theorem joinCorp_missing (single : commander.membership = none) (worded : Text.trim raw ≠ "")
    (missing : look.corpNamed (Text.trim raw) = none) :
    joinCorp look now commander raw = .error (.refused [] .corpNotFound) := by
  unfold joinCorp
  simp [single, worded, missing, require, expect, refuse, bind, Except.bind]

end Plan

theorem CorpOrder.ofRequest_name {request : Request} {name : String}
    (order : ofRequest request = .create name ∨ ofRequest request = .join name) :
    name = request.name := by
  unfold ofRequest at order
  split at order <;> simp_all

theorem Command.ofNormalized_corp {request : Request} {order : CorpOrder}
    (asks : ofNormalized request = .corp order) : CorpOrder.ofRequest request = order := by
  unfold ofNormalized at asks
  dsimp only at asks
  split at asks <;> simp_all

/-- A name to found or join a corporation with is the one in the request, trimmed. -/
theorem Command.corp_name {request : Request} {name : String}
    (asks : ofRequest request = .corp (.create name) ∨ ofRequest request = .corp (.join name)) :
    name = Text.trim request.name :=
  CorpOrder.ofRequest_name (asks.imp ofNormalized_corp ofNormalized_corp)

namespace Storage

variable {request : Request} {row : Player} {raw : String}

/-- The outcome of an attempt to join: such attempts cost nothing. -/
theorem outcome_joining (world : World) (settings : Settings) (now : Int) (player : PlayerId)
    (asks : Command.ofRequest request = .corp (.join raw))
    (free : row.mustChangePassword = false) :
    (Command.ofRequest request).outcome world.lookup now
        (world.present settings now player row) =
      (Plan.joinCorp world.lookup now
        ((Command.ofRequest request).paidBy (world.present settings now player row)) raw).map
          fun effects => effects.rewarded
            ((Command.ofRequest request).rewardFor (world.present settings now player row)) := by
  obtain ⟨turns, stamp, granted⟩ := row.regenerate_frame settings.turnRegenSeconds now
  have unbound : (world.present settings now player row).mustChangePassword = false := by
    change (row.regenerate settings.turnRegenSeconds now).1.mustChangePassword = false
    rw [granted]
    exact free
  have gratis : (Command.ofRequest request).costFor
      (world.present settings now player row) = 0 := by
    rw [asks, Command.costFor]
    split <;> rfl
  rw [Command.outcome_paid unbound (gratis ▸ Nat.zero_le _), asks]
  rfl

/-- Who joins under a name in use becomes a member. -/
theorem execute_joins (filed : world.Filed) (rostered : world.Rostered)
    (asks : Command.ofRequest request = .corp (.join raw))
    (found : world.players.get? player = some row) (free : row.mustChangePassword = false)
    (here : world.sectors.contains row.sector = true)
    (single : world.membershipOf player = none) (worded : Text.trim raw ≠ "")
    {corp : Corporation} (named : world.corpNamed (Text.trim raw) = some corp) :
    ∃ response after, execute settings now player request (ofWorld world) =
        (.ok response, after) ∧ response.ok = true ∧
      after.world.membershipOf player = some ⟨corp.id, corp.name, .member, corp.bank⟩ := by
  obtain ⟨turns, stamp, paid⟩ :=
    (Command.ofRequest request).paidBy_frame world settings now player row
  have planned := outcome_joining world settings now player asks free
  rw [paid, Plan.joinCorp_found single worded named] at planned
  obtain ⟨response, executed, _, granted⟩ := execute_performs filed rostered found planned (by
    rw [Effects.rewarded_player, Rank.award_frame]
    exact here)
  have accepted : response.ok = true := by
    rw [Response.ok, granted]
    rfl
  refine ⟨response, _, executed, accepted, ?_⟩
  obtain ⟨_, _, later, same, acceptance⟩ := execute_accepted executed accepted
  rw [asks] at acceptance
  obtain ⟨other, known, joined⟩ := acceptance.recruits rostered filed
  rw [named] at known
  cases known
  rw [same]
  exact joined

/-- Who tries to join under a name that nobody has is told so, and stays alone. -/
theorem execute_joins_missing (filed : world.Filed)
    (asks : Command.ofRequest request = .corp (.join raw))
    (found : world.players.get? player = some row) (free : row.mustChangePassword = false)
    (here : world.sectors.contains row.sector = true)
    (single : world.membershipOf player = none) (worded : Text.trim raw ≠ "")
    (missing : world.corpNamed (Text.trim raw) = none) :
    ∃ response after, execute settings now player request (ofWorld world) =
        (.ok response, after) ∧ response.refusal = some .corpNotFound ∧
      after.world.membershipOf player = none := by
  obtain ⟨turns, stamp, paid⟩ :=
    (Command.ofRequest request).paidBy_frame world settings now player row
  have planned := outcome_joining world settings now player asks free
  rw [paid, Plan.joinCorp_missing single worded missing] at planned
  obtain ⟨response, executed, _, refused⟩ := execute_refuses filed found planned here
  exact ⟨response, _, executed, refused, single⟩

end Storage

/-- With the words with which a corporation has been founded, in any case, another player
joins it if they were on one line already; else no corporation is found. -/
theorem recruits_find_one_line {founding joining : Request} {founder recruit : PlayerId}
    {response : Response} {storage : Storage} {row : Player} (reachable : world.Reachable)
    (creates : ∃ name, Command.ofRequest founding = .corp (.create name))
    (executed : Storage.execute settings now founder founding (.ofWorld world) =
      (.ok response, storage))
    (accepted : response.ok = true)
    (joins : ∃ name, Command.ofRequest joining = .corp (.join name))
    (same : Text.sameAscii founding.name joining.name = true)
    (found : storage.world.players.get? recruit = some row)
    (here : storage.world.sectors.contains row.sector = true)
    (free : row.mustChangePassword = false)
    (single : storage.world.membershipOf recruit = none) :
    ∃ corp : Corporation, world.corps.get? corp.id = none ∧
      storage.world.corps.get? corp.id = some corp ∧
      storage.world.membershipOf founder = some ⟨corp.id, corp.name, .leader, corp.bank⟩ ∧
      ∀ later, ∃ answer after,
        Storage.execute settings later recruit joining storage = (.ok answer, after) ∧
        if Text.singleLine (Text.trim founding.name) = Text.trim founding.name then
          answer.ok = true ∧
            after.world.membershipOf recruit = some ⟨corp.id, corp.name, .member, corp.bank⟩
        else
          answer.refusal = some .corpNotFound ∧ after.world.membershipOf recruit = none := by
  obtain ⟨raw, creates⟩ := creates
  obtain ⟨wanted, joins⟩ := joins
  obtain ⟨_, _, founded, rfl, acceptance⟩ := Storage.execute_accepted executed accepted
  have step := Step.command executed
  have after := World.Reachable.step reachable step
  have filed : founded.Filed := after.filed
  have rostered : founded.Rostered := after.rostered
  rw [creates] at acceptance
  obtain ⟨name, named, fresh, present, leads⟩ :=
    acceptance.founds reachable.rostered reachable.filed
  refine ⟨⟨world.lastId + 1, name, 0⟩, fresh, present, leads, fun later => ?_⟩
  rw [Command.corp_name (.inl creates), Naming.corpName_trim] at named
  have words : wanted = Text.trim joining.name := Command.corp_name (.inr joins)
  have trimmed : Text.trim wanted = Text.trim joining.name := by rw [words, Text.trim_trim]
  have worded : Text.trim wanted ≠ "" := trimmed ▸ Naming.trim_ne_empty named same
  have typed := Text.typed_trim (Naming.typed_of_corpName named)
  have lowered : Text.lower (Text.trim wanted) = Text.lower (Text.trim founding.name) := by
    rw [trimmed]
    exact Text.lower_trim_of_sameAscii same (Naming.typed_of_corpName named)
  split
  · next line =>
    have own : name = Text.trim founding.name := by
      rw [(Naming.corpName_success named).1, ← Text.singleLine_trim]
      exact line
    exact Storage.execute_joins filed rostered joins found free here single worded
      (rostered.corpNamed_of_lower filed present (by rw [own, lowered]))
  · next lines =>
    refine Storage.execute_joins_missing filed joins found free here single worded ?_
    rw [Option.eq_none_iff_forall_ne_some]
    intro corp known
    obtain ⟨there, called⟩ := World.corpNamed_success filed known
    have valid := after.named _ corp there
    have own := (Naming.corpName_success valid).1
    exact lines (Text.singleLine_of_lower (Naming.typed_of_corpName valid) typed
      (called.trans lowered) own.symm)

/-- The drill with a second pilot. -/
def Drill.paired : World :=
  (docked.join .standard startTime 8 "bea").2

theorem Drill.paired_reachable : paired.Reachable := by
  have bea : Step .standard docked (.joined 8) paired := .join (by decide)
  exact .step docked_reachable bea

/-- The second pilot joins what the first one has founded. -/
theorem recruits_find_one_line_acme :
    let created := Storage.execute Settings.standard Drill.startTime 7
      (Drill.namedRequest "CORP" "CREATE" " Acme Inc\t") (.ofWorld Drill.paired)
    ∃ corp : Corporation, created.2.world.corps.get? corp.id = some corp ∧
      ∀ later, ∃ answer after, Storage.execute Settings.standard later 8
        (Drill.namedRequest "CORP" "JOIN" " ACME inc\t") created.2 = (.ok answer, after) ∧
        answer.ok = true ∧
        after.world.membershipOf 8 = some ⟨corp.id, corp.name, .member, corp.bank⟩ := by
  intro created
  obtain ⟨response, storage, executed, accepted⟩ := Storage.execute_answered
    (show created.1.toOption.map Response.ok = some true by decide +kernel)
  have same : storage = created.2 := (congrArg Prod.snd executed).symm
  subst same
  obtain ⟨corp, _, founded, _, joins⟩ := recruits_find_one_line Drill.paired_reachable
    ⟨"Acme Inc", by decide +kernel⟩ executed accepted
    (show ∃ name, Command.ofRequest (Drill.namedRequest "CORP" "JOIN" " ACME inc\t") =
      .corp (.join name) from ⟨"ACME inc", by decide +kernel⟩)
    (by decide +kernel)
    (show created.2.world.players.get? 8 = some (Settings.standard.newPlayer 8 "bea" 1
      ⟨1, "Season 1", Drill.startTime⟩ Drill.startTime) by decide +kernel)
    (by decide +kernel) (by decide +kernel) (by decide +kernel)
  exact ⟨corp, founded, fun later => by
    obtain ⟨answer, after, answered, found⟩ := joins later
    rw [if_pos (by decide +kernel)] at found
    exact ⟨answer, after, answered, found⟩⟩

/-- With two spaces between words the first pilot founds, but the second one finds
nothing. -/
theorem wide_names_are_not_found :
    let created := Storage.execute Settings.standard Drill.startTime 7
      (Drill.namedRequest "CORP" "CREATE" "Iron  Hand") (.ofWorld Drill.paired)
    let joined := Storage.execute Settings.standard Drill.startTime 8
      (Drill.namedRequest "CORP" "JOIN" "Iron  Hand") created.2
    created.1.toOption.map Response.ok = some true ∧
      (created.2.world.players.get? 8).map (·.mustChangePassword) = some false ∧
      created.2.world.membershipOf 8 = none ∧
      joined.1.toOption.map Response.refusal = some (some .corpNotFound) ∧
      joined.2.world.membershipOf 8 = none := by
  decide +kernel

end Starlane
