import Mathlib.Data.List.Nodup
import Starlane.Proofs.Ledger

/-!
# Rosters and their corporations

A corporation has exactly one leader, a roster line belongs to a corporation
that exists, and a player has one line at most. A deed about a corporation
keeps this: founding enters the founder as leader, joining adds an ordinary
member, and leaving hands over, or dissolves, before the line is gone.
-/

namespace Starlane

namespace Plan

/-- Who takes over when a leader leaves: the first other member of the roster. -/
def heir (membership : Membership) (leaver : PlayerId) (members : List Member) : Option Member :=
  if membership.role = .leader ∧ 1 < members.length then
    members.find? fun member => member.player != leaver
  else none

theorem handover_eq (membership : Membership) (leaver : PlayerId) (members : List Member) :
    handover membership leaver members =
      (heir membership leaver members).toList.map fun heir =>
        .setRole membership.corp heir.player .leader := by
  unfold handover heir
  split
  · next found => rw [found]; rfl
  · next none => rw [none]; rfl

/-- An heir is on the roster. -/
theorem heir_mem {membership : Membership} {leaver : PlayerId} {members : List Member}
    {successor : Member} (inherits : heir membership leaver members = some successor) :
    successor ∈ members := by
  unfold heir at inherits
  split at inherits
  · exact List.mem_of_find?_eq_some inherits
  · cases inherits

end Plan

namespace Member

/-- A roster line after an heir, if any, has taken over a corporation. -/
def under (corp : CorpId) (heir : Option Member) (member : Member) : Member :=
  if heir.any (fun heir => World.isMember corp heir.player member) then
    { member with role := .leader }
  else member

variable {corp : CorpId} {heir : Option Member} {member : Member}

@[simp] theorem under_corp : (member.under corp heir).corp = member.corp := by
  unfold under
  split <;> rfl

@[simp] theorem under_player : (member.under corp heir).player = member.player := by
  unfold under
  split <;> rfl

@[simp] theorem under_none : member.under corp none = member := rfl

/-- The lines of other corporations stay. -/
theorem under_of_ne (other : member.corp ≠ corp) : member.under corp heir = member := by
  unfold under
  rw [if_neg]
  cases heir <;> simp [World.isMember, other]

end Member

namespace World

variable {world : World}

/-- What holds of rosters and corporations. -/
structure Rostered (world : World) : Prop where
  single : (world.members.map (·.player)).Nodup
  employed : ∀ member ∈ world.members, world.corps.contains member.corp = true
  led : ∀ corp, world.corps.contains corp = true →
    ∃! leader, leader ∈ world.rosterOf corp ∧ leader.role = .leader
  named : ∀ first second a b, world.corps.get? first = some a →
    world.corps.get? second = some b → Text.lower a.name = Text.lower b.name → first = second
  funded : ∀ id corp, world.corps.get? id = some corp → 0 ≤ corp.bank

theorem mem_rosterOf {corp : CorpId} {member : Member} :
    member ∈ world.rosterOf corp ↔ member ∈ world.members ∧ member.corp = corp := by
  simp [rosterOf]

theorem isMember_iff {corp : CorpId} {player : PlayerId} {member : Member} :
    isMember corp player member = true ↔ member.corp = corp ∧ member.player = player := by
  simp [isMember]

theorem contains_iff {corp : CorpId} :
    world.corps.contains corp = true ↔ ∃ row, world.corps.get? corp = some row :=
  Option.isSome_iff_exists

theorem Rostered.empty : World.empty.Rostered where
  single := .nil
  employed := by simp [World.empty]
  led := by simp [World.empty, Table.contains]
  named := by simp [World.empty]
  funded := by simp [World.empty]

/-- What is neither a roster nor a corporation does not matter. -/
theorem Rostered.transfer {after : World} (rostered : world.Rostered)
    (members : after.members = world.members) (corps : after.corps = world.corps) :
    after.Rostered := by
  obtain ⟨single, employed, led, named, funded⟩ := rostered
  unfold rosterOf at led
  constructor
  · rw [members]
    exact single
  · rw [members, corps]
    exact employed
  · unfold rosterOf
    rw [members, corps]
    exact led
  · rw [corps]
    exact named
  · rw [corps]
    exact funded

/-- Two lines of one player are the same line. -/
theorem Rostered.same_line (rostered : world.Rostered) {first second : Member}
    (one : first ∈ world.members) (other : second ∈ world.members)
    (player : first.player = second.player) : first = second :=
  List.inj_on_of_nodup_map rostered.single one other player

/-- A line is found by its player. -/
theorem Rostered.memberOf?_of_mem (rostered : world.Rostered) {member : Member}
    (listed : member ∈ world.members) : world.memberOf? member.player = some member := by
  cases found : world.memberOf? member.player with
  | none =>
    have missing := List.find?_eq_none.mp found member listed
    simp at missing
  | some line =>
    have own := List.find?_some found
    have same := rostered.same_line (List.mem_of_find?_eq_some found) listed (by simpa using own)
    rw [same]

/-- The snapshot of a member's corporation. -/
theorem Rostered.membershipOf_of_mem (rostered : world.Rostered) {member : Member}
    {corp : Corporation} (listed : member ∈ world.members)
    (found : world.corps.get? member.corp = some corp) :
    world.membershipOf member.player = some ⟨corp.id, corp.name, member.role, corp.bank⟩ := by
  simp [membershipOf, rostered.memberOf?_of_mem listed, found]

/-- Who has no snapshot has no line either. -/
theorem Rostered.memberOf?_of_single (rostered : world.Rostered) {player : PlayerId}
    (single : world.membershipOf player = none) : world.memberOf? player = none := by
  cases found : world.memberOf? player with
  | none => rfl
  | some member =>
    have employed := rostered.employed member (List.mem_of_find?_eq_some found)
    obtain ⟨corp, present⟩ := contains_iff.mp employed
    simp [membershipOf, found, present] at single

theorem memberOf?_eq_none {player : PlayerId} :
    world.memberOf? player = none ↔ ∀ member ∈ world.members, member.player ≠ player := by
  simp [memberOf?]

/-- The line behind a snapshot, and the corporation that it shows. -/
theorem Rostered.membership_line (rostered : world.Rostered) (filed : world.Filed)
    {player : PlayerId} {membership : Membership}
    (belongs : world.membershipOf player = some membership) :
    ∃ member corp, member ∈ world.rosterOf membership.corp ∧ member.player = player ∧
      member.role = membership.role ∧ world.corps.get? membership.corp = some corp ∧
      corp.name = membership.name ∧ corp.bank = membership.bank := by
  obtain ⟨member, listed, own, role⟩ := membership_found filed belongs
  obtain ⟨lined, employer⟩ := mem_rosterOf.mp listed
  obtain ⟨corp, found⟩ := contains_iff.mp (rostered.employed member lined)
  have snapshot := rostered.membershipOf_of_mem lined found
  rw [own, belongs] at snapshot
  cases snapshot
  rw [employer] at found
  exact ⟨member, corp, listed, own, role, found, rfl, rfl⟩

/-- One more member, who is no leader and had no line. -/
theorem Rostered.enroll (rostered : world.Rostered) {member : Member}
    (free : world.memberOf? member.player = none)
    (exists_corp : world.corps.contains member.corp = true) (role : member.role ≠ .leader) :
    (world.written (.insertMember member)).Rostered where
  single := by
    simp only [written, List.map_append, List.map_cons, List.map_nil]
    refine List.nodup_append.mpr ⟨rostered.single, by simp, ?_⟩
    intro player listed other last
    obtain ⟨line, lined, rfl⟩ := List.mem_map.mp listed
    rw [List.mem_singleton.mp last]
    exact memberOf?_eq_none.mp free line lined
  employed := by
    intro line listed
    rcases List.mem_append.mp listed with before | last
    · exact rostered.employed line before
    · rw [List.mem_singleton.mp last]
      exact exists_corp
  led := by
    intro corp present
    obtain ⟨leader, ⟨listed, leads⟩, unique⟩ := rostered.led corp present
    obtain ⟨lined, employer⟩ := mem_rosterOf.mp listed
    refine ⟨leader, ⟨mem_rosterOf.mpr ⟨List.mem_append_left _ lined, employer⟩, leads⟩, ?_⟩
    rintro other ⟨present, leading⟩
    obtain ⟨among, employed⟩ := mem_rosterOf.mp present
    rcases List.mem_append.mp among with before | last
    · exact unique other ⟨mem_rosterOf.mpr ⟨before, employed⟩, leading⟩
    · rw [List.mem_singleton.mp last] at leading
      exact absurd leading role
  named := rostered.named
  funded := rostered.funded

/-- A new corporation with its founder. -/
theorem Rostered.incorporate (rostered : world.Rostered) (filed : world.Filed) {name : String}
    {now : Int} {founder : PlayerId} (free : world.memberOf? founder = none)
    (unused : world.corpNamed name = none) :
    (world.writtenAll [.insertCorp name now,
      .insertMember ⟨world.lastId + 1, founder, .leader, now⟩]).Rostered := by
  have fresh := filed.corpsUpTo.fresh
  have foreign : ∀ member ∈ world.members, member.corp ≠ world.lastId + 1 := by
    intro member listed new
    have employed := rostered.employed member listed
    rw [new, Table.contains, fresh] at employed
    cases employed
  have corps : ∀ corp, (world.corps.insert (world.lastId + 1) ⟨world.lastId + 1, name, 0⟩).get?
      corp = if corp = world.lastId + 1 then some ⟨world.lastId + 1, name, 0⟩
        else world.corps.get? corp := fun corp => Table.get?_insert _ _ _ _
  have unlike : ∀ id corp, world.corps.get? id = some corp →
      Text.lower corp.name ≠ Text.lower name := by
    intro id corp found
    have absent := List.find?_eq_none.mp unused corp ((Table.mem_values_iff _ _).mpr ⟨id, found⟩)
    simpa using absent
  constructor
  · change ((world.members ++ [_]).map _).Nodup
    simp only [List.map_append, List.map_cons, List.map_nil]
    refine List.nodup_append.mpr ⟨rostered.single, by simp, ?_⟩
    intro player listed other last
    obtain ⟨line, lined, rfl⟩ := List.mem_map.mp listed
    rw [List.mem_singleton.mp last]
    exact memberOf?_eq_none.mp free line lined
  · intro member listed
    change ((world.corps.insert _ _).get? member.corp).isSome = true
    rw [corps]
    split
    · rfl
    · next old =>
      rcases List.mem_append.mp listed with before | last
      · exact rostered.employed member before
      · rw [List.mem_singleton.mp last] at old
        exact absurd rfl old
  · intro corp present
    change ((world.corps.insert _ _).get? corp).isSome = true at present
    rw [corps] at present
    have mem : ∀ member, member ∈ (world.writtenAll [.insertCorp name now,
        .insertMember ⟨world.lastId + 1, founder, .leader, now⟩]).rosterOf corp ↔
          (member ∈ world.members ∨ member = ⟨world.lastId + 1, founder, .leader, now⟩) ∧
            member.corp = corp := by
      intro member
      rw [mem_rosterOf]
      change member ∈ world.members ++ [_] ∧ _ ↔ _
      simp
    split at present
    · next new =>
      refine ⟨⟨world.lastId + 1, founder, .leader, now⟩,
        ⟨(mem _).mpr ⟨.inr rfl, new.symm⟩, rfl⟩, ?_⟩
      rintro other ⟨listed, _⟩
      obtain ⟨before | last, employer⟩ := (mem _).mp listed
      · exact absurd (employer.trans new) (foreign other before)
      · exact last
    · next old =>
      obtain ⟨leader, ⟨listed, leads⟩, unique⟩ := rostered.led corp present
      obtain ⟨lined, employer⟩ := mem_rosterOf.mp listed
      refine ⟨leader, ⟨(mem _).mpr ⟨.inl lined, employer⟩, leads⟩, ?_⟩
      rintro other ⟨listed, leading⟩
      obtain ⟨before | last, employed⟩ := (mem _).mp listed
      · exact unique other ⟨mem_rosterOf.mpr ⟨before, employed⟩, leading⟩
      · rw [last] at employed
        exact absurd employed.symm old
  · intro first second a b one other same
    change (world.corps.insert _ _).get? first = _ at one
    change (world.corps.insert _ _).get? second = _ at other
    rw [corps] at one other
    split at one <;> split at other
    · next new newer => rw [new, newer]
    · cases one
      exact absurd same.symm (unlike second b other)
    · cases other
      exact absurd same (unlike first a one)
    · exact rostered.named first second a b one other same
  · intro id corp found
    change (world.corps.insert _ _).get? id = _ at found
    rw [corps] at found
    split at found
    · cases found
      exact Int.le_refl 0
    · exact rostered.funded id corp found

/-- A corporation with another balance, which is not below nothing. -/
theorem Rostered.rebank (rostered : world.Rostered) {id : CorpId} {corp : Corporation}
    (found : world.corps.get? id = some corp) (own : corp.id = id) {bank : Int}
    (funded : 0 ≤ bank) : (world.written (.saveCorp { corp with bank })).Rostered := by
  have corps : ∀ other, (world.corps.insert corp.id { corp with bank }).get? other =
      if other = id then some { corp with bank } else world.corps.get? other := by
    intro other
    rw [Table.get?_insert, own]
  have present : ∀ other, (world.corps.insert corp.id { corp with bank }).contains other =
      world.corps.contains other := by
    intro other
    rw [Table.contains, Table.contains, corps]
    split
    · next same => rw [same, found]; rfl
    · rfl
  constructor
  · exact rostered.single
  · intro member listed
    change (world.corps.insert _ _).contains member.corp = true
    rw [present]
    exact rostered.employed member listed
  · intro other contained
    change (world.corps.insert _ _).contains other = true at contained
    rw [present] at contained
    exact rostered.led other contained
  · intro first second a b one other same
    change (world.corps.insert _ _).get? first = _ at one
    change (world.corps.insert _ _).get? second = _ at other
    rw [corps] at one other
    split at one <;> split at other
    · next here there => rw [here, there]
    · next here _ =>
      cases one
      exact here.trans (rostered.named id second corp b found other same)
    · next _ there =>
      cases other
      exact (rostered.named first id a corp one found same).trans there.symm
    · exact rostered.named first second a b one other same
  · intro other row present
    change (world.corps.insert _ _).get? other = _ at present
    rw [corps] at present
    split at present
    · cases present
      exact funded
    · exact rostered.funded other row present

theorem Rostered.roster_single (rostered : world.Rostered) (corp : CorpId) :
    ((world.rosterOf corp).map (·.player)).Nodup :=
  rostered.single.sublist (List.filter_sublist.map _)

/-- A leader who is not alone has an heir. -/
theorem Rostered.heir_exists (rostered : world.Rostered) {membership : Membership}
    (leads : membership.role = .leader) (leaver : PlayerId)
    (others : 1 < (world.rosterOf membership.corp).length) :
    ∃ heir, Plan.heir membership leaver (Member.sortByJoining (world.rosterOf membership.corp)) =
        some heir ∧ heir ∈ world.rosterOf membership.corp ∧ heir.player ≠ leaver := by
  have perm : (Member.sortByJoining (world.rosterOf membership.corp)).Perm
      (world.rosterOf membership.corp) := List.mergeSort_perm _ _
  have single := (perm.map (·.player)).nodup_iff.mpr (rostered.roster_single membership.corp)
  rw [← perm.length_eq] at others
  unfold Plan.heir
  rw [if_pos ⟨leads, others⟩]
  cases found : (Member.sortByJoining (world.rosterOf membership.corp)).find?
      fun member => member.player != leaver with
  | some heir =>
    refine ⟨heir, rfl, perm.mem_iff.mp (List.mem_of_find?_eq_some found), ?_⟩
    simpa using List.find?_some found
  | none =>
    -- Then all lines are the leaver's, and there are two of them.
    have own : ∀ member ∈ Member.sortByJoining (world.rosterOf membership.corp),
        member.player = leaver := by simpa using List.find?_eq_none.mp found
    generalize Member.sortByJoining (world.rosterOf membership.corp) = lines at *
    match lines with
    | [] => simp at others
    | [_] => simp at others
    | first :: second :: _ =>
      have one := own first (by simp)
      have two := own second (by simp)
      simp [one, two] at single

/-- The rosters after a member has left: the heir leads, the leaver's line is
gone, and in a dissolved corporation every line. -/
theorem resigned_members {membership : Membership} {members : List Member} {leaver : PlayerId} :
    (world.writtenAll (Plan.handover membership leaver members ++
      .deleteMember membership.corp leaver :: Plan.dissolution membership members)).members =
      ((world.members.map (Member.under membership.corp
        (Plan.heir membership leaver members))).filter fun member =>
          !isMember membership.corp leaver member).filter fun member =>
            decide (1 < members.length) || member.corp != membership.corp := by
  have handed : (world.writtenAll (Plan.handover membership leaver members)).members =
      world.members.map (Member.under membership.corp (Plan.heir membership leaver members)) := by
    rw [Plan.handover_eq]
    cases Plan.heir membership leaver members with
    | none => exact (List.map_id world.members).symm
    | some heir => rfl
  rw [writtenAll_append]
  unfold Plan.dissolution
  split
  · next last =>
    change ((World.writtenAll _ _).members.filter _).filter _ = _
    rw [handed, decide_eq_false (by omega)]
    simp
  · next others =>
    change (World.writtenAll _ _).members.filter _ = _
    rw [handed, decide_eq_true (by omega)]
    simp

/-- Without its only member a corporation is gone, and the other rosters stay. -/
theorem Rostered.dissolve (rostered : world.Rostered) {after : World} {corp : CorpId}
    (members : after.members = world.members.filter fun member => member.corp != corp)
    (corps : after.corps = world.corps.erase corp) : after.Rostered := by
  have mem : ∀ member, member ∈ after.members ↔ member ∈ world.members ∧ member.corp ≠ corp := by
    simp [members]
  have found : ∀ other, after.corps.get? other =
      if other = corp then none else world.corps.get? other := by
    intro other
    rw [corps, Table.get?_erase]
  constructor
  · rw [members]
    exact rostered.single.sublist (List.filter_sublist.map _)
  · intro member listed
    obtain ⟨before, other⟩ := (mem member).mp listed
    rw [Table.contains, found, if_neg other]
    exact rostered.employed member before
  · intro other present
    rw [Table.contains, found] at present
    split at present
    · cases present
    · next different =>
      obtain ⟨leader, ⟨listed, leads⟩, unique⟩ := rostered.led other present
      obtain ⟨lined, employer⟩ := mem_rosterOf.mp listed
      refine ⟨leader, ⟨mem_rosterOf.mpr ⟨(mem leader).mpr ⟨lined, ?_⟩, employer⟩, leads⟩, ?_⟩
      · rw [employer]
        exact different
      · rintro rival ⟨present, leading⟩
        obtain ⟨among, employed⟩ := mem_rosterOf.mp present
        exact unique rival ⟨mem_rosterOf.mpr ⟨((mem rival).mp among).1, employed⟩, leading⟩
  · intro first second a b one other same
    rw [found] at one other
    split at one
    · cases one
    · split at other
      · cases other
      · exact rostered.named first second a b one other same
  · intro id row present
    rw [found] at present
    split at present
    · cases present
    · exact rostered.funded id row present

/-- What a member's leaving makes of the lines that stay. -/
theorem mem_departed {after : World} {corp : CorpId} {leaver : PlayerId} {heir : Option Member}
    (members : after.members =
      (world.members.map (Member.under corp heir)).filter fun member =>
        !isMember corp leaver member) (line : Member) :
    line ∈ after.members ↔ ∃ member ∈ world.members,
      member.under corp heir = line ∧ (member.corp = corp → member.player ≠ leaver) := by
  simp only [members, List.mem_filter, List.mem_map, Bool.not_eq_true', isMember,
    Bool.and_eq_false_iff, beq_eq_false_iff_ne]
  constructor
  · rintro ⟨⟨member, listed, rfl⟩, stays⟩
    refine ⟨member, listed, rfl, fun here => ?_⟩
    simpa [here] using stays
  · rintro ⟨member, listed, rfl, stays⟩
    refine ⟨⟨member, listed, rfl⟩, ?_⟩
    by_cases here : member.corp = corp
    · simp [here, stays here]
    · simp [here]

/-- A corporation that a member leaves to others has one leader afterwards: the
heir of a leader, or the leader of before. -/
theorem Rostered.succession (rostered : world.Rostered) {after : World} {membership : Membership}
    {line : Member} (listed : line ∈ world.rosterOf membership.corp)
    (role : line.role = membership.role) (present : world.corps.contains membership.corp = true)
    (others : 1 < (world.rosterOf membership.corp).length)
    (members : after.members = (world.members.map (Member.under membership.corp
      (Plan.heir membership line.player
        (Member.sortByJoining (world.rosterOf membership.corp))))).filter fun member =>
          !isMember membership.corp line.player member) :
    ∃! leader, leader ∈ after.rosterOf membership.corp ∧ leader.role = .leader := by
  obtain ⟨leader, ⟨led, leads⟩, unique⟩ := rostered.led _ present
  obtain ⟨lined, here⟩ := mem_rosterOf.mp led
  have mem := mem_departed members
  by_cases retiring : membership.role = .leader
  · obtain ⟨heir, inherits, among, other⟩ := rostered.heir_exists retiring line.player others
    obtain ⟨enrolled, employed⟩ := mem_rosterOf.mp among
    have retired : line = leader := unique line ⟨listed, role.trans retiring⟩
    have crowned : heir.under membership.corp (some heir) = { heir with role := .leader } := by
      simp [Member.under, isMember, employed]
    rw [inherits] at mem
    refine ⟨{ heir with role := .leader }, ⟨mem_rosterOf.mpr ⟨?_, employed⟩, rfl⟩, ?_⟩
    · exact (mem _).mpr ⟨heir, enrolled, crowned, fun _ => other⟩
    · rintro rival ⟨among, leading⟩
      obtain ⟨stayed, employer⟩ := mem_rosterOf.mp among
      obtain ⟨member, before, rfl, stays⟩ := (mem rival).mp stayed
      rw [Member.under_corp] at employer
      by_cases same : member.player = heir.player
      · rw [rostered.same_line before enrolled same, crowned]
      · -- An old line that still leads would be the leader's own, which is gone.
        have kept : member.under membership.corp (some heir) = member := by
          simp [Member.under, isMember, same]
        rw [kept] at leading
        have own := unique member ⟨mem_rosterOf.mpr ⟨before, employer⟩, leading⟩
        exact absurd (congrArg Member.player (own.trans retired.symm)) (stays employer)
  · have none : Plan.heir membership line.player
        (Member.sortByJoining (world.rosterOf membership.corp)) = none := by
      simp [Plan.heir, retiring]
    simp only [none, Member.under_none] at mem
    refine ⟨leader, ⟨mem_rosterOf.mpr ⟨(mem leader).mpr ⟨leader, lined, rfl, ?_⟩, here⟩, leads⟩, ?_⟩
    · intro _ same
      have own := rostered.same_line lined (mem_rosterOf.mp listed).1 same
      rw [own, role] at leads
      exact retiring leads
    · rintro rival ⟨among, leading⟩
      obtain ⟨stayed, employer⟩ := mem_rosterOf.mp among
      obtain ⟨_, before, rfl, _⟩ := (mem rival).mp stayed
      exact unique _ ⟨mem_rosterOf.mpr ⟨before, employer⟩, leading⟩

/-- A member leaves others behind, under one leader. -/
theorem Rostered.handOver (rostered : world.Rostered) {after : World} {corp : CorpId}
    {leaver : PlayerId} {heir : Option Member}
    (members : after.members = (world.members.map (Member.under corp heir)).filter fun member =>
      !isMember corp leaver member)
    (corps : after.corps = world.corps)
    (led : ∃! leader, leader ∈ after.rosterOf corp ∧ leader.role = .leader) :
    after.Rostered := by
  have mem := mem_departed members
  constructor
  · have players : (world.members.map (Member.under corp heir)).map (·.player) =
        world.members.map (·.player) := by simp [Function.comp_def]
    rw [members]
    refine List.Nodup.sublist (List.filter_sublist.map _) ?_
    rw [players]
    exact rostered.single
  · intro line listed
    obtain ⟨member, before, rfl, _⟩ := (mem line).mp listed
    rw [corps, Member.under_corp]
    exact rostered.employed member before
  · intro other present
    rw [corps] at present
    by_cases same : other = corp
    · rw [same]
      exact led
    obtain ⟨leader, ⟨listed, leads⟩, unique⟩ := rostered.led other present
    obtain ⟨lined, employer⟩ := mem_rosterOf.mp listed
    have away : leader.corp ≠ corp := fun here => same (employer.symm.trans here)
    refine ⟨leader, ⟨mem_rosterOf.mpr ⟨(mem leader).mpr ⟨leader, lined,
      Member.under_of_ne away, fun here => absurd here away⟩, employer⟩, leads⟩, ?_⟩
    rintro rival ⟨among, leading⟩
    obtain ⟨stayed, employed⟩ := mem_rosterOf.mp among
    obtain ⟨member, before, rfl, _⟩ := (mem rival).mp stayed
    rw [Member.under_corp] at employed
    rw [Member.under_of_ne (fun here => same (employed.symm.trans here))] at leading ⊢
    exact unique member ⟨mem_rosterOf.mpr ⟨before, employed⟩, leading⟩
  · rw [corps]
    exact rostered.named
  · rw [corps]
    exact rostered.funded

/-- Without the lines of a corporation it does not matter who took it over and
who left it. -/
theorem dissolved_lines {corp : CorpId} {leaver : PlayerId} {heir : Option Member}
    (members : List Member) :
    ((members.map (Member.under corp heir)).filter fun member =>
        !isMember corp leaver member).filter (fun member => member.corp != corp) =
      members.filter fun member => member.corp != corp := by
  induction members with
  | nil => rfl
  | cons member rest ih =>
    rw [List.filter_filter] at ih ⊢
    by_cases here : member.corp = corp
    · simp [here, ih]
    · have stays : isMember corp leaver member = false := by simp [isMember, here]
      simp [here, stays, ih, Member.under_of_ne here]

/-- Leaving keeps the rosters in order. -/
theorem Rostered.depart (rostered : world.Rostered) (filed : world.Filed)
    {membership : Membership} {leaver : PlayerId}
    (belongs : world.membershipOf leaver = some membership) :
    (world.writtenAll (Plan.handover membership leaver
        (Member.sortByJoining (world.rosterOf membership.corp)) ++
      .deleteMember membership.corp leaver :: Plan.dissolution membership
        (Member.sortByJoining (world.rosterOf membership.corp)))).Rostered := by
  obtain ⟨line, _, listed, rfl, role, found, _⟩ := rostered.membership_line filed belongs
  have length : (Member.sortByJoining (world.rosterOf membership.corp)).length =
      (world.rosterOf membership.corp).length := (List.mergeSort_perm _ _).length_eq
  have members := @resigned_members world membership
    (Member.sortByJoining (world.rosterOf membership.corp)) line.player
  have corps := @Deed.resigned_corps world membership
    (Member.sortByJoining (world.rosterOf membership.corp)) line.player
  rw [length] at members corps
  by_cases others : 1 < (world.rosterOf membership.corp).length
  · rw [if_neg (by omega)] at corps
    simp only [others, decide_true, Bool.true_or, List.filter_true] at members
    exact rostered.handOver members corps
      (rostered.succession listed role (contains_iff.mpr ⟨_, found⟩) others members)
  · rw [if_pos (by omega)] at corps
    refine rostered.dissolve ?_ corps
    simp only [others, decide_false, Bool.false_or] at members
    rw [members]
    exact dissolved_lines _

end World

namespace Deed

open World

variable {world : World} {now : Int} {commander : Commander} {command : Command}
  {effects : Effects}

theorem members_apart (deed : Deed world.lookup now commander command effects)
    (apart : Part.corps ∉ command.parts) :
    (world.writtenAll effects.writes).members = world.members :=
  writtenAll_members (fun change member same => apart (same ▸ deed.parts change member)) world

/-- A message and its delivery leave the rosters alone. -/
theorem announced_members {message : CorpMessage} {members : List Member} {line : String} :
    (world.writtenAll (.insertMessage message :: Plan.delivery members now line)).members =
      world.members := by
  refine writtenAll_members (fun change member same => ?_) world
  rcases List.mem_cons.mp member with rfl | delivered
  · cases same
  · rw [Plan.delivery_part delivered] at same
    cases same

/-- Every deed keeps the rosters in order. -/
theorem rostered (deed : Deed world.lookup now commander command effects)
    (rostered : world.Rostered) (filed : world.Filed)
    (snapshot : commander.membership = world.membershipOf commander.id) :
    (world.writtenAll effects.writes).Rostered := by
  have original := deed
  cases deed with
  | informed => exact rostered
  | announced => exact rostered.transfer announced_members announced_corps
  | incorporated single _ unused =>
    exact rostered.incorporate filed (rostered.memberOf?_of_single (snapshot ▸ single)) unused
  | @enlisted _ corp _ single found =>
    have present : world.corps.get? corp.id = some corp :=
      filed.corps.get?_of_mem (List.mem_of_find?_eq_some found)
    change (world.written (.insertMember ⟨corp.id, commander.id, .member, now⟩)).Rostered
    exact rostered.enroll (rostered.memberOf?_of_single (snapshot ▸ single))
      (contains_iff.mpr ⟨corp, present⟩) nofun
  | @resigned membership members _ belongs roster =>
    cases roster
    exact rostered.depart filed (snapshot ▸ belongs)
  | @deposited amount membership corp _ _ positive _ found =>
    have before := rostered.funded membership.corp corp found
    exact rostered.rebank found (filed.corps _ corp found) (by omega)
  | @withdrew amount membership corp _ _ _ positive found covered =>
    exact rostered.rebank found (filed.corps _ corp found) (by omega)
  | _ =>
    exact rostered.transfer (original.members_apart (by simp [Command.parts]))
      (original.corps_apart (by simp [Command.parts]))

end Deed

/-- An accepted request keeps the rosters in order. -/
theorem Accepted.rostered {settings : Settings} {now : Int} {player : PlayerId}
    {command : Command} {world after : World} {row : Player} {effects : Effects}
    {response : Response}
    (accepted : Accepted settings now player command world row effects response after)
    (rostered : world.Rostered) (filed : world.Filed) : after.Rostered := by
  have own : row.id = player := filed.players player row accepted.found
  obtain ⟨experience, logs, same⟩ := accepted.state own
  obtain ⟨turns, stamp, paid⟩ := command.paidBy_frame world settings now player row
  have deed := accepted.deed
  rw [paid] at deed
  have kept := deed.rostered rostered filed (congrArg world.membershipOf own.symm)
  refine kept.transfer ?_ ?_
  · rw [same]
  · rw [same]

namespace World

variable {world after : World}

theorem join_corps (world : World) (settings : Settings) (now : Int) (id : PlayerId)
    (username : String) :
    (world.join settings now id username).2.corps = world.corps ∧
      (world.join settings now id username).2.members = world.members := by
  obtain ⟨_, _, _, same⟩ := world.join_frame settings now id username
  rw [same]
  exact ⟨rfl, rfl⟩

theorem eventTick_corps {γ : Type} [Chance.Dice γ] (world : World) (now : Int) (dice : γ) :
    (world.eventTick now dice).1.corps = world.corps ∧
      (world.eventTick now dice).1.members = world.members := by
  obtain ⟨_, _, _, same⟩ := world.eventTick_frame now dice
  rw [same]
  exact ⟨rfl, rfl⟩

/-- Steps keep the rosters in order. -/
theorem Rostered.step {settings : Settings} {what : Occurrence} (rostered : world.Rostered)
    (filed : world.Filed) (step : Step settings world what after) : after.Rostered := by
  cases step with
  | @join now id username =>
    obtain ⟨corps, members⟩ := world.join_corps settings now id username
    exact rostered.transfer members corps
  | command executed =>
    rcases Storage.execute_cases executed with ⟨_, _, rfl⟩ | ⟨_, _, later, _, rfl, refused⟩ |
      ⟨_, _, _, later, _, rfl, accepted⟩
    · exact rostered
    · change later.Rostered
      rw [refused.committed]
      exact rostered.transfer rfl rfl
    · exact accepted.rostered rostered filed
  | portTick | planetTick | protectorateTick => exact rostered.transfer rfl rfl
  | @eventTick γ _ now dice =>
    obtain ⟨corps, members⟩ := world.eventTick_corps now dice
    exact rostered.transfer members corps

/-- Seeding enters nobody in a roster. -/
theorem Rostered.seeded (rostered : world.Rostered) (seeded : world.Seeded after) :
    after.Rostered := by
  cases seeded <;> exact rostered.transfer rfl rfl

/-- The rosters of every reachable world are in order. -/
theorem Reachable.rostered (reachable : world.Reachable) : world.Rostered := by
  induction reachable with
  | empty => exact .empty
  | seed _ seeded ih => exact ih.seeded seeded
  | step before step ih => exact ih.step before.filed step

end World

/-- The drill with a corporation of three, of whom the founder was the last to
join by the clock. -/
def Drill.partnered : World :=
  let give (player : PlayerId) (now : Int) (action : String) (world : World) : World :=
    (Storage.execute Settings.standard now player (namedRequest "CORP" action "Acme")
      (.ofWorld world)).2.world
  let crew := (docked.join Settings.standard startTime 8 "bea").2
  let crew := (crew.join Settings.standard startTime 9 "cal").2
  give 9 startTime "JOIN" (give 8 startTime "JOIN" (give 7 (startTime + 5) "CREATE" crew))

theorem Drill.partnered_reachable : partnered.Reachable := by
  have bea : Step .standard docked (.joined 8) (docked.join .standard startTime 8 "bea").2 :=
    .join (by decide)
  have cal : Step .standard (docked.join .standard startTime 8 "bea").2 (.joined 9)
      ((docked.join .standard startTime 8 "bea").2.join .standard startTime 9 "cal").2 :=
    .join (by decide +kernel)
  have crew := World.Reachable.step (.step docked_reachable bea) cal
  exact .step (.step (.step crew (.command rfl)) (.command rfl)) (.command rfl)

end Starlane
