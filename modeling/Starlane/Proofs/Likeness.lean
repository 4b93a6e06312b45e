import Starlane.Execution
import Starlane.Proofs.Twinning

/-!
# Plans in two stores

A plan reads nothing off a number but whether it is another one. On stores that
answer alike, twin commanders therefore plan the same: the same refusal, a
failure in both stores, or twin effects.
-/

namespace Starlane

namespace Plan

variable {α β γ δ : Type}

/-- Whether two plans come to the same: the same refusal, two failures, or
results that are related. -/
inductive Alike (R : α → β → Prop) : Plan α → Plan β → Prop
  | ok {a : α} {b : β} (same : R a b) : Alike R (.ok a) (.ok b)
  | refused {written written' : List Write} (reason : Refusal) :
      Alike R (.error (.refused written reason)) (.error (.refused written' reason))
  | failed {written written' : List Write} {failure failure' : StoreFailure} :
      Alike R (.error (.failed written failure)) (.error (.failed written' failure'))

namespace Alike

theorem bind {R : α → β → Prop} {S : γ → δ → Prop} {plan : Plan α} {plan' : Plan β}
    {next : α → Plan γ} {next' : β → Plan δ} (first : Alike R plan plan')
    (rest : ∀ a b, R a b → Alike S (next a) (next' b)) :
    Alike S (plan >>= next) (plan' >>= next') := by
  cases first with
  | ok same => exact rest _ _ same
  | refused reason => exact .refused reason
  | failed => exact .failed

/-- A common first part. -/
theorem after {S : γ → δ → Prop} {plan : Plan α} {next : α → Plan γ} {next' : α → Plan δ}
    (rest : ∀ a, Alike S (next a) (next' a)) : Alike S (plan >>= next) (plan >>= next') := by
  cases plan with
  | ok value => exact rest value
  | error halt =>
    cases halt with
    | refused written reason => exact .refused reason
    | failed => exact .failed

protected theorem pure {R : α → β → Prop} {a : α} {b : β} (same : R a b) :
    Alike R (pure a) (pure b) :=
  .ok same

theorem read {R : α → β → Prop} {answer : Except StoreFailure α} {answer' : Except StoreFailure β}
    (same : Answers R answer answer') : Alike R (Plan.read answer) (Plan.read answer') := by
  cases same with
  | ok same => exact .ok same
  | error => exact .failed

theorem expect {R : α → β → Prop} {value : Option α} {value' : Option β}
    (same : Option.Rel R value value') (reason : Refusal) :
    Alike R (Plan.expect value reason) (Plan.expect value' reason) := by
  cases same with
  | none => exact .refused reason
  | some same => exact .ok same

end Alike

end Plan

namespace Twinning

variable {twins : Twinning} {look other : Lookup} {now : Int} {commander commander' : Commander}

/-- Twin commanders whose player has become another one. -/
theorem CommanderAs.with_player (same : twins.CommanderAs commander commander') (player : Player) :
    twins.CommanderAs { commander with toPlayer := player }
      { commander' with toPlayer := player } := by
  obtain ⟨membership, belongs, rfl⟩ := same
  exact ⟨membership, belongs, rfl⟩

theorem CommanderAs.player (same : twins.CommanderAs commander commander') :
    commander'.toPlayer = commander.toPlayer := by
  obtain ⟨_, _, rfl⟩ := same
  rfl

theorem CommanderAs.membership_isNone (same : twins.CommanderAs commander commander') :
    commander'.membership.isNone = commander.membership.isNone := by
  obtain ⟨membership, belongs, rfl⟩ := same
  dsimp only
  generalize commander.membership = own at belongs
  cases belongs <;> rfl

theorem EffectsAs.logged (same : twins.CommanderAs commander commander')
    {writes writes' : List Write} (written : List.Forall₂ twins.WriteAs writes writes')
    {kind : LogKind} {message : String} :
    twins.EffectsAs (.logged commander writes kind message)
      (.logged commander' writes' kind message) :=
  ⟨same, written, rfl, rfl⟩

theorem CommanderAs.hasAccess (same : twins.CommanderAs commander commander')
    {planet planet' : Planet} (known : twins.PlanetAs planet planet') :
    Plan.hasAccess commander' planet' = Plan.hasAccess commander planet := by
  obtain ⟨membership, belongs, rfl⟩ := same
  obtain ⟨_, owner, _, owned, rfl⟩ := known
  exact owned.grantsAccess commander.id belongs

/-- The owner of a planet has no number in the label. -/
theorem CommanderAs.ownerLabel (same : twins.CommanderAs commander commander')
    {planet planet' : Planet} (known : twins.PlanetAs planet planet') :
    Plan.ownerLabel commander' planet' = Plan.ownerLabel commander planet := by
  have access := same.hasAccess known
  obtain ⟨membership, belongs, rfl⟩ := same
  obtain ⟨id, owner, _, owned, rfl⟩ := known
  unfold Plan.ownerLabel
  rw [access]
  generalize planet.owner = own at owned
  cases owned with
  | unowned | player => rfl
  | corp paired founder =>
    dsimp only
    split
    · generalize commander.membership = first at belongs
      cases belongs with
      | none => rfl
      | some alike =>
        obtain ⟨_, related, rfl⟩ := alike
        simp only [Pairing.same_iff related paired]
    · rfl

/-- An agreed trade of twin commanders. -/
structure DealAs (twins : Twinning) (deal other : Plan.Deal) : Prop where
  commander : twins.CommanderAs deal.commander other.commander
  port : other.port = deal.port
  total : other.total = deal.total

end Twinning

namespace Lookup.Twin

variable {twins : Twinning} {look other : Lookup} {now : Int} {commander commander' : Commander}

theorem sectorOrFail (twin : look.Twin twins other) : other.sectorOrFail = look.sectorOrFail := by
  funext id
  simp only [Lookup.sectorOrFail, twin.sector]

theorem corpOrFail (twin : look.Twin twins other) {corp corp' : CorpId}
    (paired : twins.corps.pairs corp corp') :
    Answers twins.CorpAs (look.corpOrFail corp) (other.corpOrFail corp') := by
  have found := twin.corp corp corp' paired
  unfold Lookup.corpOrFail
  generalize look.corp corp = first at found
  generalize other.corp corp' = second at found
  cases found with
  | none => exact .error
  | some same => exact .ok same

end Lookup.Twin

namespace Plan

variable {twins : Twinning} {look other : Lookup} {now : Int} {commander commander' : Commander}

/-- Twin writes before what comes to the same. -/
theorem writing_alike {changes changes' : List Write} {rest rest' : Plan Effects}
    (written : List.Forall₂ twins.WriteAs changes changes')
    (alike : Alike twins.EffectsAs rest rest') :
    Alike twins.EffectsAs (writing changes rest) (writing changes' rest') := by
  cases alike with
  | ok same =>
    exact .ok ⟨same.commander, List.rel_append written same.writes, same.message, same.lines⟩
  | refused reason => exact .refused reason
  | failed => exact .failed

/-- Twin writes, and a line about them. -/
theorem logged_alike (same : twins.CommanderAs commander commander')
    {changes changes' : List Write} (written : List.Forall₂ twins.WriteAs changes changes')
    {kind : LogKind} {message : String} :
    Alike twins.EffectsAs (writing changes (pure (.logged commander [] kind message)))
      (writing changes' (pure (.logged commander' [] kind message))) :=
  writing_alike written (.pure (.logged same .nil))

theorem trade_alike (twin : look.Twin twins other) (same : twins.CommanderAs commander commander')
    (side : Option TradeSide) (commodity : Option Commodity) (quantity : Int) :
    Alike twins.EffectsAs (Plan.trade look now commander side commodity quantity)
      (Plan.trade other now commander' side commodity quantity) := by
  obtain ⟨membership, belongs, rfl⟩ := same
  unfold Plan.trade
  rw [twin.port, twin.event]
  refine .after fun side => .after fun c => .after fun qty => .after fun answer =>
    .after fun port => .after fun event => ?_
  cases side with
  | buy =>
    have agreed : Alike twins.DealAs
        (purchase port c qty (Price.ofStock (port.stock c) c event) commander)
        (purchase port c qty (Price.ofStock (port.stock c) c event)
          { commander with membership }) :=
      .after fun _ => .after fun _ => .after fun _ => .after fun _ =>
        .ok ⟨⟨membership, belongs, rfl⟩, rfl, rfl⟩
    refine agreed.bind fun deal deal' bargain => ?_
    simp only [bargain.port, bargain.total]
    exact logged_alike bargain.commander (.cons (.savePort _) .nil)
  | sell =>
    have agreed : Alike twins.DealAs
        (sale port c qty (Price.ofStock (port.stock c) c event) commander)
        (sale port c qty (Price.ofStock (port.stock c) c event) { commander with membership }) :=
      .after fun _ => .after fun _ => .after fun _ =>
        .ok ⟨⟨membership, belongs, rfl⟩, rfl, rfl⟩
    refine agreed.bind fun deal deal' bargain => ?_
    simp only [bargain.port, bargain.total]
    exact logged_alike bargain.commander (.cons (.savePort _) .nil)

theorem scan_alike (twin : look.Twin twins other) (same : twins.CommanderAs commander commander') :
    Alike twins.EffectsAs (Plan.scan look now commander) (Plan.scan other now commander') := by
  obtain ⟨membership, belongs, rfl⟩ := same
  have paid : twins.CommanderAs commander { commander with membership } :=
    ⟨membership, belongs, rfl⟩
  unfold Plan.scan
  rw [twin.port, twin.event, twin.sectorOrFail]
  refine writing_alike (.cons (.discover _ _) .nil) (.after fun answer => ?_)
  cases answer with
  | none => exact logged_alike paid (.cons (.deleteIntel _ _) .nil)
  | some port =>
    exact .after fun _ => .after fun _ => logged_alike paid (.cons (.saveIntel _ _) .nil)

/-- Twin commanders meet the same mines. -/
theorem meetMines_alike (twin : look.Twin twins other)
    (same : twins.CommanderAs commander commander') (there : SectorId) :
    twins.CommanderAs (Plan.meetMines (look.minefields there) commander).commander
        (Plan.meetMines (other.minefields there) commander').commander ∧
      List.Forall₂ twins.WriteAs (Plan.meetMines (look.minefields there) commander).writes
        (Plan.meetMines (other.minefields there) commander').writes ∧
      (Plan.meetMines (other.minefields there) commander').lines =
        (Plan.meetMines (look.minefields there) commander).lines := by
  obtain ⟨membership, belongs, rfl⟩ := same
  have struck := twin.strikeOrder there commander.id belongs
  have counted : Minefield.total (Minefield.strikeOrder (other.minefields there) commander.id
      (membership.map (·.corp))) =
      Minefield.total (Minefield.strikeOrder (look.minefields there) commander.id
        (commander.membership.map (·.corp))) := Twinning.total_as struck
  obtain ⟨taken, changes⟩ := Twinning.consume_as struck
    (Minefield.triggered (Minefield.total (Minefield.strikeOrder (look.minefields there)
      commander.id (commander.membership.map (·.corp)))))
  unfold Plan.meetMines Commander.corp?
  dsimp only
  rw [counted]
  split
  · exact ⟨⟨membership, belongs, rfl⟩, .nil, rfl⟩
  · dsimp only
    rw [taken]
    exact ⟨⟨membership, belongs, rfl⟩, changes, rfl⟩

theorem arrive_alike (twin : look.Twin twins other)
    (same : twins.CommanderAs commander commander') (there : SectorId) :
    Alike twins.EffectsAs (Plan.arrive look now commander there)
      (Plan.arrive other now commander' there) := by
  obtain ⟨membership, belongs, rfl⟩ := same
  unfold Plan.arrive
  rw [twin.event]
  refine writing_alike (.cons (.discover _ _) .nil) (.after fun event => ?_)
  have met : twins.CommanderAs
      (meetEvent event now { commander with sector := there }).commander
      (meetEvent event now
        { ({ commander with membership } : Commander) with sector := there }).commander ∧
      (meetEvent event now
        { ({ commander with membership } : Commander) with sector := there }).lines =
      (meetEvent event now { commander with sector := there }).lines := by
    cases event with
    | none => exact ⟨⟨membership, belongs, rfl⟩, rfl⟩
    | some event => exact ⟨⟨membership, belongs, rfl⟩, rfl⟩
  obtain ⟨met, lines⟩ := met
  obtain ⟨struck, changes, tolls⟩ := meetMines_alike twin met there
  have unwritten : ∀ commander : Commander, (meetEvent event now commander).writes = [] := by
    intro commander
    cases event <;> rfl
  dsimp only
  rw [unwritten, unwritten, lines, tolls]
  exact writing_alike changes (.pure ⟨struck, .nil, rfl, rfl⟩)

theorem move_alike (twin : look.Twin twins other) (same : twins.CommanderAs commander commander')
    (target : Int) :
    Alike twins.EffectsAs (Plan.move look now commander target)
      (Plan.move other now commander' target) := by
  have arrives : ∀ there, Alike twins.EffectsAs (Plan.arrive look now commander there)
      (Plan.arrive other now commander' there) := arrive_alike twin same
  obtain ⟨membership, belongs, rfl⟩ := same
  unfold Plan.move Lookup.hasWarp
  rw [twin.sector, twin.warpsFrom]
  refine .after fun there => ?_
  dsimp only
  split
  · exact .after fun _ => arrives there
  · exact .after fun _ => arrives there

theorem planetInfo_alike (twin : look.Twin twins other)
    (same : twins.CommanderAs commander commander') :
    Alike twins.EffectsAs (Plan.planetInfo look commander) (Plan.planetInfo other commander') := by
  have here : commander'.sector = commander.sector := congrArg Player.sector same.player
  have found := twin.planet commander.sector
  unfold Plan.planetInfo
  rw [here]
  generalize look.planet commander.sector = first at found
  generalize other.planet commander.sector = second at found
  cases found with
  | none =>
    refine .pure ?_
    exact .logged same .nil
  | some known =>
    have named := same.ownerLabel known
    obtain ⟨_, _, _, _, rfl⟩ := known
    dsimp only
    rw [named]
    refine .pure ?_
    exact .logged same .nil

theorem colonize_alike (twin : look.Twin twins other)
    (same : twins.CommanderAs commander commander') (name : String) :
    Alike twins.EffectsAs (Plan.colonize look commander name)
      (Plan.colonize other commander' name) := by
  have access : ∀ planet planet', twins.PlanetAs planet planet' →
      Plan.hasAccess commander' planet' = Plan.hasAccess commander planet :=
    fun _ _ known => same.hasAccess known
  obtain ⟨membership, belongs, rfl⟩ := same
  have found := twin.planet commander.sector
  have claimed := Twinning.claimedBy_as commander.id belongs
  unfold Plan.colonize
  dsimp only
  cases Naming.planetName (nameOrDefault commander.sector name) with
  | error reason => exact .refused _
  | ok name =>
    refine .after fun name => ?_
    generalize look.planet commander.sector = first at found
    generalize other.planet commander.sector = second at found
    cases found with
    | none =>
      refine .after fun _ => ?_
      refine logged_alike ?_ (.cons (.insertPlanet ?_) .nil)
      · exact ⟨membership, belongs, rfl⟩
      · exact claimed
    | some known =>
      have entry := access _ _ known
      obtain ⟨id, owner, paired, owned, rfl⟩ := known
      dsimp only
      rw [entry, owned.isOwned]
      refine .after fun _ => .after fun _ => ?_
      refine logged_alike ?_ (.cons (.savePlanet ?_) .nil)
      · exact ⟨membership, belongs, rfl⟩
      · exact ⟨id, _, paired, claimed, rfl⟩

theorem accessiblePlanet_alike (twin : look.Twin twins other)
    (same : twins.CommanderAs commander commander') :
    Alike twins.PlanetAs (Plan.accessiblePlanet look commander)
      (Plan.accessiblePlanet other commander') := by
  have here : commander'.sector = commander.sector := congrArg Player.sector same.player
  unfold Plan.accessiblePlanet
  rw [here]
  refine .bind (.expect (twin.planet _) _) fun planet planet' known => ?_
  rw [same.hasAccess known]
  exact .after fun _ => .ok known

theorem planet_alike (twin : look.Twin twins other) (same : twins.CommanderAs commander commander')
    (order : PlanetOrder) :
    Alike twins.EffectsAs (Plan.planet look commander order)
      (Plan.planet other commander' order) := by
  have accessible := accessiblePlanet_alike twin same
  cases order with
  | info => exact planetInfo_alike twin same
  | colonize name => exact colonize_alike twin same name
  | load commodity quantity =>
    obtain ⟨membership, belongs, rfl⟩ := same
    refine .after fun c => .after fun qty => accessible.bind fun planet planet' known => ?_
    obtain ⟨id, owner, paired, owned, rfl⟩ := known
    refine .after fun _ => .after fun _ => ?_
    refine logged_alike ?_ (.cons (.savePlanet ?_) .nil)
    · exact ⟨membership, belongs, rfl⟩
    · exact ⟨id, owner, paired, owned, rfl⟩
  | unload commodity quantity =>
    obtain ⟨membership, belongs, rfl⟩ := same
    refine .after fun c => .after fun qty => accessible.bind fun planet planet' known => ?_
    obtain ⟨id, owner, paired, owned, rfl⟩ := known
    refine .after fun _ => .after fun _ => ?_
    refine logged_alike ?_ (.cons (.savePlanet ?_) .nil)
    · exact ⟨membership, belongs, rfl⟩
    · exact ⟨id, owner, paired, owned, rfl⟩
  | upgradeCitadel =>
    obtain ⟨membership, belongs, rfl⟩ := same
    refine accessible.bind fun planet planet' known => ?_
    obtain ⟨id, owner, paired, owned, rfl⟩ := known
    refine .after fun _ => .after fun _ => ?_
    refine logged_alike ?_ (.cons (.savePlanet ?_) .nil)
    · exact ⟨membership, belongs, rfl⟩
    · exact ⟨id, owner, paired, owned, rfl⟩
  | unknown => exact .refused _

theorem corpInfo_alike (twin : look.Twin twins other)
    (same : twins.CommanderAs commander commander') :
    Alike twins.EffectsAs (Plan.corpInfo look commander) (Plan.corpInfo other commander') := by
  obtain ⟨membership, belongs, rfl⟩ := id same
  unfold Plan.corpInfo
  dsimp only
  generalize commander.membership = own at belongs
  cases belongs with
  | none =>
    refine .pure ?_
    exact .logged same .nil
  | some alike =>
    obtain ⟨corp, paired, rfl⟩ := alike
    refine .bind (.read (twin.corpOrFail paired)) fun found found' known => ?_
    obtain ⟨id, related, rfl⟩ := known
    refine .bind (.read (twin.members _ _ related)) fun roster roster' listed => ?_
    rw [twin.planetCount _ _ related, listed.length_eq]
    refine .pure ?_
    exact .logged same .nil

theorem createCorp_alike (twin : look.Twin twins other)
    (same : twins.CommanderAs commander commander')
    (next : twins.corps.pairs look.nextCorp other.nextCorp) (name : String) :
    Alike twins.EffectsAs (Plan.createCorp look now commander name)
      (Plan.createCorp other now commander' name) := by
  have single := same.membership_isNone
  obtain ⟨membership, belongs, rfl⟩ := same
  unfold Plan.createCorp
  dsimp only
  rw [single]
  refine .after fun _ => ?_
  cases Naming.corpName name with
  | error reason => exact .refused _
  | ok name =>
    refine .after fun name => ?_
    have unused : (other.corpNamed name).isNone = (look.corpNamed name).isNone := by
      have found := twin.corpNamed name
      generalize look.corpNamed name = first at found
      generalize other.corpNamed name = second at found
      cases found <;> rfl
    rw [unused]
    refine .after fun _ => ?_
    refine logged_alike ?_ (.cons (.insertCorp _ _) (.cons (.insertMember ?_) .nil))
    · exact ⟨_, .some ⟨_, next, rfl⟩, rfl⟩
    · exact ⟨_, next, rfl⟩

theorem joinCorp_alike (twin : look.Twin twins other)
    (same : twins.CommanderAs commander commander') (name : String) :
    Alike twins.EffectsAs (Plan.joinCorp look now commander name)
      (Plan.joinCorp other now commander' name) := by
  have single := same.membership_isNone
  obtain ⟨membership, belongs, rfl⟩ := same
  unfold Plan.joinCorp
  dsimp only
  rw [single]
  refine .after fun _ => .after fun _ => .bind (.expect (twin.corpNamed _) _) fun _ _ known => ?_
  obtain ⟨id, paired, rfl⟩ := known
  refine logged_alike ?_ (.cons (.insertMember ?_) .nil)
  · exact ⟨_, .some ⟨_, paired, rfl⟩, rfl⟩
  · exact ⟨_, paired, rfl⟩

theorem leaveCorp_alike (twin : look.Twin twins other)
    (same : twins.CommanderAs commander commander') :
    Alike twins.EffectsAs (Plan.leaveCorp look commander) (Plan.leaveCorp other commander') := by
  obtain ⟨membership, belongs, rfl⟩ := same
  unfold Plan.leaveCorp
  refine .bind (.expect belongs _) fun own own' alike => ?_
  obtain ⟨corp, paired, rfl⟩ := alike
  refine .bind (.read (twin.members _ _ paired)) fun roster roster' listed => ?_
  have size : roster'.length = roster.length := listed.length_eq.symm
  -- The heir is told by the player, whose number both stores share.
  have heirs : Option.Rel twins.MemberAs
      (if own.role = .leader ∧ 1 < roster.length then
        roster.find? fun member => member.player != commander.id else none)
      (if own.role = .leader ∧ 1 < roster.length then
        roster'.find? fun member => member.player != commander.id else none) := by
    split
    · refine forall₂_find? listed ?_
      rintro member _ ⟨_, _, rfl⟩
      rfl
    · exact .none
  dsimp only
  rw [size]
  refine logged_alike ⟨none, .none, rfl⟩ (List.rel_append ?_ (.cons ?_ ?_))
  · generalize (if own.role = .leader ∧ 1 < roster.length then
      roster.find? fun member => member.player != commander.id else none) = heir at heirs ⊢
    generalize (if own.role = .leader ∧ 1 < roster.length then
      roster'.find? fun member => member.player != commander.id else none) = heir' at heirs ⊢
    cases heirs with
    | none => exact .nil
    | some alike =>
      obtain ⟨_, _, rfl⟩ := alike
      exact .cons (.setRole paired _ _) .nil
  · exact .deleteMember paired _
  · split
    · exact .cons (.deleteCorp paired) .nil
    · exact .nil

theorem sayToCorp_alike (twin : look.Twin twins other)
    (same : twins.CommanderAs commander commander') (text : String) :
    Alike twins.EffectsAs (Plan.sayToCorp look now commander text)
      (Plan.sayToCorp other now commander' text) := by
  obtain ⟨membership, belongs, rfl⟩ := same
  unfold Plan.sayToCorp
  refine .bind (.expect belongs _) fun own own' alike => ?_
  obtain ⟨corp, paired, rfl⟩ := alike
  refine .after fun _ => .after fun _ => ?_
  refine writing_alike (.cons (.insertMessage paired) .nil)
    (.bind (.read (twin.members _ _ paired)) fun roster roster' listed => ?_)
  refine writing_alike ?_ (.pure ⟨⟨membership, belongs, rfl⟩, .nil, rfl, rfl⟩)
  refine List.rel_flatMap listed ?_
  rintro member _ ⟨_, _, rfl⟩
  exact .cons (.insertLog _ _) (.cons (.pruneLogs _ _) .nil)

/-- Twin commanders with the same balance in their snapshots. -/
theorem withBank_alike (same : twins.CommanderAs commander commander') (bank : Int) :
    twins.CommanderAs (withBank commander bank) (withBank commander' bank) := by
  obtain ⟨membership, belongs, rfl⟩ := same
  refine ⟨membership.map fun own => { own with bank }, ?_, rfl⟩
  unfold withBank
  generalize commander.membership = own at belongs
  cases belongs with
  | none => exact .none
  | some alike =>
    obtain ⟨corp, paired, rfl⟩ := alike
    exact .some ⟨corp, paired, rfl⟩

theorem deposit_alike (twin : look.Twin twins other)
    (same : twins.CommanderAs commander commander') (amount : Int) :
    Alike twins.EffectsAs (Plan.deposit look commander amount)
      (Plan.deposit other commander' amount) := by
  obtain ⟨membership, belongs, rfl⟩ := same
  unfold Plan.deposit
  refine .bind (.expect belongs _) fun own own' alike => ?_
  obtain ⟨corp, paired, rfl⟩ := alike
  refine .after fun _ => .after fun _ => ?_
  refine .bind (.read (twin.corpOrFail paired)) fun found found' known => ?_
  obtain ⟨id, related, rfl⟩ := known
  refine logged_alike (withBank_alike ?_ _) (.cons (.saveCorp ?_) .nil)
  · exact ⟨membership, belongs, rfl⟩
  · exact ⟨id, related, rfl⟩

theorem withdraw_alike (twin : look.Twin twins other)
    (same : twins.CommanderAs commander commander') (amount : Int) :
    Alike twins.EffectsAs (Plan.withdraw look commander amount)
      (Plan.withdraw other commander' amount) := by
  obtain ⟨membership, belongs, rfl⟩ := same
  unfold Plan.withdraw
  refine .bind (.expect belongs _) fun own own' alike => ?_
  obtain ⟨corp, paired, rfl⟩ := alike
  refine .after fun _ => .after fun _ => ?_
  refine .bind (.read (twin.corpOrFail paired)) fun found found' known => ?_
  obtain ⟨id, related, rfl⟩ := known
  refine .after fun _ => logged_alike (withBank_alike ?_ _) (.cons (.saveCorp ?_) .nil)
  · exact ⟨membership, belongs, rfl⟩
  · exact ⟨id, related, rfl⟩

theorem corp_alike (twin : look.Twin twins other) (same : twins.CommanderAs commander commander')
    (next : ∀ name, order = .create name → twins.corps.pairs look.nextCorp other.nextCorp) :
    Alike twins.EffectsAs (Plan.corp look now commander order)
      (Plan.corp other now commander' order) := by
  cases order with
  | info => exact corpInfo_alike twin same
  | create name =>
    change Alike _ (Plan.createCorp look now commander name)
      (Plan.createCorp other now commander' name)
    exact createCorp_alike twin same (next name rfl) name
  | join name => exact joinCorp_alike twin same name
  | leave => exact leaveCorp_alike twin same
  | say text => exact sayToCorp_alike twin same text
  | deposit amount => exact deposit_alike twin same amount
  | withdraw amount => exact withdraw_alike twin same amount
  | unknown => exact .refused _

theorem mine_alike (twin : look.Twin twins other) (same : twins.CommanderAs commander commander')
    (order : MineOrder) :
    Alike twins.EffectsAs (Plan.mine look now commander order)
      (Plan.mine other now commander' order) := by
  obtain ⟨membership, belongs, rfl⟩ := id same
  cases order with
  | info => exact .pure (.logged same .nil)
  | deploy quantity =>
    have own := twin.own_field commander.sector commander.id
    have claimed := Twinning.claimedBy_as commander.id belongs
    unfold Plan.mine Plan.deploy
    dsimp only
    rw [twin.sectorOrFail]
    refine .after fun qty => .after fun sector => .after fun _ => .after fun _ => ?_
    generalize (look.minefields commander.sector).find? _ = field at own
    generalize (other.minefields commander.sector).find? _ = field' at own
    cases own with
    | none =>
      refine logged_alike ?_ (.cons (.insertMinefield ?_) .nil)
      · exact ⟨membership, belongs, rfl⟩
      · exact claimed
    | some known =>
      obtain ⟨id, owner, paired, owned, rfl⟩ := known
      refine logged_alike ?_ (.cons (.saveMinefield ?_) .nil)
      · exact ⟨membership, belongs, rfl⟩
      · exact ⟨id, _, paired, claimed, rfl⟩
  | sweep =>
    obtain ⟨taken, changes⟩ := Twinning.consume_as
      (twin.sweepOrder commander.sector commander.id belongs) Minefield.sweepCapacity
    unfold Plan.mine Plan.sweep Commander.corp?
    dsimp only
    rw [taken]
    split
    · exact .pure (.logged same .nil)
    · exact logged_alike same changes
  | unknown => exact .refused _

theorem shipyard_alike (twin : look.Twin twins other)
    (same : twins.CommanderAs commander commander') (order : YardOrder) :
    Alike twins.EffectsAs (Plan.shipyard look commander order)
      (Plan.shipyard other commander' order) := by
  have player := same.player
  unfold Plan.shipyard
  rw [player, twin.sectorOrFail]
  exact .after fun _ => .after fun _ => .after fun _ =>
    .pure (.logged (same.with_player _) .nil)

end Plan

variable {twins : Twinning} {look other : Lookup} {now : Int} {commander commander' : Commander}

/-- Stores that answer alike plan every command alike; where one founds a
corporation, its number has to be known as the number in the other. -/
theorem Command.plan_alike (twin : look.Twin twins other)
    (same : twins.CommanderAs commander commander') (command : Command)
    (next : ∀ name, command = .corp (.create name) →
      twins.corps.pairs look.nextCorp other.nextCorp) :
    Plan.Alike twins.EffectsAs (command.plan look now commander)
      (command.plan other now commander') := by
  have player := same.player
  cases command with
  | scan => exact Plan.scan_alike twin same
  | move target => exact Plan.move_alike twin same target
  | trade side commodity quantity => exact Plan.trade_alike twin same side commodity quantity
  | planet order => exact Plan.planet_alike twin same order
  | corp order => exact Plan.corp_alike twin same fun name create => next name (by rw [create])
  | mine order => exact Plan.mine_alike twin same order
  | shipyard order => exact Plan.shipyard_alike twin same order
  | market filter =>
    unfold Command.plan Plan.market
    rw [player, twin.intel]
    exact .after fun _ => .pure (.logged same .nil)
  | route filter =>
    unfold Command.plan Plan.route
    dsimp only
    rw [player, twin.intel, twin.discovered]
    refine .after fun intel => ?_
    rw [Route.report_congr (Chart.alike_ofDiscovered (twin.warpsAmong _))]
    exact .pure (.logged same .nil)
  | events =>
    have lines : Plan.eventLines other = Plan.eventLines look := by
      funext now event
      simp only [Plan.eventLines, twin.sector]
    have text : Plan.eventsText other = Plan.eventsText look := by
      funext now events
      simp only [Plan.eventsText, lines]
    unfold Command.plan Plan.events Plan.visible
    dsimp only
    rw [player, twin.events, twin.discovered, text]
    exact .after fun _ => .pure (.logged same .nil)
  | rankings =>
    unfold Command.plan Plan.rankings
    dsimp only
    rw [player, twin.rankings]
    exact .pure (.logged same .nil)
  | season =>
    unfold Command.plan Plan.season
    dsimp only
    rw [player, twin.season]
    exact .pure (.logged same .nil)
  | help => exact .pure (.logged same .nil)
  | unknown => exact .refused _

/-- Twin effects with the same award on top. -/
theorem Twinning.EffectsAs.rewarded {effects effects' : Effects}
    (same : twins.EffectsAs effects effects') (experience : Int) :
    twins.EffectsAs (effects.rewarded experience) (effects'.rewarded experience) := by
  obtain ⟨known, writes, message, lines⟩ := same
  have player := known.player
  unfold Effects.rewarded
  dsimp only
  rw [player, message, lines]
  split
  · exact ⟨known.with_player _, writes, rfl, rfl⟩
  · exact ⟨known.with_player _, writes, rfl, rfl⟩

/-- Twin effects write twins, the player and the log included. -/
theorem Twinning.EffectsAs.allWrites {effects effects' : Effects}
    (same : twins.EffectsAs effects effects') (now : Int) :
    List.Forall₂ twins.WriteAs (effects.allWrites now) (effects'.allWrites now) := by
  obtain ⟨known, writes, _, lines⟩ := same
  have entries : effects'.entries now = effects.entries now := by
    unfold Effects.entries
    rw [lines]
  have logged : effects'.logWrites now = effects.logWrites now := by
    unfold Effects.logWrites
    rw [entries, known.player]
  unfold Effects.allWrites
  rw [known.player, logged]
  refine List.rel_append writes
    (.cons (.savePlayer _) (List.forall₂_same.mpr fun change line => ?_))
  have only := effects.logWrites_onlyLogs now change line
  cases change with
  | insertLog player entry => exact .insertLog player entry
  | pruneLogs player keep => exact .pruneLogs player keep
  | _ => cases only

/-- Every command comes to the same in both stores. -/
theorem Command.outcome_alike (twin : look.Twin twins other)
    (same : twins.CommanderAs commander commander') (command : Command) (now : Int)
    (next : ∀ name, command = .corp (.create name) →
      twins.corps.pairs look.nextCorp other.nextCorp) :
    Plan.Alike twins.EffectsAs (command.outcome look now commander)
      (command.outcome other now commander') := by
  have player := same.player
  have charged : Plan.Alike twins.CommanderAs (command.charge commander)
      (command.charge commander') := by
    unfold Command.charge Command.costFor
    rw [player]
    exact .after fun _ => .after fun _ => .pure (same.with_player _)
  unfold Command.outcome
  refine charged.bind fun paid paid' known => ?_
  refine (command.plan_alike twin known next).bind fun effects effects' alike => ?_
  unfold Command.costFor
  rw [player]
  exact .pure (alike.rewarded _)

/-- The label of an owner has names, and no numbers. -/
theorem Lookup.Twin.ownerLabel_ofOwner (twin : look.Twin twins other) {owner owner' : Owner}
    (owned : twins.OwnerAs owner owner') :
    OwnerLabel.ofOwner other owner' = OwnerLabel.ofOwner look owner := by
  cases owned with
  | unowned => rfl
  | player id =>
    unfold OwnerLabel.ofOwner
    rw [twin.username]
  | corp paired founder =>
    have found := twin.corp _ _ paired
    simp only [OwnerLabel.ofOwner]
    generalize look.corp _ = first at found ⊢
    generalize other.corp _ = second at found ⊢
    cases found with
    | none => rfl
    | some known =>
      obtain ⟨_, _, rfl⟩ := known
      rfl

/-- Twin commanders are told the same. -/
theorem Lookup.Twin.respond (twin : look.Twin twins other)
    (same : twins.CommanderAs commander commander') (shown : Nat) (message : String)
    (refusal : Option Refusal) :
    Answers twins.ResponseAs (look.respond shown now commander message refusal)
      (other.respond shown now commander' message refusal) := by
  obtain ⟨membership, belongs, rfl⟩ := same
  have found := twin.planet commander.sector
  unfold Lookup.respond Lookup.view
  dsimp only
  rw [twin.sectorOrFail, twin.event, twin.port, twin.warpsFrom, twin.mineTotal, twin.recentLogs]
  cases look.sectorOrFail commander.sector with
  | error => exact .error
  | ok sector =>
    cases look.event commander.sector now with
    | error => exact .error
    | ok event =>
      cases look.port commander.sector with
      | error => exact .error
      | ok port =>
        cases look.recentLogs commander.id shown with
        | error => exact .error
        | ok logs =>
          refine .ok ⟨membership, (other.planet commander.sector).map (PlanetView.ofPlanet other),
            belongs, ?_, rfl⟩
          change Option.Rel _ ((look.planet commander.sector).map (PlanetView.ofPlanet look)) _
          generalize look.planet commander.sector = first at found
          generalize other.planet commander.sector = second at found
          cases found with
          | none => exact .none
          | some known =>
            obtain ⟨id, owner, paired, owned, rfl⟩ := known
            refine .some ⟨id, paired, ?_⟩
            unfold PlanetView.ofPlanet
            dsimp only
            rw [twin.ownerLabel_ofOwner owned]

end Starlane
