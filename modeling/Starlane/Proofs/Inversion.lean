import Starlane.Proofs.Deed

/-!
# Every plan with effects is a deed

The plans are inverted one by one: each guard that was passed becomes a fact,
each record that was read becomes an equation of the look-up.
-/

namespace Starlane

namespace Plan

variable {look : Lookup} {now : Int} {commander : Commander} {effects : Effects}

theorem bind_success {α β : Type} {first : Plan α} {next : α → Plan β} {result : β}
    (success : (first >>= next) = .ok result) :
    ∃ value, first = .ok value ∧ next value = .ok result := by
  cases first with
  | error halt => cases success
  | ok value => exact ⟨value, rfl, success⟩

theorem require_success {condition : Bool} {reason : Refusal} {done : Unit}
    (success : require condition reason = .ok done) : condition = true := by
  cases condition with
  | false => cases success
  | true => rfl

theorem expect_success {α : Type} {value : Option α} {reason : Refusal} {result : α}
    (success : expect value reason = .ok result) : value = some result := by
  cases value with
  | none => cases success
  | some value => cases success; rfl

theorem read_success {α : Type} {answer : Except StoreFailure α} {result : α}
    (success : read answer = .ok result) : answer = .ok result := by
  cases answer with
  | error failure => cases success
  | ok value => cases success; rfl

theorem writing_success {changes : List Write} {rest : Plan Effects}
    (success : writing changes rest = .ok effects) :
    ∃ later, rest = .ok later ∧ effects = { later with writes := changes ++ later.writes } := by
  cases rest with
  | ok later => cases success; exact ⟨later, rfl, rfl⟩
  | error halt => cases success

/-- Effects that write nothing themselves have what was written before. -/
theorem writing_pure (changes : List Write) (still : effects.writes = []) :
    writing changes (pure effects) = .ok { effects with writes := changes } := by
  change Except.ok { effects with writes := changes ++ effects.writes } = _
  rw [still, List.append_nil]

theorem sectorOrFail_success {id : SectorId} {sector : Sector}
    (success : look.sectorOrFail id = .ok sector) : look.sector id = some sector := by
  unfold Lookup.sectorOrFail at success
  split at success
  · next found => cases success; exact found
  · cases success

theorem corpOrFail_success {id : CorpId} {corp : Corporation}
    (success : look.corpOrFail id = .ok corp) : look.corp id = some corp := by
  unfold Lookup.corpOrFail at success
  split at success
  · next found => cases success; exact found
  · cases success

theorem trade_deed {side : Option TradeSide} {commodity : Option Commodity} {quantity : Int}
    (planned : trade look now commander side commodity quantity = .ok effects) :
    Deed look now commander (.trade side commodity quantity) effects := by
  unfold trade at planned
  obtain ⟨side, hside, planned⟩ := bind_success planned
  obtain ⟨c, hc, planned⟩ := bind_success planned
  obtain ⟨qty, hqty, planned⟩ := bind_success planned
  obtain ⟨answer, hanswer, planned⟩ := bind_success planned
  obtain ⟨port, hport, planned⟩ := bind_success planned
  obtain ⟨event, hevent, planned⟩ := bind_success planned
  rw [expect_success hside, expect_success hc]
  have counted := expect_success hqty
  have found : look.port commander.sector = .ok (some port) :=
    expect_success hport ▸ read_success hanswer
  have happening := read_success hevent
  cases side with
  | buy =>
    obtain ⟨deal, agreed, planned⟩ := bind_success planned
    unfold purchase at agreed
    obtain ⟨_, selling, agreed⟩ := bind_success agreed
    obtain ⟨_, stocked, agreed⟩ := bind_success agreed
    obtain ⟨_, roomy, agreed⟩ := bind_success agreed
    obtain ⟨_, funded, agreed⟩ := bind_success agreed
    cases agreed
    cases planned
    exact .bought counted found happening (by simpa using require_success selling)
      (of_decide_eq_true (require_success stocked)) (of_decide_eq_true (require_success roomy))
      (of_decide_eq_true (require_success funded))
  | sell =>
    obtain ⟨deal, agreed, planned⟩ := bind_success planned
    unfold sale at agreed
    obtain ⟨_, buying, agreed⟩ := bind_success agreed
    obtain ⟨_, carried, agreed⟩ := bind_success agreed
    obtain ⟨_, demanded, agreed⟩ := bind_success agreed
    cases agreed
    cases planned
    exact .sold counted found happening (by simpa using require_success buying)
      (of_decide_eq_true (require_success carried)) (of_decide_eq_true (require_success demanded))

theorem scan_deed (planned : scan look now commander = .ok effects) :
    Deed look now commander .scan effects := by
  unfold scan at planned
  dsimp only at planned
  obtain ⟨rest, renewing, rfl⟩ := writing_success planned
  obtain ⟨answer, hanswer, renewing⟩ := bind_success renewing
  have found := read_success hanswer
  cases answer with
  | none =>
    cases renewing
    exact .scannedVoid found
  | some port =>
    obtain ⟨sector, hsector, renewing⟩ := bind_success renewing
    obtain ⟨event, hevent, renewing⟩ := bind_success renewing
    cases renewing
    exact .scannedPort found (sectorOrFail_success (read_success hsector))
      (read_success hevent)

theorem arrive_success {there : SectorId}
    (arriving : arrive look now commander there = .ok effects) :
    ∃ event, look.event there now = .ok event ∧
      effects = arrival look now commander there event := by
  unfold arrive at arriving
  obtain ⟨_, met, rfl⟩ := writing_success arriving
  obtain ⟨event, hevent, met⟩ := bind_success met
  dsimp only at met
  rw [writing_pure _ rfl] at met
  cases met
  exact ⟨event, read_success hevent, rfl⟩

theorem move_deed {target : Int} (planned : move look now commander target = .ok effects) :
    Deed look now commander (.move target) effects := by
  unfold move at planned
  obtain ⟨there, hthere, planned⟩ := bind_success planned
  have destined := expect_success hthere
  by_cases admin : commander.isAdmin = true
  · rw [if_pos admin] at planned
    obtain ⟨_, known, arriving⟩ := bind_success planned
    obtain ⟨event, happening, rfl⟩ := arrive_success arriving
    refine .moved destined ?_ happening
    rw [if_pos admin]
    exact require_success known
  · rw [if_neg admin] at planned
    obtain ⟨_, linked, arriving⟩ := bind_success planned
    obtain ⟨event, happening, rfl⟩ := arrive_success arriving
    refine .moved destined ?_ happening
    rw [if_neg admin]
    exact require_success linked

theorem colonize_deed {raw : String} (planned : colonize look commander raw = .ok effects) :
    Deed look now commander (.planet (.colonize raw)) effects := by
  unfold colonize at planned
  dsimp only at planned
  cases named : Naming.planetName (nameOrDefault commander.sector raw) with
  | error reason => rw [named] at planned; cases planned
  | ok name =>
    rw [named] at planned
    obtain ⟨_, same, planned⟩ := bind_success planned
    cases same
    cases found : look.planet commander.sector with
    | none =>
      simp only [found] at planned
      obtain ⟨_, funded, planned⟩ := bind_success planned
      cases planned
      exact .founded named found (of_decide_eq_true (require_success funded))
    | some planet =>
      simp only [found] at planned
      obtain ⟨_, free, planned⟩ := bind_success planned
      obtain ⟨_, funded, planned⟩ := bind_success planned
      cases planned
      exact .colonized named found (by simpa using require_success free)
        (of_decide_eq_true (require_success funded))

theorem accessiblePlanet_success {planet : Planet}
    (success : accessiblePlanet look commander = .ok planet) :
    look.planet commander.sector = some planet ∧ hasAccess commander planet = true := by
  unfold accessiblePlanet at success
  obtain ⟨planet, found, success⟩ := bind_success success
  obtain ⟨_, access, success⟩ := bind_success success
  cases success
  exact ⟨expect_success found, require_success access⟩

theorem load_deed {commodity : Option Commodity} {quantity : Int}
    (planned : load look commander commodity quantity = .ok effects) :
    Deed look now commander (.planet (.load commodity quantity)) effects := by
  unfold load at planned
  obtain ⟨c, hc, planned⟩ := bind_success planned
  obtain ⟨qty, hqty, planned⟩ := bind_success planned
  obtain ⟨planet, hplanet, planned⟩ := bind_success planned
  obtain ⟨_, roomy, planned⟩ := bind_success planned
  obtain ⟨_, stored, planned⟩ := bind_success planned
  obtain ⟨found, access⟩ := accessiblePlanet_success hplanet
  cases planned
  rw [expect_success hc]
  exact .loaded (expect_success hqty) found access (of_decide_eq_true (require_success roomy))
    (of_decide_eq_true (require_success stored))

theorem unload_deed {commodity : Option Commodity} {quantity : Int}
    (planned : unload look commander commodity quantity = .ok effects) :
    Deed look now commander (.planet (.unload commodity quantity)) effects := by
  unfold unload at planned
  obtain ⟨c, hc, planned⟩ := bind_success planned
  obtain ⟨qty, hqty, planned⟩ := bind_success planned
  obtain ⟨planet, hplanet, planned⟩ := bind_success planned
  obtain ⟨_, carried, planned⟩ := bind_success planned
  obtain ⟨_, roomy, planned⟩ := bind_success planned
  obtain ⟨found, access⟩ := accessiblePlanet_success hplanet
  cases planned
  rw [expect_success hc]
  exact .unloaded (expect_success hqty) found access
    (of_decide_eq_true (require_success carried)) (of_decide_eq_true (require_success roomy))

theorem upgradeCitadel_deed (planned : upgradeCitadel look commander = .ok effects) :
    Deed look now commander (.planet .upgradeCitadel) effects := by
  unfold upgradeCitadel at planned
  obtain ⟨planet, hplanet, planned⟩ := bind_success planned
  obtain ⟨_, unfinished, planned⟩ := bind_success planned
  obtain ⟨_, funded, planned⟩ := bind_success planned
  obtain ⟨found, access⟩ := accessiblePlanet_success hplanet
  cases planned
  exact .fortified found access (of_decide_eq_true (require_success unfinished))
    (of_decide_eq_true (require_success funded))

theorem planet_deed {order : PlanetOrder} (planned : planet look commander order = .ok effects) :
    Deed look now commander (.planet order) effects := by
  cases order with
  | info =>
    simp only [planet, planetInfo] at planned
    split at planned <;> cases planned <;> exact .informed rfl
  | colonize raw => exact colonize_deed planned
  | load commodity quantity => exact load_deed planned
  | unload commodity quantity => exact unload_deed planned
  | upgradeCitadel => exact upgradeCitadel_deed planned
  | unknown => cases planned

theorem corpInfo_deed (planned : corpInfo look commander = .ok effects) :
    Deed look now commander (.corp .info) effects := by
  unfold corpInfo at planned
  cases belongs : commander.membership with
  | none =>
    simp only [belongs] at planned
    cases planned
    exact .informed rfl
  | some membership =>
    simp only [belongs] at planned
    obtain ⟨corp, _, planned⟩ := bind_success planned
    obtain ⟨members, _, planned⟩ := bind_success planned
    cases planned
    exact .informed rfl

theorem createCorp_deed {raw : String}
    (planned : createCorp look now commander raw = .ok effects) :
    Deed look now commander (.corp (.create raw)) effects := by
  unfold createCorp at planned
  obtain ⟨_, single, planned⟩ := bind_success planned
  dsimp only at planned
  cases named : Naming.corpName raw with
  | error reason => rw [named] at planned; cases planned
  | ok name =>
    rw [named] at planned
    obtain ⟨_, same, planned⟩ := bind_success planned
    cases same
    obtain ⟨_, unused, planned⟩ := bind_success planned
    cases planned
    exact .incorporated (Option.isNone_iff_eq_none.mp (require_success single)) named
      (Option.isNone_iff_eq_none.mp (require_success unused))

theorem joinCorp_deed {raw : String} (planned : joinCorp look now commander raw = .ok effects) :
    Deed look now commander (.corp (.join raw)) effects := by
  unfold joinCorp at planned
  obtain ⟨_, single, planned⟩ := bind_success planned
  obtain ⟨_, _, planned⟩ := bind_success planned
  obtain ⟨corp, found, planned⟩ := bind_success planned
  cases planned
  exact .enlisted (Option.isNone_iff_eq_none.mp (require_success single)) (expect_success found)

theorem leaveCorp_deed (planned : leaveCorp look commander = .ok effects) :
    Deed look now commander (.corp .leave) effects := by
  unfold leaveCorp at planned
  obtain ⟨member, belongs, planned⟩ := bind_success planned
  obtain ⟨members, roster, planned⟩ := bind_success planned
  dsimp only at planned
  rw [writing_pure _ rfl] at planned
  cases planned
  exact .resigned (expect_success belongs) (read_success roster)

theorem sayToCorp_deed {raw : String}
    (planned : sayToCorp look now commander raw = .ok effects) :
    Deed look now commander (.corp (.say raw)) effects := by
  unfold sayToCorp at planned
  obtain ⟨member, belongs, planned⟩ := bind_success planned
  obtain ⟨_, worded, planned⟩ := bind_success planned
  obtain ⟨_, short, planned⟩ := bind_success planned
  obtain ⟨_, sending, rfl⟩ := writing_success planned
  obtain ⟨members, roster, sending⟩ := bind_success sending
  dsimp only at sending
  rw [writing_pure _ rfl] at sending
  cases sending
  refine .announced (expect_success belongs) ?_ (of_decide_eq_true (require_success short))
    (read_success roster)
  have filled := require_success worded
  intro empty
  rw [empty] at filled
  cases filled

theorem deposit_deed {amount : Int} (planned : deposit look commander amount = .ok effects) :
    Deed look now commander (.corp (.deposit amount)) effects := by
  unfold deposit at planned
  obtain ⟨member, belongs, planned⟩ := bind_success planned
  obtain ⟨_, positive, planned⟩ := bind_success planned
  obtain ⟨_, funded, planned⟩ := bind_success planned
  obtain ⟨corp, found, planned⟩ := bind_success planned
  cases planned
  exact .deposited (expect_success belongs) (of_decide_eq_true (require_success positive))
    (of_decide_eq_true (require_success funded)) (corpOrFail_success (read_success found))

theorem withdraw_deed {amount : Int} (planned : withdraw look commander amount = .ok effects) :
    Deed look now commander (.corp (.withdraw amount)) effects := by
  unfold withdraw at planned
  obtain ⟨member, belongs, planned⟩ := bind_success planned
  obtain ⟨_, trusted, planned⟩ := bind_success planned
  obtain ⟨_, positive, planned⟩ := bind_success planned
  obtain ⟨corp, found, planned⟩ := bind_success planned
  obtain ⟨_, covered, planned⟩ := bind_success planned
  cases planned
  exact .withdrew (expect_success belongs) (require_success trusted)
    (of_decide_eq_true (require_success positive)) (corpOrFail_success (read_success found))
    (of_decide_eq_true (require_success covered))

theorem corp_deed {order : CorpOrder} (planned : corp look now commander order = .ok effects) :
    Deed look now commander (.corp order) effects := by
  cases order with
  | info => exact corpInfo_deed planned
  | create raw => exact createCorp_deed planned
  | join raw => exact joinCorp_deed planned
  | leave => exact leaveCorp_deed planned
  | say raw => exact sayToCorp_deed planned
  | deposit amount => exact deposit_deed planned
  | withdraw amount => exact withdraw_deed planned
  | unknown => cases planned

theorem deploy_deed {quantity : Int}
    (planned : deploy look now commander quantity = .ok effects) :
    Deed look now commander (.mine (.deploy quantity)) effects := by
  unfold deploy deployment at planned
  obtain ⟨qty, counted, planned⟩ := bind_success planned
  obtain ⟨_, positive, counted⟩ := bind_success counted
  obtain ⟨_, limited, counted⟩ := bind_success counted
  cases counted
  obtain ⟨sector, hsector, planned⟩ := bind_success planned
  obtain ⟨_, lawless, planned⟩ := bind_success planned
  obtain ⟨_, carried, planned⟩ := bind_success planned
  have positive := of_decide_eq_true (require_success positive)
  have limited := of_decide_eq_true (require_success limited)
  have found := sectorOrFail_success (read_success hsector)
  have lawless : sector.isProtectorate = false := by simpa using require_success lawless
  have carried := of_decide_eq_true (require_success carried)
  cases own : (look.minefields commander.sector).find? fun field =>
      field.owner.player? == some commander.id with
  | none =>
    simp only [own] at planned
    cases planned
    exact .mined positive limited found lawless carried own
  | some field =>
    simp only [own] at planned
    cases planned
    exact .reinforced positive limited found lawless carried own

theorem sweep_deed (planned : sweep look commander = .ok effects) :
    Deed look now commander (.mine .sweep) effects := by
  unfold sweep at planned
  dsimp only at planned
  split at planned
  · next clear =>
    cases planned
    exact .foundClear (Prod.ext clear rfl)
  · next taking =>
    rw [writing_pure _ rfl] at planned
    cases planned
    exact .swept rfl taking

theorem mine_deed {order : MineOrder} (planned : mine look now commander order = .ok effects) :
    Deed look now commander (.mine order) effects := by
  cases order with
  | info => cases planned; exact .informed rfl
  | deploy quantity => exact deploy_deed planned
  | sweep => exact sweep_deed planned
  | unknown => cases planned

theorem buyShip_success {player bought : Player} {code text : String}
    (success : buyShip player code = .ok (bought, text)) :
    ∃ ship, Ship.ofCode? code = some ship ∧ ship ≠ player.ship ∧
      ship.price ≤ player.credits ∧ player.cargo.total ≤ ship.cargoMax ∧
      bought = refit { player with credits := player.credits - ship.price } ship := by
  unfold buyShip at success
  obtain ⟨_, _, success⟩ := bind_success success
  obtain ⟨ship, known, success⟩ := bind_success success
  obtain ⟨_, different, success⟩ := bind_success success
  obtain ⟨_, funded, success⟩ := bind_success success
  obtain ⟨_, roomy, success⟩ := bind_success success
  cases success
  exact ⟨ship, expect_success known, by simpa using require_success different,
    of_decide_eq_true (require_success funded), of_decide_eq_true (require_success roomy), rfl⟩

theorem sellShip_success {player flying : Player} {text : String}
    (success : sellShip player = .ok (flying, text)) :
    player.ship ≠ .scout ∧ player.cargo.total ≤ Ship.scout.cargoMax ∧
      flying = refit { player with credits := player.credits + player.ship.resale } .scout := by
  unfold sellShip at success
  obtain ⟨_, saleable, success⟩ := bind_success success
  obtain ⟨_, roomy, success⟩ := bind_success success
  cases success
  exact ⟨by simpa using require_success saleable, of_decide_eq_true (require_success roomy), rfl⟩

theorem upgradeCargo_success {player better : Player} {text : String}
    (success : upgradeCargo player = .ok (better, text)) :
    player.cargoUpgrades < cargoUpgradesMax ∧
      cargoUpgradeCost player.cargoUpgrades ≤ player.credits ∧
      better = { player with
        credits := player.credits - cargoUpgradeCost player.cargoUpgrades
        cargoUpgrades := player.cargoUpgrades + 1
        cargoMax := player.cargoMax + cargoPerUpgrade } := by
  unfold upgradeCargo at success
  obtain ⟨_, unfinished, success⟩ := bind_success success
  obtain ⟨_, funded, success⟩ := bind_success success
  cases success
  exact ⟨of_decide_eq_true (require_success unfinished),
    of_decide_eq_true (require_success funded), rfl⟩

theorem upgradeTurns_success {player better : Player} {text : String}
    (success : upgradeTurns player = .ok (better, text)) :
    player.turnUpgrades < turnUpgradesMax ∧
      turnUpgradeCost player.turnUpgrades ≤ player.credits ∧
      better = { player with
        credits := player.credits - turnUpgradeCost player.turnUpgrades
        turnUpgrades := player.turnUpgrades + 1
        turnsMax := player.turnsMax + turnsPerUpgrade } := by
  unfold upgradeTurns at success
  obtain ⟨_, unfinished, success⟩ := bind_success success
  obtain ⟨_, funded, success⟩ := bind_success success
  cases success
  exact ⟨of_decide_eq_true (require_success unfinished),
    of_decide_eq_true (require_success funded), rfl⟩

theorem shipyard_deed {order : YardOrder}
    (planned : shipyard look commander order = .ok effects) :
    Deed look now commander (.shipyard order) effects := by
  unfold shipyard at planned
  obtain ⟨sector, hsector, planned⟩ := bind_success planned
  obtain ⟨_, hyard, planned⟩ := bind_success planned
  obtain ⟨⟨kind, player, text⟩, served, planned⟩ := bind_success planned
  have found := sectorOrFail_success (read_success hsector)
  have yard := require_success hyard
  cases planned
  cases order with
  | info => cases served; exact .informed rfl
  | buy code =>
    obtain ⟨⟨bought, told⟩, success, served⟩ := bind_success served
    obtain ⟨ship, known, different, funded, roomy, rfl⟩ := buyShip_success success
    cases served
    exact .boughtShip found yard known different funded roomy
  | sell =>
    obtain ⟨⟨flying, told⟩, success, served⟩ := bind_success served
    obtain ⟨saleable, roomy, rfl⟩ := sellShip_success success
    cases served
    exact .soldShip found yard saleable roomy
  | upgrade part =>
    obtain ⟨⟨better, told⟩, success, served⟩ := bind_success served
    cases served
    unfold upgradeShip at success
    obtain ⟨_, _, success⟩ := bind_success success
    split at success
    · obtain ⟨unfinished, funded, rfl⟩ := upgradeCargo_success success
      exact .upgradedCargo found yard unfinished funded
    · obtain ⟨unfinished, funded, rfl⟩ := upgradeTurns_success success
      exact .upgradedTurns found yard unfinished funded
    · cases success
  | unknown => cases served

end Plan

/-- Every plan with effects is one of the deeds. -/
theorem Command.plan_deed {look : Lookup} {now : Int} {commander : Commander} {effects : Effects}
    (command : Command) (planned : command.plan look now commander = .ok effects) :
    Deed look now commander command effects := by
  cases command with
  | scan => exact Plan.scan_deed planned
  | move target => exact Plan.move_deed planned
  | trade side commodity quantity => exact Plan.trade_deed planned
  | planet order => exact Plan.planet_deed planned
  | corp order => exact Plan.corp_deed planned
  | mine order => exact Plan.mine_deed planned
  | shipyard order => exact Plan.shipyard_deed planned
  | market filter =>
    obtain ⟨_, _, planned⟩ := Plan.bind_success planned
    cases planned
    exact .informed rfl
  | route filter =>
    obtain ⟨_, _, planned⟩ := Plan.bind_success planned
    cases planned
    exact .informed rfl
  | events =>
    obtain ⟨_, _, planned⟩ := Plan.bind_success planned
    cases planned
    exact .informed rfl
  | rankings => cases planned; exact .informed rfl
  | season => cases planned; exact .informed rfl
  | help => cases planned; exact .informed rfl
  | unknown => cases planned

end Starlane
