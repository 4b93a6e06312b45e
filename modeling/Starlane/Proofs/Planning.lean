import Starlane.Proofs.Inversion

/-!
# How plans stop

A plan that has no effects is refused or fails. It is refused before it has written
anything. It fails only where a record that it reads is missing or unreadable, and then
it has written what the command writes before it reads on: its opening. `Plan.Stop` has
one constructor for either way, and `Command.plan_stops` derives it plan by plan, as
`Command.plan_deed` does for the plans with effects.
-/

namespace Starlane

/-- Whether a lookup has what a commander's plans read: their sector and their
corporation, and no unreadable record. -/
structure Lookup.Serves (look : Lookup) (now : Int) (commander : Commander) : Prop where
  sector : ∃ sector, look.sectorOrFail commander.sector = .ok sector
  corp : ∀ membership, commander.membership = some membership →
    ∃ corp, look.corpOrFail membership.corp = .ok corp
  port : ∀ id, ∃ port, look.port id = .ok port
  members : ∀ id, ∃ members, look.members id = .ok members
  event : ∀ id, ∃ event, look.event id now = .ok event
  events : ∃ events, look.events now = .ok events
  intel : ∃ intel, look.intel commander.id = .ok intel

namespace Plan

/-- How a plan with some opening stops: it is refused before it has written anything, or
it fails after the opening, on a lookup that does not serve the commander. -/
inductive Stop (look : Lookup) (now : Int) (commander : Commander) (opening : List Write) :
    Halt → Prop
  | refused (reason : Refusal) : Stop look now commander opening (.refused [] reason)
  | failed (failure : StoreFailure) (unserved : ¬ look.Serves now commander) :
      Stop look now commander opening (.failed opening failure)

section Stops

variable {α β : Type} {ways : Halt → Prop}

/-- Whether a plan stops only in some ways, if it stops. -/
def Stops (ways : Halt → Prop) (plan : Plan α) : Prop :=
  ∀ halt, plan = .error halt → ways halt

theorem stops_pure (value : α) : Stops ways (pure value) :=
  nofun

theorem stops_refuse {reason : Refusal} (refusal : ways (.refused [] reason)) :
    Stops ways (refuse reason : Plan α) := by
  rintro _ ⟨⟩
  exact refusal

theorem stops_require {condition : Bool} {reason : Refusal}
    (refusal : ways (.refused [] reason)) : (require condition reason).Stops ways := by
  unfold require
  split
  · exact stops_pure ()
  · exact stops_refuse refusal

theorem stops_expect {value : Option α} {reason : Refusal}
    (refusal : ways (.refused [] reason)) : (expect value reason).Stops ways := by
  cases value with
  | none => exact stops_refuse refusal
  | some value => exact stops_pure value

theorem stops_read {answer : Except StoreFailure α}
    (failures : ∀ failure, answer = .error failure → ways (.failed [] failure)) :
    (read answer).Stops ways := by
  cases answer with
  | error failure =>
    rintro _ ⟨⟩
    exact failures failure rfl
  | ok value => exact stops_pure value

/-- What follows has to stop in these ways for the values that can come. -/
theorem stops_bind {first : Plan α} {next : α → Plan β} (early : first.Stops ways)
    (late : ∀ value, first = .ok value → (next value).Stops ways) :
    (first >>= next).Stops ways := by
  intro halt stopped
  cases first with
  | error cause =>
    injection stopped with same
    exact early halt (congrArg Except.error same)
  | ok value => exact late value rfl halt stopped

/-- What follows stops in these ways for any value. -/
theorem stops_then {first : Plan α} {next : α → Plan β} (early : first.Stops ways)
    (late : ∀ value, (next value).Stops ways) : (first >>= next).Stops ways :=
  stops_bind early fun value _ => late value

/-- What stops after some writes carries them, so it may not be refused any more where a
plan may only be refused before its writes. -/
theorem stops_writing {changes : List Write} {rest : Plan Effects}
    (late : rest.Stops fun halt => ways (halt.after changes)) :
    (writing changes rest).Stops ways := by
  intro halt stopped
  cases rest with
  | ok effects => cases stopped
  | error cause =>
    cases stopped
    exact late cause rfl

end Stops

/-! ## Parts of plans, which are refused only -/

section Refusals

variable {ways : Halt → Prop} {commander : Commander}

theorem purchase_stops (refusals : ∀ reason, ways (.refused [] reason)) (port : Port)
    (c : Commodity) (qty : Nat) (price : Int) :
    (purchase port c qty price commander).Stops ways :=
  stops_then (stops_require (refusals _)) fun _ => stops_then (stops_require (refusals _)) fun _ =>
    stops_then (stops_require (refusals _)) fun _ =>
    stops_then (stops_require (refusals _)) fun _ => stops_pure _

theorem sale_stops (refusals : ∀ reason, ways (.refused [] reason)) (port : Port)
    (c : Commodity) (qty : Nat) (price : Int) : (sale port c qty price commander).Stops ways :=
  stops_then (stops_require (refusals _)) fun _ => stops_then (stops_require (refusals _)) fun _ =>
    stops_then (stops_require (refusals _)) fun _ => stops_pure _

theorem accessiblePlanet_stops (refusals : ∀ reason, ways (.refused [] reason)) (look : Lookup) :
    (accessiblePlanet look commander).Stops ways :=
  stops_then (stops_expect (refusals _)) fun _ =>
    stops_then (stops_require (refusals _)) fun _ => stops_pure _

theorem deployment_stops (refusals : ∀ reason, ways (.refused [] reason)) (quantity : Int) :
    (deployment quantity).Stops ways :=
  stops_then (stops_require (refusals _)) fun _ =>
    stops_then (stops_require (refusals _)) fun _ => stops_pure _

theorem buyShip_stops (refusals : ∀ reason, ways (.refused [] reason)) (player : Player)
    (code : String) : (buyShip player code).Stops ways :=
  stops_then (stops_require (refusals _)) fun _ =>
    stops_then (stops_expect (refusals _)) fun _ =>
    stops_then (stops_require (refusals _)) fun _ =>
    stops_then (stops_require (refusals _)) fun _ =>
    stops_then (stops_require (refusals _)) fun _ => stops_pure _

theorem sellShip_stops (refusals : ∀ reason, ways (.refused [] reason)) (player : Player) :
    (sellShip player).Stops ways :=
  stops_then (stops_require (refusals _)) fun _ =>
    stops_then (stops_require (refusals _)) fun _ => stops_pure _

theorem upgradeShip_stops (refusals : ∀ reason, ways (.refused [] reason)) (player : Player)
    (part : String) : (upgradeShip player part).Stops ways := by
  refine stops_then (stops_require (refusals _)) fun _ => ?_
  split
  · exact stops_then (stops_require (refusals _)) fun _ =>
      stops_then (stops_require (refusals _)) fun _ => stops_pure _
  · exact stops_then (stops_require (refusals _)) fun _ =>
      stops_then (stops_require (refusals _)) fun _ => stops_pure _
  · exact stops_refuse (refusals _)

theorem atYard_stops (refusals : ∀ reason, ways (.refused [] reason)) (player : Player)
    (order : YardOrder) : (atYard player order).Stops ways := by
  cases order with
  | info => exact stops_pure _
  | buy code => exact stops_then (buyShip_stops refusals player code) fun _ => stops_pure _
  | sell => exact stops_then (sellShip_stops refusals player) fun _ => stops_pure _
  | upgrade part => exact stops_then (upgradeShip_stops refusals player part) fun _ => stops_pure _
  | unknown => exact stops_refuse (refusals _)

end Refusals

/-! ## Plans -/

section Plans

variable {α : Type} {look : Lookup} {now : Int} {commander : Commander} {opening : List Write}
  {ways : Halt → Prop}

/-- What a lookup that serves the commander has is read, and what is read in other
lookups may fail. -/
theorem stops_served {answer : Except StoreFailure α}
    (served : look.Serves now commander → ∃ value, answer = .ok value)
    (failures : ∀ failure, ¬ look.Serves now commander → ways (.failed [] failure)) :
    (read answer).Stops ways :=
  stops_read fun failure failed => failures failure fun serves => by
    obtain ⟨value, found⟩ := served serves
    cases failed.symm.trans found

theorem scan_stops :
    (scan look now commander).Stops
      (Stop look now commander (Command.opening now commander .scan)) := by
  refine stops_writing (stops_then (stops_served (·.port _) .failed) fun port => ?_)
  cases port with
  | none => exact stops_writing (stops_pure _)
  | some port =>
    exact stops_then (stops_served (·.sector) .failed) fun _ =>
      stops_then (stops_served (·.event _) .failed) fun _ => stops_writing (stops_pure _)

theorem arrive_stops (there : SectorId) :
    (arrive look now commander there).Stops
      (Stop look now commander [.discover commander.id there]) :=
  stops_writing (stops_then (stops_served (·.event _) .failed) fun _ =>
    stops_writing (stops_pure _))

theorem move_stops (target : Int) :
    (move look now commander target).Stops
      (Stop look now commander (Command.opening now commander (.move target))) := by
  refine stops_bind (stops_expect (.refused _)) fun there destined => ?_
  have opening : Command.opening now commander (.move target) =
      [.discover commander.id there] := by
    rw [Command.opening, expect_success destined]
    rfl
  rw [opening]
  dsimp only
  split
  · exact stops_then (stops_require (.refused _)) fun _ => arrive_stops there
  · exact stops_then (stops_require (.refused _)) fun _ => arrive_stops there

theorem trade_stops (side : Option TradeSide) (commodity : Option Commodity) (quantity : Int) :
    (trade look now commander side commodity quantity).Stops (Stop look now commander []) := by
  refine stops_then (stops_expect (.refused _)) fun side =>
    stops_then (stops_expect (.refused _)) fun c =>
    stops_then (stops_expect (.refused _)) fun qty =>
    stops_then (stops_served (·.port _) .failed) fun port? =>
    stops_then (stops_expect (.refused _)) fun port =>
    stops_then (stops_served (·.event _) .failed) fun event => ?_
  cases side with
  | buy =>
    exact stops_then (purchase_stops .refused _ _ _ _) fun _ => stops_writing (stops_pure _)
  | sell => exact stops_then (sale_stops .refused _ _ _ _) fun _ => stops_writing (stops_pure _)

theorem colonize_stops (name : String) :
    (colonize look commander name).Stops (Stop look now commander []) := by
  unfold colonize
  dsimp only
  split
  · refine stops_then (stops_pure _) fun name => ?_
    split
    · exact stops_then (stops_require (.refused _)) fun _ =>
        stops_then (stops_require (.refused _)) fun _ => stops_writing (stops_pure _)
    · exact stops_then (stops_require (.refused _)) fun _ => stops_writing (stops_pure _)
  · exact stops_refuse (.refused _)

theorem planet_stops (order : PlanetOrder) :
    (planet look commander order).Stops (Stop look now commander []) := by
  cases order with
  | info =>
    unfold planet planetInfo
    dsimp only
    split <;> exact stops_pure _
  | colonize name => exact colonize_stops name
  | load commodity quantity | unload commodity quantity =>
    exact stops_then (stops_expect (.refused _)) fun _ =>
      stops_then (stops_expect (.refused _)) fun _ =>
      stops_then (accessiblePlanet_stops .refused _) fun _ =>
      stops_then (stops_require (.refused _)) fun _ =>
      stops_then (stops_require (.refused _)) fun _ => stops_writing (stops_pure _)
  | upgradeCitadel =>
    exact stops_then (accessiblePlanet_stops .refused _) fun _ =>
      stops_then (stops_require (.refused _)) fun _ =>
      stops_then (stops_require (.refused _)) fun _ => stops_writing (stops_pure _)
  | unknown => exact stops_refuse (.refused _)

/-- The corporation of a member is read. -/
theorem employer_stops {membership : Membership}
    (belongs : Plan.membership commander = .ok membership) :
    (read (look.corpOrFail membership.corp)).Stops (Stop look now commander []) :=
  stops_served (·.corp _ (expect_success belongs)) .failed

theorem corpInfo_stops : (corpInfo look commander).Stops (Stop look now commander []) := by
  unfold corpInfo
  dsimp only
  split
  · exact stops_pure _
  · next membership belongs =>
    exact stops_then (stops_served (·.corp membership belongs) .failed) fun _ =>
      stops_then (stops_served (·.members _) .failed) fun _ => stops_pure _

theorem createCorp_stops (name : String) :
    (createCorp look now commander name).Stops (Stop look now commander []) := by
  refine stops_then (stops_require (.refused _)) fun _ => ?_
  dsimp only
  split
  · exact stops_then (stops_pure _) fun _ =>
      stops_then (stops_require (.refused _)) fun _ => stops_writing (stops_pure _)
  · exact stops_refuse (.refused _)

theorem sayToCorp_stops (text : String) :
    (sayToCorp look now commander text).Stops
      (Stop look now commander (Command.opening now commander (.corp (.say text)))) := by
  refine stops_bind (stops_expect (.refused _)) fun membership belongs => ?_
  have opening : Command.opening now commander (.corp (.say text)) =
      [.insertMessage ⟨membership.corp, commander.id, Naming.cleanMessage text, now⟩] := by
    rw [Command.opening, expect_success belongs]
    rfl
  rw [opening]
  exact stops_then (stops_require (.refused _)) fun _ =>
    stops_then (stops_require (.refused _)) fun _ =>
    stops_writing (stops_then (stops_served (·.members _) .failed) fun _ =>
      stops_writing (stops_pure _))

theorem corp_stops (order : CorpOrder) :
    (corp look now commander order).Stops
      (Stop look now commander (Command.opening now commander (.corp order))) := by
  cases order with
  | info => exact corpInfo_stops
  | create name => exact createCorp_stops name
  | join name =>
    exact stops_then (stops_require (.refused _)) fun _ =>
      stops_then (stops_require (.refused _)) fun _ =>
      stops_then (stops_expect (.refused _)) fun _ => stops_writing (stops_pure _)
  | leave =>
    exact stops_then (stops_expect (.refused _)) fun _ =>
      stops_then (stops_served (·.members _) .failed) fun _ => stops_writing (stops_pure _)
  | say text => exact sayToCorp_stops text
  | deposit amount =>
    exact stops_bind (stops_expect (.refused _)) fun _ belongs =>
      stops_then (stops_require (.refused _)) fun _ =>
      stops_then (stops_require (.refused _)) fun _ =>
      stops_then (employer_stops belongs) fun _ => stops_writing (stops_pure _)
  | withdraw amount =>
    exact stops_bind (stops_expect (.refused _)) fun _ belongs =>
      stops_then (stops_require (.refused _)) fun _ =>
      stops_then (stops_require (.refused _)) fun _ =>
      stops_then (employer_stops belongs) fun _ =>
      stops_then (stops_require (.refused _)) fun _ => stops_writing (stops_pure _)
  | unknown => exact stops_refuse (.refused _)

theorem mine_stops (order : MineOrder) :
    (mine look now commander order).Stops (Stop look now commander []) := by
  cases order with
  | info => exact stops_pure _
  | deploy quantity =>
    exact stops_then (deployment_stops .refused _) fun _ =>
      stops_then (stops_served (·.sector) .failed) fun _ =>
      stops_then (stops_require (.refused _)) fun _ =>
      stops_then (stops_require (.refused _)) fun _ => stops_writing (stops_pure _)
  | sweep =>
    unfold mine sweep
    dsimp only
    split
    · exact stops_pure _
    · exact stops_writing (stops_pure _)
  | unknown => exact stops_refuse (.refused _)

theorem shipyard_stops (order : YardOrder) :
    (shipyard look commander order).Stops (Stop look now commander []) :=
  stops_then (stops_served (·.sector) .failed) fun _ =>
    stops_then (stops_require (.refused _)) fun _ =>
    stops_then (atYard_stops .refused _ _) fun _ => stops_pure _

end Plans

end Plan

/-- Every plan without effects is a stop. -/
theorem Command.plan_stops (look : Lookup) (now : Int) (commander : Commander)
    (command : Command) :
    (command.plan look now commander).Stops
      (Plan.Stop look now commander (command.opening now commander)) := by
  cases command with
  | scan => exact Plan.scan_stops
  | move target => exact Plan.move_stops target
  | trade side commodity quantity => exact Plan.trade_stops side commodity quantity
  | planet order => exact Plan.planet_stops order
  | corp order => exact Plan.corp_stops order
  | mine order => exact Plan.mine_stops order
  | shipyard order => exact Plan.shipyard_stops order
  | market filter | route filter =>
    exact Plan.stops_then (Plan.stops_served (·.intel) .failed) fun _ => Plan.stops_pure _
  | events =>
    exact Plan.stops_then (Plan.stops_served (·.events) .failed) fun _ => Plan.stops_pure _
  | rankings | season | help => exact Plan.stops_pure _
  | unknown => exact Plan.stops_refuse (.refused _)

end Starlane
