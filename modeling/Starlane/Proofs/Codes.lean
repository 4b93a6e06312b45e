import Starlane.Command
import Starlane.Proofs.Casing

/-!
# Requests and the codes of their commands

A request is put into its normal form once and for all, and means what its normal form means. The
codes of the command that it means say the same as its own type and action, an order that is not
understood apart: that one has no code.
-/

namespace Starlane

open Text

/-! ## The normal form -/

theorem Request.normalized_normalized (request : Request) :
    request.normalized.normalized = request.normalized := by
  simp only [normalized, upper_trim_idem, trim_trim]

/-- A request means what its normal form means. -/
theorem Command.ofRequest_normalized (request : Request) :
    ofRequest request.normalized = ofRequest request := by
  rw [ofRequest, request.normalized_normalized]
  rfl

/-! ## Codes -/

theorem Command.upper_trim_kindCode (command : Command) :
    upper (trim command.kindCode) = command.kindCode := by
  have codes : ∀ code ∈ ["SCAN", "MOVE", "TRADE", "PLANET", "CORP", "MINE", "SHIPYARD", "MARKET",
      "ROUTE", "EVENTS", "RANKINGS", "SEASON", "HELP", "UNKNOWN"], upper (trim code) = code := by
    decide +kernel
  fun_cases kindCode command <;> exact codes _ (by simp)

theorem Command.upper_trim_actionCode (command : Command) :
    upper (trim command.actionCode) = command.actionCode := by
  have codes : ∀ code ∈ ["", "BUY", "SELL", "INFO", "COLONIZE", "LOAD", "UNLOAD", "UPGRADE_CITADEL",
      "CREATE", "JOIN", "LEAVE", "SAY", "DEPOSIT", "WITHDRAW", "DEPLOY", "SWEEP", "UPGRADE"],
      upper (trim code) = code := by
    decide +kernel
  fun_cases actionCode command <;> exact codes _ (by simp)

/-- The command that the codes of a command ask for. An order that is not understood has no code,
and without one a request is for information. -/
def Command.coded : Command → Command
  | planet .unknown => planet .info
  | corp .unknown => corp .info
  | mine .unknown => mine .info
  | shipyard .unknown => shipyard .info
  | command => command

/-- A request with the codes of the command that it means. -/
def Request.coded (request : Request) : Request :=
  let command := Command.ofRequest request
  { request with kind := command.kindCode, action := command.actionCode }

section Orders

variable (request : Request) (kind : String)

theorem TradeSide.ofAction?_code (side : Option TradeSide) (c : Option Commodity) (quantity : Int) :
    ofAction? (Command.trade side c quantity).actionCode = side := by
  rcases side with _ | _ | _ <;> rfl

theorem PlanetOrder.ofRequest_code :
    let command := Command.planet (ofRequest request)
    .planet (ofRequest { request with kind, action := command.actionCode }) = command.coded := by
  fun_cases ofRequest request <;> rfl

theorem CorpOrder.ofRequest_code :
    let command := Command.corp (ofRequest request)
    .corp (ofRequest { request with kind, action := command.actionCode }) = command.coded := by
  fun_cases ofRequest request <;> rfl

theorem MineOrder.ofRequest_code :
    let command := Command.mine (ofRequest request)
    .mine (ofRequest { request with kind, action := command.actionCode }) = command.coded := by
  fun_cases ofRequest request <;> rfl

theorem YardOrder.ofRequest_code :
    let command := Command.shipyard (ofRequest request)
    .shipyard (ofRequest { request with kind, action := command.actionCode }) = command.coded := by
  fun_cases ofRequest request <;> rfl

end Orders

namespace Command

theorem ofNormalized_code (request : Request) :
    let command := ofNormalized request
    ofNormalized { request with kind := command.kindCode, action := command.actionCode } =
      command.coded := by
  fun_cases ofNormalized request
  case case3 c _ =>
    exact congrArg (trade · c request.quantity) (TradeSide.ofAction?_code _ c request.quantity)
  case case4 => exact PlanetOrder.ofRequest_code request "PLANET"
  case case5 => exact CorpOrder.ofRequest_code request "CORP"
  case case6 => exact MineOrder.ofRequest_code request "MINE"
  case case7 => exact YardOrder.ofRequest_code request "SHIPYARD"
  all_goals rfl

/-- A request with codes means the command that the codes ask for. -/
theorem ofRequest_coded (request : Request) :
    ofRequest request.coded = (ofRequest request).coded := by
  have normal : request.coded.normalized =
      { request.normalized with
        kind := (ofRequest request).kindCode
        action := (ofRequest request).actionCode } := by
    simp only [Request.coded, Request.normalized, upper_trim_kindCode, upper_trim_actionCode]
  rw [ofRequest, normal]
  exact ofNormalized_code request.normalized

-- Both spellings of an upgrade of a citadel have the one code.
example : Request.coded ⟨" planet", 0, "Upgrade", "", 0, "Citadel ", ""⟩ =
    ⟨"PLANET", 0, "UPGRADE_CITADEL", "", 0, "Citadel ", ""⟩ := by
  decide +kernel

theorem coded_eq_self {command : Command} : command.coded = command ↔
    command ∉ [planet .unknown, corp .unknown, mine .unknown, shipyard .unknown] := by
  fun_cases coded command <;> simp_all

/-- What an order that is not understood asks for has a code for its action; the order has none. -/
theorem actionCode_coded {command : Command} :
    command.coded.actionCode = command.actionCode ↔ command.coded = command := by
  fun_cases coded command <;> simp [actionCode]

/-- A command is known from what its codes ask for and the code of its action. -/
theorem eq_of_coded {first second : Command} (asked : first.coded = second.coded)
    (action : first.actionCode = second.actionCode) : first = second := by
  have alike : first.coded = first ↔ second.coded = second := by
    rw [← actionCode_coded, ← actionCode_coded, asked, action]
  by_cases understood : first.coded = first
  · calc first = first.coded := understood.symm
      _ = second.coded := asked
      _ = second := alike.mp understood
  · have other := mt alike.mpr understood
    rw [coded_eq_self, not_not] at understood other
    simp only [List.mem_cons, List.not_mem_nil, or_false] at understood other
    -- Neither order is understood: what they ask for tells what they are for.
    rcases understood with rfl | rfl | rfl | rfl <;> rcases other with rfl | rfl | rfl | rfl <;>
      cases asked <;> rfl

end Command

/-- The normal form of a request is its own normal form and means the same. With the codes of the
command that it means for its type and its action, a request means that command again, if that is
no unknown order. And requests that differ in type and action alone mean the same if and only if
their commands have the same codes. -/
theorem codes_identify_commands (request : Request) :
    request.normalized.normalized = request.normalized ∧
    Command.ofRequest request.normalized = Command.ofRequest request ∧
    (Command.ofRequest request.coded = Command.ofRequest request ↔
      Command.ofRequest request ∉
        [.planet .unknown, .corp .unknown, .mine .unknown, .shipyard .unknown]) ∧
    ∀ kind action,
      let other := Command.ofRequest { request with kind, action }
      other = Command.ofRequest request ↔
        other.kindCode = (Command.ofRequest request).kindCode ∧
          other.actionCode = (Command.ofRequest request).actionCode := by
  refine ⟨request.normalized_normalized, Command.ofRequest_normalized request, ?_,
    fun kind action => ⟨fun same => ?_, fun ⟨kinds, actions⟩ => ?_⟩⟩
  · rw [Command.ofRequest_coded, Command.coded_eq_self]
  · rw [same]
    exact ⟨rfl, rfl⟩
  · have codes : { request with kind, action }.coded = request.coded := by
      simp only [Request.coded, kinds, actions]
    refine Command.eq_of_coded ?_ actions
    rw [← Command.ofRequest_coded, codes, Command.ofRequest_coded]

end Starlane
