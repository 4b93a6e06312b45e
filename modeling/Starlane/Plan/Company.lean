import Starlane.Command
import Starlane.Plan.Basic

/-!
# Corporations

Founding, joining and leaving a corporation, messages to its members, and its bank.
-/

namespace Starlane.Plan

/-- The membership of a commander who must have one. -/
def membership (commander : Commander) : Plan Membership :=
  expect commander.membership .notInCorp

/-- Plans the report on the commander's corporation. -/
def corpInfo (look : Lookup) (commander : Commander) : Plan Effects := do
  match commander.membership with
  | none =>
    return .logged commander [] .system
      "You are not in a corporation. Use CORP CREATE \x7bname\x7d or CORP JOIN \x7bname\x7d."
  | some membership =>
    let corp ← read (look.corpOrFail membership.corp)
    let members ← read (look.members corp.id)
    let text := "\n".intercalate [
      s!"Corporation: {corp.name}",
      s!"Role: {membership.role.code}",
      s!"Members: {members.length}",
      s!"Bank credits: {corp.bank}",
      s!"Planets controlled: {look.planetCount corp.id}"]
    return .logged commander [] .system text

/-- Plans a new corporation with the commander as its leader. -/
def createCorp (look : Lookup) (now : Int) (commander : Commander) (name : String) :
    Plan Effects := do
  require commander.membership.isNone .alreadyInCorp
  let name ←
    match Naming.corpName name with
    | .ok name => pure name
    | .error error => refuse (.invalidName error)
  require (look.corpNamed name).isNone .corpNameTaken
  let corp := look.nextCorp
  let founder := { commander with membership := some ⟨corp, name, .leader, 0⟩ }
  writing [.insertCorp name now, .insertMember ⟨corp, commander.id, .leader, now⟩] do
    return .logged founder [] .action s!"Created corporation '{name}'."

/-- Plans joining a corporation by its name. -/
def joinCorp (look : Lookup) (now : Int) (commander : Commander) (name : String) :
    Plan Effects := do
  require commander.membership.isNone .alreadyInCorp
  let name := Text.trim name
  require (!name.isEmpty) .corpNameMissing
  let corp ← expect (look.corpNamed name) .corpNotFound
  let recruit := { commander with membership := some ⟨corp.id, corp.name, .member, corp.bank⟩ }
  writing [.insertMember ⟨corp.id, commander.id, .member, now⟩] do
    return .logged recruit [] .action s!"Joined corporation '{corp.name}'."

/-- Plans leaving the corporation.  A leader hands over to the first other member of the roster,
and the last member dissolves the corporation. -/
def leaveCorp (look : Lookup) (commander : Commander) : Plan Effects := do
  let membership ← membership commander
  let members ← read (look.members membership.corp)
  let successor? :=
    if membership.role = .leader ∧ 1 < members.length then
      members.find? fun member => member.player != commander.id
    else none
  let handover :=
    match successor? with
    | some successor => [Write.setRole membership.corp successor.player .leader]
    | none => []
  let dissolution := if members.length ≤ 1 then [Write.deleteCorp membership.corp] else []
  writing (handover ++ .deleteMember membership.corp commander.id :: dissolution) do
    return .logged { commander with membership := none } [] .action
      s!"Left corporation '{membership.name}'."

/-- Plans a message to the corporation: a line in the log of every member. -/
def sayToCorp (look : Lookup) (now : Int) (commander : Commander) (text : String) :
    Plan Effects := do
  let membership ← membership commander
  let text := Naming.cleanMessage text
  require (!text.isEmpty) .messageEmpty
  require (decide (text.length ≤ messageLengthMax)) .messageTooLong
  writing [.insertMessage ⟨membership.corp, commander.id, text, now⟩] do
    let members ← read (look.members membership.corp)
    let line := s!"[{membership.name}] {commander.username}: {text}"
    let delivered := members.flatMap fun member =>
      [Write.insertLog member.player ⟨now, .corp, line⟩, .pruneLogs member.player logKeep]
    writing delivered do
      return .silent commander [] "Corp message sent."

/-- The commander with another balance in the snapshot of their corporation. -/
def withBank (commander : Commander) (bank : Int) : Commander :=
  { commander with membership := commander.membership.map fun m => { m with bank } }

/-- Plans a payment into the bank. -/
def deposit (look : Lookup) (commander : Commander) (amount : Int) : Plan Effects := do
  let membership ← membership commander
  require (decide (1 ≤ amount)) .depositTooSmall
  require (decide (amount ≤ commander.credits)) .depositCreditsShort
  let corp ← read (look.corpOrFail membership.corp)
  let bank := corp.bank + amount
  let payer := withBank { commander with credits := commander.credits - amount } bank
  writing [.saveCorp { corp with bank }] do
    return .logged payer [] .action
      s!"Deposited {amount} credits to corp bank. New bank balance: {bank}."

/-- Plans a payment out of the bank, which only the leadership may order. -/
def withdraw (look : Lookup) (commander : Commander) (amount : Int) : Plan Effects := do
  let membership ← membership commander
  require membership.role.canWithdraw .withdrawForbidden
  require (decide (1 ≤ amount)) .withdrawTooSmall
  let corp ← read (look.corpOrFail membership.corp)
  require (decide (amount ≤ corp.bank)) .bankShort
  let bank := corp.bank - amount
  let payee := withBank { commander with credits := commander.credits + amount } bank
  writing [.saveCorp { corp with bank }] do
    return .logged payee [] .action
      s!"Withdrew {amount} credits from corp bank. New bank balance: {bank}."

/-- Plans an order for a corporation. -/
def corp (look : Lookup) (now : Int) (commander : Commander) : CorpOrder → Plan Effects
  | .info => corpInfo look commander
  | .create name => createCorp look now commander name
  | .join name => joinCorp look now commander name
  | .leave => leaveCorp look commander
  | .say text => sayToCorp look now commander text
  | .deposit amount => deposit look commander amount
  | .withdraw amount => withdraw look commander amount
  | .unknown => refuse (.unknownSubcommand .corp)

end Starlane.Plan
