import Starlane.Refusal
import Starlane.Report.Status
import Starlane.Report.View

/-!
# Responses

What a player receives for a command: the message, their status, the view of their sector and the
newest lines of their log.
-/

namespace Starlane

/-- The response to a command.  A refused command names its reason. -/
structure Response where
  message : String
  refusal : Option Refusal
  status : Status
  sector : SectorView
  logs : List LogEntry
  deriving DecidableEq, Repr

/-- The JSON form of a log line. -/
def LogEntry.toJson (entry : LogEntry) : Json :=
  .ofFields [("at", .ofInt entry.time), ("kind", .ofString entry.kind.code),
    ("message", .ofString entry.message)]

namespace Response

/-- Whether the command was carried out. -/
def ok (response : Response) : Bool :=
  response.refusal.isNone

/-- The JSON form; a refusal appears as its code, and an empty log is left out. -/
def toJson (response : Response) : Json :=
  let logs := response.logs.map LogEntry.toJson
  .ofFields ([("ok", .bool response.ok), ("message", .ofString response.message)] ++
    Json.optionalField "error" (response.refusal.map fun reason => .ofString reason.code) ++
    [("state", response.status.toJson), ("sector", response.sector.toJson)] ++
    (if logs.isEmpty then [] else [("logs", .list logs)]))

end Response

/-- The response to a commander, read from the state after the command. -/
def Lookup.respond (look : Lookup) (shown : Nat) (now : Int) (commander : Commander)
    (message : String) (refusal : Option Refusal) : Except StoreFailure Response := do
  let sector ← look.view commander.sector now
  let logs ← look.recentLogs commander.id shown
  return { message, refusal, status := .ofCommander commander, sector, logs }

end Starlane
