import Starlane.Json.Record
import Starlane.Text.Casing

/-!
# Requests

What a client sends: a record of loose texts and numbers, every field of it optional.
-/

namespace Starlane

/-- A request as sent. -/
structure Request where
  kind : String
  target : Int
  action : String
  commodity : String
  quantity : Int
  name : String
  text : String
  deriving DecidableEq, Repr

namespace Request

/-- A request of a kind that says nothing else. -/
def ofKind (kind : String) : Request :=
  ⟨kind, 0, "", "", 0, "", ""⟩

/-- The request with its texts trimmed and its codes in upper case. -/
def normalized (request : Request) : Request :=
  { request with
    kind := Text.upper (Text.trim request.kind)
    action := Text.upper (Text.trim request.action)
    commodity := Text.upper (Text.trim request.commodity)
    name := Text.trim request.name
    text := Text.trim request.text }

/-- Reads a request; a field that is not given is empty or zero. -/
def ofJson? (value : Json) : Option Request := do
  let names := ["type", "to", "action", "commodity", "quantity", "name", "text"]
  match ← Json.record? names value with
  | [kind, target, action, commodity, quantity, name, text] =>
    return {
      kind := ← Json.defaulted "" Json.string? kind
      target := ← Json.defaulted 0 Json.amount? target
      action := ← Json.defaulted "" Json.string? action
      commodity := ← Json.defaulted "" Json.string? commodity
      quantity := ← Json.defaulted 0 Json.amount? quantity
      name := ← Json.defaulted "" Json.string? name
      text := ← Json.defaulted "" Json.string? text }
  | _ => none

/-- The JSON form of a request. -/
def toJson (request : Request) : Json :=
  .ofFields [("type", .ofString request.kind), ("to", .ofInt request.target),
    ("action", .ofString request.action), ("commodity", .ofString request.commodity),
    ("quantity", .ofInt request.quantity), ("name", .ofString request.name),
    ("text", .ofString request.text)]

/-- The request of a document. -/
def read? (document : String) : Option Request :=
  (Json.parse? document).bind ofJson?

end Request

end Starlane
