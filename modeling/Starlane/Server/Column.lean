import Starlane.Commodity
import Starlane.Json.Record

/-!
# Columns

A column names one value of a row and tells how it is read from the row and how it is replaced.
A row is shown as an object of its columns, and a value of the wrong type counts as a blank one.
-/

namespace Starlane.Server

/-- A column of a table. -/
structure Column (ρ : Type) where
  name : String
  get : ρ → Json
  set : Json → ρ → ρ

namespace Column

variable {ρ : Type}

/-- A column of identifiers or sizes. -/
def number (name : String) (get : ρ → Nat) (set : ρ → Nat → ρ) : Column ρ where
  name
  get row := .ofNat (get row)
  set value row := set row ((Json.identifier? value).getD 0)

/-- A column of signed amounts or times. -/
def amount (name : String) (get : ρ → Int) (set : ρ → Int → ρ) : Column ρ where
  name
  get row := .ofInt (get row)
  set value row := set row ((Json.amount? value).getD 0)

/-- A column of texts. -/
def text (name : String) (get : ρ → String) (set : ρ → String → ρ) : Column ρ where
  name
  get row := .ofString (get row)
  set value row := set row ((Json.string? value).getD "")

/-- A column of truth values. -/
def flag (name : String) (get : ρ → Bool) (set : ρ → Bool → ρ) : Column ρ where
  name
  get row := .bool (get row)
  set value row := set row ((Json.bool? value).getD false)

/-- A column of identifiers that may be missing. -/
def reference (name : String) (get : ρ → Option Nat) (set : ρ → Option Nat → ρ) : Column ρ where
  name
  get row := .ofOption .ofNat (get row)
  set value row := set row (Json.identifier? value)

/-- A column of times that may be missing. -/
def stamp (name : String) (get : ρ → Option Int) (set : ρ → Option Int → ρ) : Column ρ where
  name
  get row := .ofOption .ofInt (get row)
  set value row := set row (Json.amount? value)

/-- A column for each commodity of a load; `label` turns a commodity's noun into the name. -/
def load (label : String → String) (get : ρ → Goods Nat) (set : ρ → Goods Nat → ρ) :
    List (Column ρ) :=
  Commodity.all.map fun c =>
    number (label c.noun) (fun row => (get row).get c) fun row qty => set row ((get row).set c qty)

/-- A row as an object of its columns. -/
def rowToJson (columns : List (Column ρ)) (row : ρ) : Json :=
  .ofFields (columns.map fun column => (column.name, column.get row))

/-- A row with the columns that an object names replaced. -/
def overwrite (columns : List (Column ρ)) (values : Json) (row : ρ) : ρ :=
  columns.foldl (fun row column =>
    match values.get? column.name with
    | some value => column.set value row
    | none => row) row

end Column

end Starlane.Server
