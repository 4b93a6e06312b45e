import Starlane.Archive
import Starlane.Bounds
import Starlane.Chance.Dice
import Starlane.Chance.Stream
import Starlane.Chance.Tape
import Starlane.Command
import Starlane.Command.Request
import Starlane.Command.Tagged
import Starlane.Commodity
import Starlane.Corporation
import Starlane.Drill
import Starlane.Drill.Basic
import Starlane.Drill.Layout
import Starlane.Drill.Scripts
import Starlane.Drill.Surroundings
import Starlane.Event
import Starlane.Event.Roll
import Starlane.Execution
import Starlane.Identity
import Starlane.Intel
import Starlane.Json.Reader
import Starlane.Json.Record
import Starlane.Json.Token
import Starlane.Json.Value
import Starlane.Json.Writer
import Starlane.Log
import Starlane.Main
import Starlane.Market
import Starlane.Minefield
import Starlane.Naming
import Starlane.Number.Binary64
import Starlane.Overflow
import Starlane.Plan
import Starlane.Plan.Basic
import Starlane.Plan.Briefing
import Starlane.Plan.Colony
import Starlane.Plan.Company
import Starlane.Plan.Flight
import Starlane.Plan.Mining
import Starlane.Plan.Shipyard
import Starlane.Plan.Trade
import Starlane.Planet
import Starlane.Player
import Starlane.Port
import Starlane.Price
import Starlane.Proofs.Admission
import Starlane.Proofs.Advancement
import Starlane.Proofs.Agreement
import Starlane.Proofs.Allowance
import Starlane.Proofs.Answer
import Starlane.Proofs.Arrival
import Starlane.Proofs.Bargain
import Starlane.Proofs.Brokerage
import Starlane.Proofs.Calling
import Starlane.Proofs.Casing
import Starlane.Proofs.Chart
import Starlane.Proofs.Choice
import Starlane.Proofs.Chronicle
import Starlane.Proofs.Cleaning
import Starlane.Proofs.Codes
import Starlane.Proofs.Commit
import Starlane.Proofs.Commutation
import Starlane.Proofs.Concealment
import Starlane.Proofs.Consumption
import Starlane.Proofs.Course
import Starlane.Proofs.Decoding
import Starlane.Proofs.Deed
import Starlane.Proofs.Depletion
import Starlane.Proofs.Encoding
import Starlane.Proofs.Exploration
import Starlane.Proofs.Fault
import Starlane.Proofs.Filing
import Starlane.Proofs.Flight
import Starlane.Proofs.Footprint
import Starlane.Proofs.Freight
import Starlane.Proofs.Growth
import Starlane.Proofs.Headroom
import Starlane.Proofs.History
import Starlane.Proofs.Hosting
import Starlane.Proofs.Importing
import Starlane.Proofs.Instalments
import Starlane.Proofs.Inversion
import Starlane.Proofs.Isolation
import Starlane.Proofs.Itinerary
import Starlane.Proofs.Knowledge
import Starlane.Proofs.Ledger
import Starlane.Proofs.Level
import Starlane.Proofs.Lifecycle
import Starlane.Proofs.Likeness
import Starlane.Proofs.Limit
import Starlane.Proofs.Minelaying
import Starlane.Proofs.Mirror
import Starlane.Proofs.Numbering
import Starlane.Proofs.Outset
import Starlane.Proofs.Pairing
import Starlane.Proofs.Parallel
import Starlane.Proofs.Passage
import Starlane.Proofs.Planning
import Starlane.Proofs.PlayerInvariant
import Starlane.Proofs.Pricing
import Starlane.Proofs.Range
import Starlane.Proofs.Reach
import Starlane.Proofs.Recruitment
import Starlane.Proofs.Refusal
import Starlane.Proofs.Regeneration
import Starlane.Proofs.Renumbering
import Starlane.Proofs.Reordered
import Starlane.Proofs.Replication
import Starlane.Proofs.Rereading
import Starlane.Proofs.Resale
import Starlane.Proofs.Response
import Starlane.Proofs.Retention
import Starlane.Proofs.Rights
import Starlane.Proofs.Rolls
import Starlane.Proofs.Roster
import Starlane.Proofs.Rounding
import Starlane.Proofs.Ruling
import Starlane.Proofs.Scans
import Starlane.Proofs.Search
import Starlane.Proofs.Settings
import Starlane.Proofs.Settlement
import Starlane.Proofs.Spelling
import Starlane.Proofs.Stockpile
import Starlane.Proofs.Succession
import Starlane.Proofs.Table
import Starlane.Proofs.Tenure
import Starlane.Proofs.Timetable
import Starlane.Proofs.Twinning
import Starlane.Proofs.Unique
import Starlane.Proofs.Verdict
import Starlane.Proofs.Wording
import Starlane.Proofs.Writing
import Starlane.Protectorate
import Starlane.Rank
import Starlane.Refusal
import Starlane.Report
import Starlane.Report.Status
import Starlane.Report.View
import Starlane.Route
import Starlane.Route.Chart
import Starlane.Server.Admin
import Starlane.Server.Call
import Starlane.Server.Catalog
import Starlane.Server.Change
import Starlane.Server.Client
import Starlane.Server.Codec
import Starlane.Server.Column
import Starlane.Server.Database
import Starlane.Server.Lookup
import Starlane.Server.Relation
import Starlane.Server.Row
import Starlane.Server.Schedule
import Starlane.Server.Tabular
import Starlane.Server.Tick
import Starlane.Settings
import Starlane.Ship
import Starlane.Storage
import Starlane.Store.Failure
import Starlane.Store.Lookup
import Starlane.Store.Write
import Starlane.Table
import Starlane.Text.Blank
import Starlane.Text.CaseClass
import Starlane.Text.CaseTable
import Starlane.Text.Casing
import Starlane.Time.Calendar
import Starlane.Time.Span
import Starlane.Universe
import Starlane.World.Basic
import Starlane.World.Change
import Starlane.World.Lookup
import Starlane.World.Seed
import Starlane.World.Tick
import Starlane.Proofs.Casing
import Starlane.Proofs.Codes
