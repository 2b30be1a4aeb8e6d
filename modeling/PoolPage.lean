import PoolPage.Agenda
import PoolPage.Backend
import PoolPage.Calendar
import PoolPage.Chart.Line
import PoolPage.Chart.Sparkline
import PoolPage.Command
import PoolPage.Dashboard.Answers
import PoolPage.Dashboard.Basic
import PoolPage.Dashboard.Clock
import PoolPage.Dashboard.Loop
import PoolPage.Dashboard.Session
import PoolPage.Figure
import PoolPage.Files
import PoolPage.Http
import PoolPage.Http.Message
import PoolPage.Json.Document
import PoolPage.Json.Read
import PoolPage.Json.Schema
import PoolPage.Json.Value
import PoolPage.Log
import PoolPage.Main
import PoolPage.Markup
import PoolPage.Metric
import PoolPage.Number.Arithmetic
import PoolPage.Number.Binary64
import PoolPage.Number.Decimal
import PoolPage.Number.Natural
import PoolPage.Number.Numeral
import PoolPage.Number.Rounding
import PoolPage.Number.Shortest
import PoolPage.Number.Word
import PoolPage.Page.Basic
import PoolPage.Page.Html
import PoolPage.Page.Screen
import PoolPage.Page.Snapshot
import PoolPage.Panel.Blocks
import PoolPage.Panel.Miner
import PoolPage.Panel.Pool
import PoolPage.Panel.Profit
import PoolPage.Pool.Client
import PoolPage.Pool.Decoding
import PoolPage.Pool.Endpoint
import PoolPage.Pool.Stats
import PoolPage.Program
import PoolPage.Proofs.Agenda.Thinning
import PoolPage.Proofs.Calendar.Days
import PoolPage.Proofs.Calendar.Texts
import PoolPage.Proofs.Chart.Coordinates
import PoolPage.Proofs.Chart.Polyline
import PoolPage.Proofs.Command.Lines
import PoolPage.Proofs.Dashboard.Actions
import PoolPage.Proofs.Dashboard.Alerts
import PoolPage.Proofs.Dashboard.Alike
import PoolPage.Proofs.Dashboard.Books
import PoolPage.Proofs.Dashboard.Changes
import PoolPage.Proofs.Dashboard.Course
import PoolPage.Proofs.Dashboard.Disclosure
import PoolPage.Proofs.Dashboard.Estimate
import PoolPage.Proofs.Dashboard.Failure
import PoolPage.Proofs.Dashboard.Jobs
import PoolPage.Proofs.Dashboard.Ledger
import PoolPage.Proofs.Dashboard.Logging
import PoolPage.Proofs.Dashboard.Pages
import PoolPage.Proofs.Dashboard.Periodic
import PoolPage.Proofs.Dashboard.Polling
import PoolPage.Proofs.Dashboard.Records
import PoolPage.Proofs.Dashboard.Remembering
import PoolPage.Proofs.Dashboard.Settling
import PoolPage.Proofs.Dashboard.Teardown
import PoolPage.Proofs.Dashboard.Timing
import PoolPage.Proofs.Figure.Fixed
import PoolPage.Proofs.Figure.HashCounts
import PoolPage.Proofs.Figure.Numerals
import PoolPage.Proofs.Figure.Places
import PoolPage.Proofs.Figure.Plain
import PoolPage.Proofs.Figure.Precision
import PoolPage.Proofs.Figure.Reading
import PoolPage.Proofs.Figure.Scaling
import PoolPage.Proofs.Figure.Ties
import PoolPage.Proofs.Json.Fields
import PoolPage.Proofs.Json.Finite
import PoolPage.Proofs.Json.Forms
import PoolPage.Proofs.Json.Literals
import PoolPage.Proofs.Json.Outcome
import PoolPage.Proofs.Json.Rewording
import PoolPage.Proofs.Json.RoundTrip
import PoolPage.Proofs.Json.Throughout
import PoolPage.Proofs.Log.Filters
import PoolPage.Proofs.Loop.Course
import PoolPage.Proofs.Loop.Logging
import PoolPage.Proofs.Loop.Pace
import PoolPage.Proofs.Loop.Reloads
import PoolPage.Proofs.Markup.Tags
import PoolPage.Proofs.Markup.Trees
import PoolPage.Proofs.Number.Digits
import PoolPage.Proofs.Number.Halves
import PoolPage.Proofs.Number.Monotone
import PoolPage.Proofs.Number.Nearest
import PoolPage.Proofs.Number.Operations
import PoolPage.Proofs.Number.Orders
import PoolPage.Proofs.Number.Prefixes
import PoolPage.Proofs.Number.Ranks
import PoolPage.Proofs.Number.Reading
import PoolPage.Proofs.Number.Rounding
import PoolPage.Proofs.Number.Shortest
import PoolPage.Proofs.Number.Significands
import PoolPage.Proofs.Page.Document
import PoolPage.Proofs.Page.Hovering
import PoolPage.Proofs.Page.Parts
import PoolPage.Proofs.Page.Scripts
import PoolPage.Proofs.Page.Shown
import PoolPage.Proofs.Page.Skeleton
import PoolPage.Proofs.Page.Snapshot
import PoolPage.Proofs.Page.Surface
import PoolPage.Proofs.Page.Writers
import PoolPage.Proofs.Panel.Completeness
import PoolPage.Proofs.Panel.Figures
import PoolPage.Proofs.Panel.Layouts
import PoolPage.Proofs.Panel.Leftovers
import PoolPage.Proofs.Panel.Luck
import PoolPage.Proofs.Panel.Plain
import PoolPage.Proofs.Panel.Tables
import PoolPage.Proofs.Pool.Address
import PoolPage.Proofs.Pool.Base
import PoolPage.Proofs.Pool.Below
import PoolPage.Proofs.Pool.Finite
import PoolPage.Proofs.Pool.Lookup
import PoolPage.Proofs.Pool.Writing
import PoolPage.Proofs.Route.Names
import PoolPage.Proofs.Route.Visits
import PoolPage.Proofs.Schedule.Alone
import PoolPage.Proofs.Schedule.Turns
import PoolPage.Proofs.Url.Authorities
import PoolPage.Proofs.Url.Endings
import PoolPage.Proofs.Url.Escapes
import PoolPage.Proofs.Url.Hosts
import PoolPage.Proofs.Url.Relative
import PoolPage.Proofs.Url.Segments
import PoolPage.Proofs.Url.Slashes
import PoolPage.Proofs.Url.Tails
import PoolPage.Route
import PoolPage.Route.Navigation
import PoolPage.Route.Source
import PoolPage.Schedule.Basic
import PoolPage.Schedule.Cadence
import PoolPage.Settings
import PoolPage.Settings.Environment
import PoolPage.Settings.Validation
import PoolPage.Store
import PoolPage.Table
import PoolPage.Text.Blank
import PoolPage.Text.CodePoints
import PoolPage.Text.CombiningClass
import PoolPage.Text.Composed
import PoolPage.Text.Decomposition
import PoolPage.Text.Invisible
import PoolPage.Text.Mark
import PoolPage.Text.Quoted
import PoolPage.Url.Basic
import PoolPage.Url.Domain
import PoolPage.Url.Domain.Direction
import PoolPage.Url.Domain.Joining
import PoolPage.Url.Domain.Replacement
import PoolPage.Url.Host
import PoolPage.Url.Parse
import PoolPage.Url.Path
import PoolPage.Url.Punycode
