import TransitStore.Audit.Quality
import TransitStore.Audit.References
import TransitStore.Binary.Format
import TransitStore.Binary.Shortest
import TransitStore.Binary.Text
import TransitStore.Calendar.Date
import TransitStore.Calendar.Instant
import TransitStore.CoarseTime
import TransitStore.Column
import TransitStore.CommandLine.Arguments
import TransitStore.CommandLine.Run
import TransitStore.Container.Basic
import TransitStore.Container.Describe
import TransitStore.Container.Files
import TransitStore.CoordinateText
import TransitStore.Edit
import TransitStore.Error
import TransitStore.Feed.Columns
import TransitStore.Feed.Fault
import TransitStore.Feed.Reader
import TransitStore.Feed.Record
import TransitStore.Feed.Sheet
import TransitStore.Files.Directory
import TransitStore.Files.Fault
import TransitStore.Files.Path
import TransitStore.Files.Store
import TransitStore.Import.Build
import TransitStore.Import.Lines
import TransitStore.Import.Lookup
import TransitStore.Import.Options
import TransitStore.Import.Services
import TransitStore.Import.Stops
import TransitStore.Import.Trips
import TransitStore.LittleEndian
import TransitStore.Main
import TransitStore.Network.JourneyPattern
import TransitStore.Network.Line
import TransitStore.Network.Stop
import TransitStore.Network.VehicleJourney
import TransitStore.PatternTimes
import TransitStore.Pool
import TransitStore.Proofs.Audit.Adjacency
import TransitStore.Proofs.Audit.Derived
import TransitStore.Proofs.Audit.Growing
import TransitStore.Proofs.Audit.Quality
import TransitStore.Proofs.Audit.References
import TransitStore.Proofs.Audit.Symmetry
import TransitStore.Proofs.Audit.Times
import TransitStore.Proofs.Container.Entity
import TransitStore.Proofs.Container.Failure
import TransitStore.Proofs.Container.Growth
import TransitStore.Proofs.Container.Ledger
import TransitStore.Proofs.Container.Legible
import TransitStore.Proofs.Container.Ownership
import TransitStore.Proofs.Container.Reachable
import TransitStore.Proofs.Container.Room
import TransitStore.Proofs.Edit
import TransitStore.Proofs.Guarded.Access
import TransitStore.Proofs.Guarded.Basic
import TransitStore.Proofs.Guarded.Columns
import TransitStore.Proofs.Guarded.Opened
import TransitStore.Proofs.Guarded.PatternTimes
import TransitStore.Proofs.Guarded.Quality
import TransitStore.Proofs.Guarded.References
import TransitStore.Proofs.Guarded.StopIndex
import TransitStore.Proofs.Guarded.Writer
import TransitStore.Proofs.Import.Account
import TransitStore.Proofs.Import.Areas
import TransitStore.Proofs.Import.Build
import TransitStore.Proofs.Import.Calendar
import TransitStore.Proofs.Import.CalendarStart
import TransitStore.Proofs.Import.Faults
import TransitStore.Proofs.Import.Following
import TransitStore.Proofs.Import.Grouping
import TransitStore.Proofs.Import.Journeys
import TransitStore.Proofs.Import.Layout
import TransitStore.Proofs.Import.Lines
import TransitStore.Proofs.Import.Order
import TransitStore.Proofs.Import.Patterns
import TransitStore.Proofs.Import.Quality
import TransitStore.Proofs.Import.Routes
import TransitStore.Proofs.Import.StopPatterns
import TransitStore.Proofs.Import.Stops
import TransitStore.Proofs.Import.Times
import TransitStore.Proofs.Import.Trips
import TransitStore.Proofs.Import.Walks
import TransitStore.Proofs.PatternTimes
import TransitStore.Proofs.Pool
import TransitStore.Proofs.Pool.Lasting
import TransitStore.Proofs.Snapshot.Acceptance
import TransitStore.Proofs.Snapshot.Bytes
import TransitStore.Proofs.Snapshot.Image
import TransitStore.Proofs.Snapshot.Loading
import TransitStore.Proofs.Snapshot.Placement
import TransitStore.Proofs.Snapshot.RoundTrip
import TransitStore.Proofs.Snapshot.Torn
import TransitStore.Proofs.Span
import TransitStore.Proofs.StopIndex
import TransitStore.Proofs.StopIndex.Counted
import TransitStore.Proofs.StopIndex.Inverted
import TransitStore.Proofs.StopList
import TransitStore.Proofs.Table.Batches
import TransitStore.Proofs.Table.Columnar
import TransitStore.Proofs.Table.Discipline
import TransitStore.Proofs.Table.Words
import TransitStore.Snapshot.Layout
import TransitStore.Snapshot.Reader
import TransitStore.Snapshot.Writer
import TransitStore.Span
import TransitStore.StopIndex
import TransitStore.StopList
import TransitStore.Table.Basic
import TransitStore.Table.Record
import TransitStore.Text.Blank
import TransitStore.Text.Integer
import TransitStore.Text.Quoted
import TransitStore.Text.Visible
import TransitStore.Width
