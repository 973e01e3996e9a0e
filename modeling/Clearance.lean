import Clearance.Banner
import Clearance.Cache
import Clearance.Catalog
import Clearance.Entitlement.Session
import Clearance.Event.Bus
import Clearance.Host.Machine
import Clearance.Json.Printer
import Clearance.Json.Skip
import Clearance.Main
import Clearance.Marking.Format
import Clearance.Release
import Clearance.Pool.Decrypting
import Clearance.View.Rehearsal
import Clearance.Worker.Birth
import Clearance.Worker.Message
import Clearance.Worker.State
import Clearance.Proofs.Entitlement.Run
import Clearance.Proofs.Marking.Extraction
import Clearance.Proofs.Text.UpperCase
import Clearance.Proofs.Marking.SimpleName
import Clearance.Proofs.Release.Decision
import Clearance.Proofs.Entitlement.Ceiling
import Clearance.Proofs.Release.NoAccess
import Clearance.Proofs.Worker.Move
import Clearance.Proofs.Worker.Requests
import Clearance.Proofs.Worker.Callers
import Clearance.Proofs.Worker.Sound
import Clearance.Proofs.Worker.Birth
import Clearance.Proofs.Worker.Calls
import Clearance.Proofs.Worker.Abandon
import Clearance.Proofs.Worker.Replies
import Clearance.Proofs.Worker.Death
import Clearance.Proofs.Pool.Workers
import Clearance.Proofs.Pool.Death
import Clearance.Proofs.Pool.Turn
import Clearance.Proofs.Pool.Birth
import Clearance.Proofs.Json.Strings
import Clearance.Proofs.Json.Documents
import Clearance.Proofs.Json.Formats
import Clearance.Proofs.Json.Records
import Clearance.Proofs.Resolver.Calls
import Clearance.Proofs.View.Context
import Clearance.Proofs.View.Sharing
import Clearance.Proofs.Entitlement.Epoch
import Clearance.Proofs.View.Snapshot
import Clearance.Proofs.View.Pass
import Clearance.Proofs.View.Refresh
import Clearance.Proofs.View.Play
import Clearance.Proofs.View.Telemetry
import Clearance.Proofs.View.Withheld
import Clearance.Proofs.View.Lockstep
import Clearance.Proofs.Banner.Gathering
import Clearance.Proofs.Banner.Holdings
import Clearance.Proofs.Entitlement.Answers
import Clearance.Proofs.Entitlement.Narrowing
import Clearance.Proofs.Resolver.Transparency
import Clearance.Proofs.Resolver.Faults
import Clearance.Proofs.Json.Wire
import Clearance.Proofs.Marking.Listed
import Clearance.Proofs.Resolver.OtherTypes
import Clearance.Proofs.View.Forecast
import Clearance.Proofs.Worker.Progress
import Clearance.Proofs.Pool.Decrypting
import Clearance.Proofs.Command.Reports
import Clearance.Proofs.Distinct
import Clearance.Proofs.Banner.Content
import Clearance.Proofs.Release.Authoring
import Clearance.Proofs.Cache.History
import Clearance.Proofs.Pool.Rotation
import Clearance.Proofs.Text.Segments
import Clearance.Proofs.Marking.Grammar
import Clearance.Proofs.Text.LowerCase
import Clearance.Proofs.Marking.Built
import Clearance.Proofs.Release.AsWritten
import Clearance.Proofs.Text.ByteOrder
import Clearance.Proofs.Catalog.Arrangement
import Clearance.Proofs.Catalog.Labels
import Clearance.Proofs.Marking.Shapes
import Clearance.Proofs.Text.Respelling
import Clearance.Proofs.Release.Respelled
import Clearance.Proofs.Banner.Display
import Clearance.Proofs.Entitlement.Listed
import Clearance.Proofs.Payload.Merged
import Clearance.Proofs.Entitlement.Categories
import Clearance.Proofs.Text.Digits
import Clearance.Proofs.Json.Schema
import Clearance.Proofs.Toml.Ordered
import Clearance.Proofs.Toml.Records
import Clearance.Proofs.Settings.Overrides
import Clearance.Proofs.Settings.Checked
import Clearance.Proofs.Settings.Layers
import Clearance.Proofs.Settings.InForce
import Clearance.Proofs.Release.Notes
