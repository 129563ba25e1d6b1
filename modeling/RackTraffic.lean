import RackTraffic.Result.Basic
import RackTraffic.Matrix.Tensor
import RackTraffic.Scenario.Drawing
import RackTraffic.Draw.SplitMix
import RackTraffic.Json.Decoding
import RackTraffic.Scenario.Json
import RackTraffic.Disk.Path
import RackTraffic.Disk.Output
import RackTraffic.Traffic.Listing
import RackTraffic.Scenario.Batch
import RackTraffic.Result.Best
import RackTraffic.Matrix.Batch
import RackTraffic.Diagram.Drawing
import RackTraffic.Simulation.Settings
import RackTraffic.Simulation.Batch
import RackTraffic.Shell.Host
import RackTraffic.CommandLine.Execution
import RackTraffic.Main
import RackTraffic.Proofs.Draw.Sample
import RackTraffic.Proofs.Scenario.Drawing
import RackTraffic.Proofs.Disk.Agreement
import RackTraffic.Proofs.Disk.Canonical
import RackTraffic.Proofs.Disk.Output
import RackTraffic.Proofs.Disk.Entries
import RackTraffic.Proofs.Simulation.Batch
import RackTraffic.Proofs.Simulation.Confined
import RackTraffic.Proofs.Simulation.Current
import RackTraffic.Proofs.Simulation.Interleaving
import RackTraffic.Proofs.Simulation.Launch
import RackTraffic.Proofs.Traffic.FileRole
import RackTraffic.Proofs.Traffic.Line
import RackTraffic.Proofs.Traffic.Log
import RackTraffic.Proofs.Disk.Atomic
import RackTraffic.Proofs.Traffic.Storage
import RackTraffic.Proofs.Disk.Made
import RackTraffic.Proofs.Scenario.Variant
import RackTraffic.Proofs.Scenario.Batch
import RackTraffic.Proofs.Scenario.Stored
import RackTraffic.Proofs.Matrix.Marks
import RackTraffic.Proofs.Matrix.Connections
import RackTraffic.Proofs.Matrix.Tensor
import RackTraffic.Proofs.Matrix.Batch
import RackTraffic.Proofs.Matrix.Directory
import RackTraffic.Proofs.Matrix.Drawn
import RackTraffic.Proofs.Simulation.Effect
import RackTraffic.Proofs.Text.Blank
import RackTraffic.Proofs.Text.Lines
import RackTraffic.Proofs.Text.Numeral
import RackTraffic.Proofs.Traffic.Grammar
import RackTraffic.Proofs.Traffic.RoundTrip
import RackTraffic.Proofs.Traffic.Reading
import RackTraffic.Proofs.Traffic.FlowPart
import RackTraffic.Proofs.Scenario.Guarded
import RackTraffic.Proofs.Scenario.Trap
import RackTraffic.Proofs.Scenario.Enumeration
import RackTraffic.Proofs.Decimal.Reading
import RackTraffic.Proofs.Result.Grammar
import RackTraffic.Proofs.Result.Written
import RackTraffic.Proofs.Result.Truncated
import RackTraffic.Proofs.Result.Summary
import RackTraffic.Proofs.CommandLine.Consent
import RackTraffic.Proofs.Scenario.Growth
import RackTraffic.Proofs.Traffic.ListedFiles
import RackTraffic.Proofs.Decimal.Order
import RackTraffic.Proofs.Result.Largest
import RackTraffic.Proofs.Simulation.Command
import RackTraffic.Proofs.Disk.AllOrNothing
import RackTraffic.Proofs.Diagram.Rejected
import RackTraffic.Proofs.Simulation.Settings
import RackTraffic.Proofs.Json.Reordered
import RackTraffic.Proofs.Scenario.RoundTrip
import RackTraffic.Proofs.Diagram.Canvas
import RackTraffic.Proofs.Diagram.Shown
