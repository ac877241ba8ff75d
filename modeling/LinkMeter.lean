import LinkMeter.Constants.Group
import LinkMeter.Display.Surface
import LinkMeter.Engine.Basic
import LinkMeter.Files.DataFolder
import LinkMeter.Host.Watcher
import LinkMeter.Json.Parser
import LinkMeter.Json.Printer
import LinkMeter.Log.Calendar
import LinkMeter.Log.Sinks
import LinkMeter.Log.Template
import LinkMeter.Main
import LinkMeter.Monitor.Launch
import LinkMeter.Rate.Sampler
import LinkMeter.Settings.Controller
import LinkMeter.Text.Utf8
import LinkMeter.Proofs.Rate.Sampling
import LinkMeter.Proofs.Rate.History
import LinkMeter.Proofs.Rate.Heights
import LinkMeter.Proofs.Display.Decision
import LinkMeter.Proofs.Engine.Handling
import LinkMeter.Proofs.Engine.Runs
import LinkMeter.Proofs.Engine.Liveness
import LinkMeter.Proofs.Engine.Surface
import LinkMeter.Proofs.Engine.Suspension
import LinkMeter.Proofs.Monitor.Freshness
import LinkMeter.Proofs.Rate.FailedReads
import LinkMeter.Proofs.Settings.Agreement
import LinkMeter.Proofs.Host.Changes
import LinkMeter.Proofs.Host.Mirroring
import LinkMeter.Proofs.Json.Spelling
import LinkMeter.Proofs.Number.Overflow
import LinkMeter.Proofs.Settings.Fatal
import LinkMeter.Proofs.Files.Placing
import LinkMeter.Proofs.Json.Limits
import LinkMeter.Proofs.Settings.Corruption
import LinkMeter.Proofs.Settings.Snapshots
import LinkMeter.Proofs.Engine.Cadence
import LinkMeter.Proofs.Engine.Locality
import LinkMeter.Proofs.Engine.Interleaving
import LinkMeter.Proofs.Settings.Persistence
import LinkMeter.Proofs.Settings.Normal
import LinkMeter.Proofs.Rate.Atomicity
import LinkMeter.Proofs.Engine.Scheduling
import LinkMeter.Proofs.Host.Breaker
import LinkMeter.Proofs.Text.Lines
import LinkMeter.Proofs.Number.Decimal
import LinkMeter.Proofs.Display.RateText
import LinkMeter.Proofs.Display.Layout
import LinkMeter.Proofs.Display.Visibility
import LinkMeter.Proofs.Number.Nearness
import LinkMeter.Proofs.Rate.Truncation
import LinkMeter.Proofs.Rate.Pacing
import LinkMeter.Proofs.Rate.Totals
import LinkMeter.Proofs.Settings.Updates
import LinkMeter.Proofs.Settings.FailedSaves
