import Telemetry.Catalog
import Telemetry.Proofs.Assembly.Agenda
import Telemetry.Proofs.Assembly.Announcement
import Telemetry.Proofs.Assembly.Attributes
import Telemetry.Proofs.Assembly.Build
import Telemetry.Proofs.Assembly.Builtin
import Telemetry.Proofs.Assembly.Callers
import Telemetry.Proofs.Assembly.Choice
import Telemetry.Proofs.Assembly.Clearing
import Telemetry.Proofs.Assembly.InStep
import Telemetry.Proofs.Assembly.Latecomers
import Telemetry.Proofs.Assembly.Life
import Telemetry.Proofs.Assembly.Looks
import Telemetry.Proofs.Assembly.Mirror
import Telemetry.Proofs.Assembly.Pipelines
import Telemetry.Proofs.Assembly.Points
import Telemetry.Proofs.Assembly.Repetition
import Telemetry.Proofs.Assembly.ServiceName
import Telemetry.Proofs.Assembly.Sharing
import Telemetry.Proofs.Assembly.Silence
import Telemetry.Proofs.Assembly.Threads
import Telemetry.Proofs.Assembly.Twins
import Telemetry.Proofs.Assembly.Unseen
import Telemetry.Proofs.Customizer.Ledger
import Telemetry.Proofs.Exporter.Flushing
import Telemetry.Proofs.Exporter.Raising
import Telemetry.Proofs.Exporter.Shadowing
import Telemetry.Proofs.Installation
import Telemetry.Proofs.Plugin.Loading
import Telemetry.Proofs.Processor.Arrangement
import Telemetry.Proofs.Processor.Configured
import Telemetry.Proofs.Processor.Conveying
import Telemetry.Proofs.Processor.Delivery
import Telemetry.Proofs.Properties.Alike
import Telemetry.Proofs.Properties.Faults
import Telemetry.Proofs.Properties.Layers
import Telemetry.Proofs.Properties.Spelling
import Telemetry.Proofs.Sampler
import Telemetry.Proofs.Shutdown.Punctual
import Telemetry.Proofs.Shutdown.Restarts
import Telemetry.Proofs.Shutdown.Sequential
import Telemetry.Proofs.Shutdown.Verdict
import Telemetry.Properties.Reading
import Telemetry.Scripted.Bench
import Telemetry.Scripted.Chain
import Telemetry.Scripted.Draft
import Telemetry.Scripted.Gauge
import Telemetry.Scripted.Session
