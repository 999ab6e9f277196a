import Telemetry.Agent
import Telemetry.Client.Recorder
import Telemetry.Config.Process
import Telemetry.Dispatcher.Script
import Telemetry.Proofs.Accumulator
import Telemetry.Proofs.Agent.Conservation
import Telemetry.Proofs.Agent.Endurance
import Telemetry.Proofs.Agent.Growth
import Telemetry.Proofs.Agent.Harvest
import Telemetry.Proofs.Agent.Publishing
import Telemetry.Proofs.Agent.Recency
import Telemetry.Proofs.Agent.Windows
import Telemetry.Proofs.Bucket
import Telemetry.Proofs.Bucket.Names
import Telemetry.Proofs.Client.Closing
import Telemetry.Proofs.Client.Delivery
import Telemetry.Proofs.Client.Isolation
import Telemetry.Proofs.Client.Session
import Telemetry.Proofs.Decimal.Fixed
import Telemetry.Proofs.Dispatcher.Attempts
import Telemetry.Proofs.Dispatcher.Late
import Telemetry.Proofs.Dispatcher.Moments
import Telemetry.Proofs.Dispatcher.Outage
import Telemetry.Proofs.Dispatcher.Passages
import Telemetry.Proofs.Exposition.History
import Telemetry.Proofs.Exposition.Pages
import Telemetry.Proofs.Exposition.Places
import Telemetry.Proofs.Exposition.Reading
import Telemetry.Proofs.Exposition.Republishing
import Telemetry.Proofs.Exposition.RoundTrip
import Telemetry.Proofs.Exposition.Series
import Telemetry.Proofs.Filter.Choice
import Telemetry.Proofs.Filter.Containment
import Telemetry.Proofs.Filter.Expression
import Telemetry.Proofs.Float.Integers
import Telemetry.Proofs.Graphite.Payload
import Telemetry.Proofs.Metric.Extremes
import Telemetry.Proofs.Metric.History
import Telemetry.Proofs.Regex.Code
import Telemetry.Proofs.Relabel.Cutting
import Telemetry.Proofs.Relabel.Pairing
import Telemetry.Proofs.Relabel.Wholeness
