import MessageBus.Command
import MessageBus.Config.Json
import MessageBus.Main
import MessageBus.Nats.DeliveryLoop
import MessageBus.Scripted.Bus
import MessageBus.Scripted.Catalog
import MessageBus.Scripted.NatsSession
import MessageBus.Scripted.Offline
import MessageBus.Proofs.Dialogue.Course
import MessageBus.Proofs.Subject.Coverage
import MessageBus.Proofs.Request.Course
import MessageBus.Proofs.Dialogue.Interleaving
import MessageBus.Proofs.Nats.Custody
import MessageBus.Proofs.Nats.Ledger
import MessageBus.Proofs.Nats.Settlement
import MessageBus.Proofs.Topic.Response
import MessageBus.Proofs.Nats.CoreLink
import MessageBus.Proofs.Nats.Order
import MessageBus.Proofs.Nats.Inquiry
import MessageBus.Proofs.Nats.Flow
import MessageBus.Proofs.Nats.Isolation
import MessageBus.Proofs.Text.Decimal
import MessageBus.Proofs.Text.Utf8
import MessageBus.Proofs.Text.Form
import MessageBus.Proofs.Nats.Headers
import MessageBus.Proofs.Json.Scalar
import MessageBus.Proofs.Json.Passing
import MessageBus.Proofs.Json.Object
import MessageBus.Proofs.Json.Whole
import MessageBus.Proofs.Text.Base64
import MessageBus.Proofs.Envelope.Members
import MessageBus.Proofs.Envelope.RoundTrip
import MessageBus.Proofs.Dialogue.Turns
import MessageBus.Proofs.Session.Sign
import MessageBus.Proofs.Session.Lifecycle
import MessageBus.Proofs.Session.Nats
import MessageBus.Proofs.Session.Backends
import MessageBus.Proofs.Nats.Sequence
import MessageBus.Proofs.Topic.Spelling
import MessageBus.Proofs.Nats.Provision
import MessageBus.Proofs.Task.Throughput
import MessageBus.Proofs.Nats.Handling
import MessageBus.Proofs.Nats.Feeding
import MessageBus.Proofs.Nats.Tenure
import MessageBus.Proofs.Nats.Release
import MessageBus.Proofs.Subject.Naming
import MessageBus.Proofs.Nats.PrivateConsumer
import MessageBus.Proofs.Nats.Streaming
import MessageBus.Proofs.Mqtt.Agreement
import MessageBus.Proofs.Nats.Departure
import MessageBus.Proofs.Text.Percent
import MessageBus.Proofs.Command.Address
import MessageBus.Proofs.Command.Levels
import MessageBus.Proofs.Dialogue.Beside
import MessageBus.Proofs.Session.Calls
import MessageBus.Proofs.Nats.Replacement
import MessageBus.Proofs.Mqtt.Routing
import MessageBus.Proofs.Nats.Acquisition
import MessageBus.Proofs.Nats.Serving
import MessageBus.Proofs.Topic.Filter
import MessageBus.Proofs.Task.Intake
import MessageBus.Proofs.Mqtt.Surroundings
import MessageBus.Proofs.Mqtt.Dispatch
import MessageBus.Proofs.Mqtt.FanOut
import MessageBus.Proofs.Mqtt.Lifespan
import MessageBus.Proofs.Topic.Joining
import MessageBus.Proofs.Topic.Disjoint
import MessageBus.Proofs.Nats.Retry
import MessageBus.Proofs.Session.SizeLimit
import MessageBus.Proofs.Topic.Translation
import MessageBus.Proofs.Topic.Subtree
import MessageBus.Proofs.Envelope.Tolerance
import MessageBus.Proofs.Text.Numeral
import MessageBus.Proofs.Text.Trimming
import MessageBus.Proofs.Text.Lowercase
import MessageBus.Proofs.Url.Scheme
import MessageBus.Proofs.Config.Duration
import MessageBus.Proofs.Config.Lookup
import MessageBus.Proofs.Config.Setting
import MessageBus.Proofs.Config.Acceptance
import MessageBus.Proofs.Mqtt.Settings
import MessageBus.Proofs.Nats.Settings
import MessageBus.Proofs.Config.Validation
import MessageBus.Proofs.Config.Order
import MessageBus.Proofs.Config.Defaults
import MessageBus.Proofs.Config.Protocol
import MessageBus.Proofs.Config.Pairs
import MessageBus.Proofs.Config.Reading
import MessageBus.Proofs.Factory.Selection
import MessageBus.Proofs.Command.Outcome
import MessageBus.Proofs.Subject.Stem
import MessageBus.Proofs.Mqtt.Credentials
import MessageBus.Proofs.Mqtt.Packet
