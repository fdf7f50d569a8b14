import Outbox.Display
import Outbox.LogFormat
import Outbox.Proofs.Broker.Agreement
import Outbox.Proofs.Bus
import Outbox.Proofs.Contract
import Outbox.Proofs.Drill.Drain
import Outbox.Proofs.Drill.Overflow
import Outbox.Proofs.Drill.Parallel
import Outbox.Proofs.Fleet.Delivery
import Outbox.Proofs.Identifier.Canonical
import Outbox.Proofs.Publisher.Glance
import Outbox.Proofs.Publisher.Shutdown
import Outbox.Proofs.Record.Lifecycle
import Outbox.Proofs.Record.Text
import Outbox.Proofs.Registry
import Outbox.Proofs.Relay.Sequence
import Outbox.Proofs.Settings.Environment
import Outbox.Proofs.Sql.Bounds
import Outbox.Proofs.Store.Sessions
import Outbox.Proofs.Store.Views
import Outbox.Proofs.UnitOfWork.Discipline
import Outbox.Proofs.Workshop.Capture
import Outbox.Rehearsal.Timeline
