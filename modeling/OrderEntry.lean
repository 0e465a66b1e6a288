import OrderEntry.Main
import OrderEntry.Metrics
import OrderEntry.Rehearsal.LinkScript
import OrderEntry.Rehearsal.RecordScript
import OrderEntry.Proofs.Wire.Chunks
import OrderEntry.Proofs.Session.OwnerSteps
import OrderEntry.Proofs.Session.ReaderSteps
import OrderEntry.Proofs.Session.Links
import OrderEntry.Proofs.Session.Bystanders
import OrderEntry.Proofs.Session.ClientSteps
import OrderEntry.Proofs.Session.History
import OrderEntry.Proofs.Session.LinkLoss
import OrderEntry.Proofs.Wire.Arrivals
import OrderEntry.Proofs.Session.SlotMoves
import OrderEntry.Proofs.Session.Delivery
import OrderEntry.Proofs.Session.WireOrder
import OrderEntry.Proofs.Text.Trim
import OrderEntry.Proofs.Text.Utf8
import OrderEntry.Proofs.Wire.Payload.Fields
import OrderEntry.Proofs.Wire.Payload.Events
import OrderEntry.Proofs.Wire.Payload.Commands
import OrderEntry.Proofs.Wire.Payload.Grammar
import OrderEntry.Proofs.Wire.Framing
import OrderEntry.Proofs.Wire.CommandStream
import OrderEntry.Proofs.Wire.Readings
import OrderEntry.Proofs.Wire.Messages
import OrderEntry.Proofs.BoundedQueue
import OrderEntry.Proofs.FanOut
import OrderEntry.Proofs.BoundedRetry
import OrderEntry.Proofs.Session.Ownership
import OrderEntry.Proofs.Session.CallLength
import OrderEntry.Proofs.Session.ReconnectRun
import OrderEntry.Proofs.Session.Reconnect
import OrderEntry.Proofs.Session.ReconnectCourse
import OrderEntry.Proofs.Session.LoopLog
import OrderEntry.Proofs.Session.Breaker
import OrderEntry.Proofs.Session.LinkOutput
import OrderEntry.Proofs.Session.Ledger
import OrderEntry.Proofs.Session.Outbound
import OrderEntry.Proofs.Session.Stopping
import OrderEntry.Proofs.Session.Closed
import OrderEntry.Proofs.Session.CloseCalls
import OrderEntry.Proofs.Session.Closing
import OrderEntry.Proofs.Wire.Backlog
import OrderEntry.Proofs.Wire.Payload.Canonical
import OrderEntry.Proofs.Wire.Datagrams
import OrderEntry.Proofs.Session.FailedConnects
import OrderEntry.Proofs.Session.ConnectRetries
import OrderEntry.Proofs.DelayGrowth
import OrderEntry.Proofs.Wire.DatagramReadings
import OrderEntry.Proofs.Text.Json
import OrderEntry.Proofs.RecordLines
import OrderEntry.Proofs.FatalDelivery
