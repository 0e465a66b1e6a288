import OrderEntry.Error
import OrderEntry.Event
import OrderEntry.Mailbox

/-! The mailboxes in which a consumer finds events, errors and news of reconnects. Nobody waits for a
slow consumer: an event without room is dropped, and the error mailbox is told. -/

namespace OrderEntry

structure Outputs where
  acks : Mailbox Ack
  trades : Mailbox Trade
  bookUpdates : Mailbox BookUpdate
  cancelAcks : Mailbox CancelAck
  errors : Mailbox ClientError
  reconnects : Mailbox Nat
  deriving Repr

inductive Channel
  | acks
  | trades
  | bookUpdates
  | cancelAcks
  | errors
  | reconnects
  deriving DecidableEq, Repr

def Channel.all : List Channel := [acks, trades, bookUpdates, cancelAcks, errors, reconnects]

def Channel.name : Channel → String
  | acks => "acks"
  | trades => "trades"
  | bookUpdates => "book_updates"
  | cancelAcks => "cancel_acks"
  | errors => "errors"
  | reconnects => "reconnects"

def Channel.ofEvent (e : Event) : Channel :=
  match e.kind with
  | .ack => acks
  | .trade => trades
  | .bookUpdate => bookUpdates
  | .cancelAck => cancelAcks

inductive Delivery
  | event (event : Event)
  | error (error : ClientError)
  | reconnected (attempt : Nat)
  deriving DecidableEq, Repr

def Receipt.map {α β : Type} (f : α → β) : Receipt α → Receipt β
  | item a => item (f a)
  | empty => empty
  | closed => closed

namespace Outputs

def reconnectCapacity : Nat := 16

def new (capacity : Nat) : Outputs where
  acks := { capacity }
  trades := { capacity }
  bookUpdates := { capacity }
  cancelAcks := { capacity }
  errors := { capacity }
  reconnects := { capacity := reconnectCapacity }

/-- Best effort: an error without room is lost. -/
def report (o : Outputs) (e : ClientError) : Outputs := { o with errors := o.errors.offerOrDrop e }

def announceReconnect (o : Outputs) (attempt : Nat) : Outputs :=
  { o with reconnects := o.reconnects.offerOrDrop attempt }

def offerEvent (o : Outputs) : Event → Except SendError Outputs
  | .ack a => do return { o with acks := ← o.acks.offer a }
  | .trade t => do return { o with trades := ← o.trades.offer t }
  | .bookUpdate b => do return { o with bookUpdates := ← o.bookUpdates.offer b }
  | .cancelAck a => do return { o with cancelAcks := ← o.cancelAcks.offer a }

def dispatch (o : Outputs) (e : Event) : Outputs × Bool :=
  match o.offerEvent e with
  | .ok o => (o, true)
  | .error .full => (o.report (.channelFull (Channel.ofEvent e).name), false)
  | .error .closed => (o, false)

def receive (o : Outputs) : Channel → Receipt Delivery × Outputs
  | .acks =>
    let (r, acks) := o.acks.receive
    (r.map fun a => .event (.ack a), { o with acks })
  | .trades =>
    let (r, trades) := o.trades.receive
    (r.map fun t => .event (.trade t), { o with trades })
  | .bookUpdates =>
    let (r, bookUpdates) := o.bookUpdates.receive
    (r.map fun b => .event (.bookUpdate b), { o with bookUpdates })
  | .cancelAcks =>
    let (r, cancelAcks) := o.cancelAcks.receive
    (r.map fun a => .event (.cancelAck a), { o with cancelAcks })
  | .errors =>
    let (r, errors) := o.errors.receive
    (r.map .error, { o with errors })
  | .reconnects =>
    let (r, reconnects) := o.reconnects.receive
    (r.map .reconnected, { o with reconnects })

def dropReceiver (o : Outputs) : Channel → Outputs
  | .acks => { o with acks := o.acks.dropReceiver }
  | .trades => { o with trades := o.trades.dropReceiver }
  | .bookUpdates => { o with bookUpdates := o.bookUpdates.dropReceiver }
  | .cancelAcks => { o with cancelAcks := o.cancelAcks.dropReceiver }
  | .errors => { o with errors := o.errors.dropReceiver }
  | .reconnects => { o with reconnects := o.reconnects.dropReceiver }

def dropReceivers (o : Outputs) : Outputs := Channel.all.foldl dropReceiver o

def dropSenders (o : Outputs) : Outputs where
  acks := o.acks.dropSenders
  trades := o.trades.dropSenders
  bookUpdates := o.bookUpdates.dropSenders
  cancelAcks := o.cancelAcks.dropSenders
  errors := o.errors.dropSenders
  reconnects := o.reconnects.dropSenders

end Outputs
end OrderEntry
