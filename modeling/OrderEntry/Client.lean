import OrderEntry.Session.ReadLoop
import OrderEntry.Session.WriteLoop
import OrderEntry.Validation

/-! The client: commands are checked and queued without waiting, connect starts the two loops, close
stops them and ends the outputs. Its behaviour is a function of the moves of its callers, its own
tasks and the network, in whatever order they come. A close may come during another one. -/

namespace OrderEntry

/-- A call to close. It waits for the loops only if it was the one that took their handles. -/
inductive CloseCall
  | joining (loops : Bool)
  | shutting (call : ShutdownPhase)
  | returned
  deriving DecidableEq, Repr

structure Client where
  session : Session
  queue : Mailbox Command
  /-- The receiver of the queue waits here until a connect succeeds. -/
  queueHeld : Bool := true
  /-- The client has senders of the outputs itself, beside those of the loops. -/
  outputsHeld : Bool := true
  connecting : Option OwnerPhase := none
  reader : ReaderPhase := .idle
  writer : WriterPhase := .idle
  /-- The handles of the loops wait here for a close. -/
  handles : Bool := false
  closes : List CloseCall := []

inductive Move
  | send (command : Command)
  | connect
  | connecting (input : TaskInput)
  | reader (input : TaskInput)
  | writer (input : TaskInput)
  | close
  /-- A step of the close with this number. -/
  | closing (n : Nat)
  | arrive (link : LinkId) (arrival : Arrival)
  | receive (channel : Channel)
  | dropReceiver (channel : Channel)

inductive Reply
  | none
  | result (result : Except ClientError Unit)
  | receipt (receipt : Receipt Delivery)

namespace ReaderPhase

def isRunning : ReaderPhase → Bool
  | idle | stopped => false
  | _ => true

end ReaderPhase

namespace WriterPhase

def isRunning : WriterPhase → Bool
  | idle | stopped => false
  | _ => true

end WriterPhase

namespace Client

def new (config : Config) : Except ConfigError Client := do
  config.check
  return { session := .new config, queue := { capacity := config.channelCapacity } }

def isRunning (c : Client) : Bool := c.reader.isRunning || c.writer.isRunning

def refuse (c : Client) (e : ClientError) : Client × Reply := (c, .result (.error e))

def send (c : Client) (command : Command) : Client × Reply :=
  if c.session.cancelled then c.refuse .closed
  else match command.check c.session.config.symbolFields with
    | .error e => c.refuse (.validation e)
    | .ok () =>
      match c.queue.offer command with
      | .ok queue => ({ c with queue }, .result (.ok ()))
      | .error .full => { c with session := c.session.count .dropped }.refuse .queueFull
      | .error .closed => c.refuse .closed

def connect (c : Client) : Client × Reply :=
  if c.session.cancelled then c.refuse .closed
  else if !c.queueHeld then c.refuse .alreadyConnected
  else ({ c with queueHeld := false, connecting := some (.start .connect) }, .none)

/-- A connect that failed puts the queue back. One that succeeded starts the loops, unless a close has let go
of the outputs in the meantime. -/
def connected (c : Client) (result : Except ClientError Nat) : Client × Reply :=
  match result with
  | .error e => ({ c with connecting := none, queueHeld := true }, .result (.error e))
  | .ok _ =>
    if c.outputsHeld then
      ({ c with connecting := none, reader := .looking 0, writer := .waiting, handles := true },
        .result (.ok ()))
    else { c with connecting := none, queue := c.queue.dropReceiver }.refuse .closed

def stepConnecting (c : Client) (input : TaskInput) : Client × Reply :=
  match c.connecting, input with
  | none, _ => (c, .none)
  | some (.ended result), .proceed => c.connected result
  | some phase, input =>
    let (phase, session) := phase.step input c.session
    ({ c with session, connecting := some phase }, .none)

def stepReader (c : Client) (input : TaskInput) : Client :=
  let (reader, session) := c.reader.step input c.session
  { c with reader, session }

def stepWriter (c : Client) (input : TaskInput) : Client :=
  let (writer, session, queue) := c.writer.step input c.session c.queue
  { c with writer, session, queue }

def close (c : Client) : Client :=
  { c with
    session := { c.session with cancelled := true }
    handles := false
    closes := c.closes ++ [.joining c.handles] }

def stepClosing (c : Client) (n : Nat) : Client × Reply :=
  match c.closes[n]? with
  | none | some .returned => (c, .none)
  | some (.joining loops) =>
    if loops && c.isRunning then (c, .none)
    else ({ c with closes := c.closes.set n (.shutting .storing) }, .none)
  | some (.shutting .done) =>
    let queue := if c.queueHeld then c.queue.dropReceiver else c.queue
    ({ c with queue, queueHeld := false, outputsHeld := false, closes := c.closes.set n .returned },
      .result (.ok ()))
  | some (.shutting call) =>
    let (call, session) := call.step c.session
    ({ c with session, closes := c.closes.set n (.shutting call) }, .none)

/-- The outputs as a consumer finds them. They end once the client has let go of them and so have both loops. -/
def outputs (c : Client) : Outputs :=
  if c.outputsHeld || c.isRunning then c.session.outputs else c.session.outputs.dropSenders

def receive (c : Client) (channel : Channel) : Client × Reply :=
  let receipt := (c.outputs.receive channel).1
  let session := { c.session with outputs := (c.session.outputs.receive channel).2 }
  match channel with
  | .errors =>
    let (reader, session) := c.reader.afterReceive session
    ({ c with session, reader }, .receipt receipt)
  | _ => ({ c with session }, .receipt receipt)

def dropReceiver (c : Client) (channel : Channel) : Client :=
  { c with session := { c.session with outputs := c.session.outputs.dropReceiver channel } }

def step (c : Client) : Move → Client × Reply
  | .send command => c.send command
  | .connect => c.connect
  | .connecting input => c.stepConnecting input
  | .reader input => (c.stepReader input, .none)
  | .writer input => (c.stepWriter input, .none)
  | .close => (c.close, .none)
  | .closing n => c.stepClosing n
  | .arrive id arrival => ({ c with session := c.session.updateLink id (·.arrive arrival) }, .none)
  | .receive channel => c.receive channel
  | .dropReceiver channel => (c.dropReceiver channel, .none)

def run (c : Client) : List Move → Client
  | [] => c
  | m :: moves => (c.step m).1.run moves

theorem run_append (c : Client) (before after : List Move) :
    c.run (before ++ after) = (c.run before).run after := by
  induction before generalizing c with
  | nil => rfl
  | cons m before ih => exact ih _

end Client
end OrderEntry
