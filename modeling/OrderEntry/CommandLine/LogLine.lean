import OrderEntry.CommandLine.Usage
import OrderEntry.Config
import OrderEntry.Counters
import OrderEntry.Outputs
import OrderEntry.RecordPath
import OrderEntry.Text.Quoted

/-! The lines that the program writes while it runs. Texts that come from outside stand in them as they
are, names that the program chose in quotes. -/

namespace OrderEntry

inductive LogLevel
  | error
  | warn
  | info
  deriving DecidableEq, Repr

def LogLevel.name : LogLevel → String
  | error => "ERROR"
  | warn => "WARN"
  | info => "INFO"

structure LogLine where
  level : LogLevel
  message : String
  fields : List (String × String) := []
  deriving DecidableEq, Repr

namespace LogLine

def text (l : LogLine) : String :=
  s!"{l.level.name} {programName}: {l.message}" ++
    String.join (l.fields.map fun (name, value) => s!" {name}={value}")

def word (w : UInt32) : String := String.ofList (Text.digits w.toNat)

def format (f : WireFormat) : String :=
  let framing := match f.framing with
    | .line => "Line"
    | .framed => "Framed"
  let symbols := match f.symbols with
    | .omitted => "Omit"
    | .included => "Include"
  s!"WireFormat \x7b framing: {framing}, symbols: {symbols} \x7d"

def truth (b : Bool) : String := if b then "true" else "false"

def startup (c : Config) : LogLine where
  level := .info
  message := "startup config"
  fields := [("addr", c.address), ("transport", Text.quoted c.transport.name),
    ("protocol", Text.quoted c.protocol.name), ("format", format c.wireFormat),
    ("auto_reconnect", truth c.reconnectEnabled)]

def unknownProtocol (text : String) (kept : ProtocolMode) : LogLine :=
  ⟨.warn, s!"unknown protocol, keeping {kept.name}", [("protocol", text)]⟩

def unknownSymbols (text : String) : LogLine :=
  ⟨.warn, "unknown symbol mode, keeping default", [("symbols", text)]⟩

def fault (level : LogLevel) (message : String) (e : ClientError) : LogLine :=
  ⟨level, message, [("e", e.message)]⟩

def connected (remote : Option String) : LogLine where
  level := .info
  message := "connected"
  fields := [("remote", match remote with
    | some address => s!"Some({Text.quoted address})"
    | none => "None")]

def ofEvent : Event → LogLine
  | .ack a => ⟨.info, "ack", [("user", word a.userId), ("order", word a.orderId)]⟩
  | .trade t =>
    ⟨.info, "trade", [("buy", word t.buyOrderId), ("sell", word t.sellOrderId), ("px", word t.price),
      ("qty", word t.qty)]⟩
  | .bookUpdate b =>
    ⟨.info, "book", [("symbol", b.symbol), ("side", b.side.display), ("px", word b.price),
      ("qty", word b.qty)]⟩
  | .cancelAck a => ⟨.info, "cancel ack", [("user", word a.userId), ("order", word a.orderId)]⟩

def ofDelivery : Delivery → LogLine
  | .event e => ofEvent e
  | .error e =>
    if e.isFatal then fault .error "fatal client error" e else fault .warn "client error" e
  | .reconnected attempt =>
    ⟨.info, "reconnected", [("attempt", String.ofList (Text.digits attempt))]⟩

def recorderStopped (e : RecordPath.OpenError) : LogLine :=
  ⟨.error, "recorder stopped", [("e", e.detail)]⟩

def interrupted : LogLine := ⟨.info, "ctrl-c, shutting down", []⟩

def goodbye (c : Counters) : LogLine :=
  ⟨.info, "bye", [("sent", String.ofList (Text.digits c.sent.toNat)),
    ("received", String.ofList (Text.digits c.received.toNat))]⟩

end LogLine
end OrderEntry
