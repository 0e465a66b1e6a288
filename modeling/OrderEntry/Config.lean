import OrderEntry.Error
import OrderEntry.Text.Blank
import OrderEntry.Wire.Format

/-! Settings of a client and the rules they must satisfy. -/

namespace OrderEntry

inductive Transport
  | tcp
  | udp
  deriving DecidableEq, Repr

/-- The framing asked for. `auto` leaves it to the transport. -/
inductive ProtocolMode
  | auto
  | line
  | framed
  deriving DecidableEq, Repr

/-- A setting's word: without padding and in lower case, ASCII letters only. -/
def settingWord (text : String) : String := String.ofList ((Text.trim text.toList).map Char.toLower)

def Transport.name : Transport → String
  | tcp => "tcp"
  | udp => "udp"

def Transport.parse? (text : String) : Option Transport :=
  match settingWord text with
  | "tcp" | "stream" => some tcp
  | "udp" | "datagram" => some udp
  | _ => none

def ProtocolMode.name : ProtocolMode → String
  | auto => "auto"
  | line => "line"
  | framed => "framed"

def ProtocolMode.parse? (text : String) : Option ProtocolMode :=
  match settingWord text with
  | "auto" => some auto
  | "line" | "csv" => some line
  | "framed" | "binary" => some framed
  | _ => none

def SymbolFields.parse? (text : String) : Option SymbolFields :=
  match settingWord text with
  | "omit" | "no" | "false" | "0" => some omitted
  | "include" | "yes" | "true" | "1" => some included
  | _ => none

structure Config where
  address : String := "127.0.0.1:1234"
  transport : Transport := .tcp
  protocol : ProtocolMode := .auto
  symbolFields : SymbolFields := .omitted
  /-- Of every output mailbox and of the queue of commands. -/
  channelCapacity : Nat := 1024
  connectTimeout : Duration := .ofMillis 5000
  reconnectMinDelay : Duration := .ofMillis 100
  reconnectMaxDelay : Duration := .ofMillis 30000
  maxReconnectAttempts : Nat := 1000
  autoReconnect : Bool := true
  deriving DecidableEq, Repr

namespace Config

def maxChannelCapacity : Nat := 65536

/-- Transports without a connection have nothing to restore. -/
def reconnectEnabled (c : Config) : Bool := c.autoReconnect && c.transport == .tcp

def wireFormat (c : Config) : WireFormat where
  framing := match c.protocol, c.transport with
    | .line, _ => .line
    | .framed, _ => .framed
    | .auto, .tcp => .framed
    | .auto, .udp => .line
  symbols := c.symbolFields

def check (c : Config) : Except ConfigError Unit :=
  if (Text.trim c.address.toList).isEmpty then .error .emptyAddress
  else if c.channelCapacity = 0 ∨ maxChannelCapacity < c.channelCapacity then
    .error (.channelCapacity c.channelCapacity maxChannelCapacity)
  else if c.connectTimeout.isZero then .error .connectTimeout
  else if c.reconnectMinDelay.isZero || c.reconnectMaxDelay.isZero then .error .reconnectDelay
  else if c.reconnectMaxDelay < c.reconnectMinDelay then
    .error (.delayOrder c.reconnectMinDelay c.reconnectMaxDelay)
  else if c.maxReconnectAttempts = 0 then .error .reconnectAttempts
  else .ok ()

end Config
end OrderEntry
