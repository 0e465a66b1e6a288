import OrderEntry.Duration
import OrderEntry.Text.Quoted

/-! Causes of failure, one type per layer, each with its wording in one function `message`. An outer
cause holds the inner one and words it in its own text. -/

namespace OrderEntry

open Text (quoted)

inductive ConfigError
  | emptyAddress
  | channelCapacity (got max : Nat)
  | connectTimeout
  | reconnectDelay
  | delayOrder (min max : Duration)
  | reconnectAttempts
  deriving DecidableEq, Repr

def ConfigError.message (e : ConfigError) : String :=
  "invalid configuration: " ++ match e with
  | emptyAddress => "address is empty"
  | channelCapacity got max => s!"channel capacity must be 1-{max}, got {got}"
  | connectTimeout => "connect timeout must be positive"
  | reconnectDelay => "reconnect delays must be positive"
  | delayOrder min max => s!"min delay {min.text} cannot exceed max delay {max.text}"
  | reconnectAttempts => "max reconnect attempts must be positive"

inductive ValidationError
  | emptySymbol
  | symbolTooLong (length max : Nat)
  | invalidSymbol (symbol : String)
  | zeroQuantity
  | invalidSide (text : String)
  deriving DecidableEq, Repr

def ValidationError.message : ValidationError → String
  | emptySymbol => "symbol cannot be empty"
  | symbolTooLong length max => s!"symbol exceeds maximum length ({length} > {max})"
  | invalidSymbol symbol => s!"symbol contains characters not allowed on the wire: {quoted symbol}"
  | zeroQuantity => "quantity must be greater than zero"
  | invalidSide text => s!"invalid order side: {quoted text}"

/-- Faults of one received message. `kind` is the kind of message, `field` the name of its field. -/
inductive DecodeError
  | emptyMessage
  | unknownType (tag : String)
  | fieldCount (kind : String) (expected got : Nat)
  | invalidNumber (kind field value : String)
  | invalidSide (kind value : String)
  | frameLength (length : Nat)
  | lineTooLong (max : Nat)
  | utf8
  deriving DecidableEq, Repr

def DecodeError.message : DecodeError → String
  | emptyMessage => "empty message"
  | unknownType tag => s!"unknown message type: {tag}"
  | fieldCount kind expected got => s!"{kind}: expected {expected} fields, got {got}"
  | invalidNumber kind field value => s!"{kind}: invalid {field}: {quoted value}"
  | invalidSide kind value => s!"{kind}: invalid side: {quoted value}"
  | frameLength length => s!"invalid frame length: {length}"
  | lineTooLong max => s!"line exceeds {max} bytes"
  | utf8 => "message is not valid UTF-8"

/-- `cause` is the text of the operating system's error. -/
inductive TransportError
  | resolve (address cause : String)
  | connect (address cause : String)
  | connectTimeout (address : String) (timeout : Duration)
  | peerClosed
  | notConnected
  | io (cause : String)
  deriving DecidableEq, Repr

def TransportError.message : TransportError → String
  | resolve address cause => s!"resolve {address} failed: {cause}"
  | connect address cause => s!"connect to {address} failed: {cause}"
  | connectTimeout address timeout => s!"connect to {address} timed out after {timeout.text}"
  | peerClosed => "connection closed by server"
  | notConnected => "not connected"
  | io cause => s!"i/o error: {cause}"

inductive ReadError
  | transport (error : TransportError)
  | decode (error : DecodeError)
  deriving DecidableEq, Repr

def ReadError.message : ReadError → String
  | transport error => error.message
  | decode error => s!"decode error: {error.message}"

inductive ClientError
  | config (error : ConfigError)
  | validation (error : ValidationError)
  | queueFull
  | channelFull (channel : String)
  | closed
  | alreadyConnected
  | read (error : ReadError)
  | write (error : TransportError)
  | transport (error : TransportError)
  | reconnectFailed (attempt : Nat) (error : TransportError)
  | maxReconnects (attempts : Nat)
  | maxConsecutiveErrors (errors : Nat)
  deriving DecidableEq, Repr

def ClientError.message : ClientError → String
  | config error => error.message
  | validation error => error.message
  | queueFull => "write queue full"
  | channelFull channel => s!"{channel} channel full, message dropped"
  | closed => "client closed"
  | alreadyConnected => "client already connected"
  | read error => s!"read error: {error.message}"
  | write error => s!"write error: {error.message}"
  | transport error => error.message
  | reconnectFailed attempt error => s!"reconnect attempt {attempt} failed: {error.message}"
  | maxReconnects attempts => s!"maximum reconnection attempts exceeded ({attempts})"
  | maxConsecutiveErrors errors => s!"max consecutive errors ({errors}) exceeded"

def ClientError.isFatal : ClientError → Bool
  | maxReconnects _ | maxConsecutiveErrors _ => true
  | _ => false

end OrderEntry
