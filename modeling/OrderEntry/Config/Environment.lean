import OrderEntry.Config
import OrderEntry.Text.Decimal

/-! Settings from environment variables. A value that cannot be read leaves the setting as it is. -/

namespace OrderEntry

/-- Variables and their values; the first binding of a name counts. -/
abbrev Environment := List (String × String)

namespace Environment

def get? (env : Environment) (name : String) : Option String := List.lookup name env

/-- The bindings of a settings file, one `NAME=VALUE` a line. Lines without a name are skipped. -/
def ofFile (text : String) : Environment :=
  (text.toList.splitOn '\n').filterMap fun line =>
    let line := Text.trim line
    match line.dropWhile (· != '=') with
    | '=' :: value =>
      let name := Text.trim (line.takeWhile (· != '='))
      if name.isEmpty || name.head? == some '#' then none
      else some (String.ofList name, String.ofList (Text.trim value))
    | _ => none

def unpaddedBelow? (limit : Nat) (text : List Char) : Option Nat :=
  let numeral := match text with
    | '+' :: rest => rest
    | rest => rest
  Text.naturalBelow? limit numeral

def numberBelow? (limit : Nat) (text : String) : Option Nat :=
  unpaddedBelow? limit (Text.trim text.toList)

def truth? (text : String) : Option Bool :=
  match String.ofList (Text.trim text.toList) with
  | "true" => some true
  | "false" => some false
  | _ => none

def number? (env : Environment) (limit : Nat) (name : String) : Option Nat :=
  (env.get? name).bind (numberBelow? limit)

end Environment

def Environment.names : List String :=
  ["ME_ADDR", "ME_TRANSPORT", "ME_PROTOCOL", "ME_SYMBOL_FIELDS", "ME_CHANNEL_CAPACITY",
    "ME_CONNECT_TIMEOUT_MS", "ME_RECONNECT_MIN_MS", "ME_RECONNECT_MAX_MS",
    "ME_MAX_RECONNECT_ATTEMPTS", "ME_AUTO_RECONNECT"]

def Config.ofEnvironment (env : Environment) : Config :=
  let base : Config := {}
  let transport := ((env.get? "ME_TRANSPORT").bind Transport.parse?).getD base.transport
  let millis (name : String) := (env.number? 0x10000000000000000 name).map Duration.ofMillis
  { address := (env.get? "ME_ADDR").getD base.address
    transport
    protocol := ((env.get? "ME_PROTOCOL").bind ProtocolMode.parse?).getD base.protocol
    symbolFields := ((env.get? "ME_SYMBOL_FIELDS").bind SymbolFields.parse?).getD base.symbolFields
    channelCapacity := (env.number? 0x10000000000000000 "ME_CHANNEL_CAPACITY").getD base.channelCapacity
    connectTimeout := (millis "ME_CONNECT_TIMEOUT_MS").getD base.connectTimeout
    reconnectMinDelay := (millis "ME_RECONNECT_MIN_MS").getD base.reconnectMinDelay
    reconnectMaxDelay := (millis "ME_RECONNECT_MAX_MS").getD base.reconnectMaxDelay
    maxReconnectAttempts :=
      (env.number? 0x100000000 "ME_MAX_RECONNECT_ATTEMPTS").getD base.maxReconnectAttempts
    autoReconnect := transport == .tcp &&
      ((env.get? "ME_AUTO_RECONNECT").bind Environment.truth?).getD base.autoReconnect }

end OrderEntry
