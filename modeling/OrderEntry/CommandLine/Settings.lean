import OrderEntry.CommandLine.LogLine
import OrderEntry.Config.Environment

/-! The settings of the program: those of the environment, and over them the arguments. A word that means
nothing leaves the setting as it was, with a warning. -/

namespace OrderEntry

namespace Options

def protocol (o : Options) (c : Config) : Config × List LogLine :=
  match o.value? .protocol with
  | none => (c, [])
  | some text =>
    match ProtocolMode.parse? text with
    | some protocol => ({ c with protocol }, [])
    | none => (c, [.unknownProtocol text c.protocol])

def symbols (o : Options) (c : Config) : Config × List LogLine :=
  match o.value? .symbols with
  | none => (c, [])
  | some text =>
    match SymbolFields.parse? text with
    | some symbolFields => ({ c with symbolFields }, [])
    | none => (c, [.unknownSymbols text])

def config (o : Options) (env : Environment) : Config × List LogLine :=
  let c := Config.ofEnvironment env
  let c := { c with address := (o.value? .address).getD c.address }
  let c := if o.has .udp then { c with transport := .udp, autoReconnect := false } else c
  let (c, protocolWarnings) := o.protocol c
  let (c, symbolWarnings) := o.symbols c
  let c := if o.has .noReconnect then { c with autoReconnect := false } else c
  (c, protocolWarnings ++ symbolWarnings)

end Options
end OrderEntry
