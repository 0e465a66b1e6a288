import OrderEntry.Config.Environment
import OrderEntry.Host
import OrderEntry.Link

/-! Opening a link to a configured address. -/

namespace OrderEntry

inductive AddressError
  | missingPort
  | invalidPort
  | nulInHost
  deriving DecidableEq, Repr

def AddressError.message : AddressError → String
  | missingPort => "invalid socket address"
  | invalidPort => "invalid port value"
  | nulInHost => "file name contained an unexpected NUL byte"

structure Endpoint where
  host : Host
  service : Nat
  deriving DecidableEq, Repr

namespace Endpoint

def ofBrackets? : List Char → Option Endpoint
  | '[' :: rest =>
    match rest.span (· != ']') with
    | (host, ']' :: ':' :: numeral) => do
      return ⟨← Host.ofBrackets? host, ← Text.naturalBelow? 0x10000 numeral⟩
    | _ => none
  | _ => none

def ofParts (address : List Char) : Except AddressError Endpoint :=
  match address.reverse.span (· != ':') with
  | (_, []) => .error .missingPort
  | (numeral, _ :: host) =>
    match Environment.unpaddedBelow? 0x10000 numeral.reverse with
    | none => .error .invalidPort
    | some service =>
      if host.contains '\x00' then .error .nulInHost else .ok ⟨.ofText host.reverse, service⟩

def parse (address : String) : Except AddressError Endpoint :=
  match ofBrackets? address.toList with
  | some e => .ok e
  | none => ofParts address.toList

def text (e : Endpoint) : String := String.ofList (e.host.text ++ ':' :: Text.digits e.service)

end Endpoint

inductive DialOutcome
  | opened (remote : String)
  | unresolved (cause : String)
  | failed (cause : String)
  | expired
  deriving DecidableEq, Repr

def Config.dialAddress (c : Config) : String := String.ofList (Text.trim c.address.toList)

def DialOutcome.link (c : Config) : DialOutcome → Except TransportError Link
  | opened remote => .ok (Link.opened c.transport c.wireFormat remote)
  | unresolved cause => .error (.resolve c.dialAddress cause)
  | failed cause => .error (.connect c.dialAddress cause)
  | expired => .error (.connectTimeout c.dialAddress c.connectTimeout)

end OrderEntry
