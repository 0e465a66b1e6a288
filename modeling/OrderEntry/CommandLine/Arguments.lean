import OrderEntry.Text.Decimal

/-! The arguments of the program. They are read from left to right, and the first fault, or the first
request for help or the version, decides. -/

namespace OrderEntry

inductive Argument
  | address
  | udp
  | protocol
  | symbols
  | noReconnect
  | flush
  | recordFile
  | metricsPort
  | help
  | version
  deriving DecidableEq, Repr

namespace Argument

def all : List Argument :=
  [address, udp, protocol, symbols, noReconnect, flush, recordFile, metricsPort, help, version]

def long : Argument → String
  | address => "addr"
  | udp => "udp"
  | protocol => "protocol"
  | symbols => "symbols"
  | noReconnect => "no-reconnect"
  | flush => "flush"
  | recordFile => "record-file"
  | metricsPort => "metrics-port"
  | help => "help"
  | version => "version"

def short? : Argument → Option Char
  | help => some 'h'
  | version => some 'V'
  | _ => none

def valueName? : Argument → Option String
  | address => some "ADDR"
  | protocol => some "PROTOCOL"
  | symbols => some "SYMBOLS"
  | recordFile => some "RECORD_FILE"
  | metricsPort => some "METRICS_PORT"
  | _ => none

def ofLong? (name : String) : Option Argument := all.find? (·.long == name)

def ofShort? (letter : Char) : Option Argument := all.find? (·.short? == some letter)

theorem ofLong?_long (a : Argument) : ofLong? a.long = some a := by cases a <;> decide

end Argument

inductive ArgumentError
  | unexpected (text : String)
  | repeated (argument : Argument)
  | missingValue (argument : Argument)
  | unneededValue (argument : Argument)
  | invalidPort (value : String)
  deriving DecidableEq, Repr

def ArgumentError.message : ArgumentError → String
  | unexpected text => s!"unexpected argument '{text}' found"
  | repeated a => s!"the argument '--{a.long}' cannot be used multiple times"
  | missingValue a => s!"a value is required for '--{a.long}' but none was supplied"
  | unneededValue a => s!"unexpected value for '--{a.long}' found; no more were expected"
  | invalidPort value =>
    s!"invalid value '{value}' for '--{Argument.metricsPort.long}': not a number below 65536"

/-- The arguments that were given, each with its value; one that takes none has the empty value. -/
structure Options where
  given : List (Argument × String) := []
  deriving DecidableEq, Repr

namespace Options

def value? (o : Options) (a : Argument) : Option String := o.given.lookup a

def has (o : Options) (a : Argument) : Bool := (o.value? a).isSome

/-- A number that an address can end in, after a sign if there is one. -/
def service? (text : String) : Option Nat :=
  match text.toList with
  | '-' :: numeral => Text.naturalBelow? 1 numeral
  | '+' :: numeral => Text.naturalBelow? 0x10000 numeral
  | numeral => Text.naturalBelow? 0x10000 numeral

def add (o : Options) (a : Argument) (value : String) : Except ArgumentError Options :=
  if o.has a then .error (.repeated a)
  else if a = .metricsPort ∧ (service? value).isNone then .error (.invalidPort value)
  else .ok ⟨o.given ++ [(a, value)]⟩

end Options

inductive Word
  | long (name : String) (value : Option String)
  | short (letter : Char)
  | separator
  | plain
  deriving DecidableEq, Repr

def Word.ofText (text : String) : Word :=
  match text.toList with
  | ['-', '-'] => separator
  | '-' :: '-' :: body =>
    match body.span (· != '=') with
    | (name, []) => long (String.ofList name) none
    | (name, _ :: value) => long (String.ofList name) (some (String.ofList value))
  | '-' :: letter :: _ => short letter
  | _ => plain

inductive Request
  | help
  | version
  | run (options : Options)
  deriving DecidableEq, Repr

def Request.parse (o : Options) : List String → Except ArgumentError Request
  | [] => .ok (.run o)
  | text :: rest =>
    match Word.ofText text with
    | .plain => .error (.unexpected text)
    | .separator =>
      match rest with
      | [] => .ok (.run o)
      | extra :: _ => .error (.unexpected extra)
    | .short letter =>
      match Argument.ofShort? letter with
      | some .help => .ok .help
      | some .version => .ok .version
      | _ => .error (.unexpected text)
    | .long name value =>
      match Argument.ofLong? name, value with
      | none, _ => .error (.unexpected text)
      | some .help, none => .ok .help
      | some .version, none => .ok .version
      | some a, value =>
        match a.valueName?, value, rest with
        | none, none, rest => do parse (← o.add a "") rest
        | none, some _, _ => .error (.unneededValue a)
        | some _, some value, rest => do parse (← o.add a value) rest
        | some _, none, [] => .error (.missingValue a)
        | some _, none, value :: rest =>
          if Word.ofText value = .plain then do parse (← o.add a value) rest
          else .error (.missingValue a)

end OrderEntry
