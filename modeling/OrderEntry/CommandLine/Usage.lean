import OrderEntry.CommandLine.Arguments

/-! What the program prints about itself. -/

namespace OrderEntry

def programName : String := "meclient"

def versionLine : String := s!"{programName} 0.5.0"

namespace Argument

def explanation : Argument → String
  | address => "host:port of the server (overrides ME_ADDR)"
  | udp => "use UDP instead of TCP"
  | protocol => "auto | line | framed"
  | symbols => "omit | include (symbol field on acks/trades/cancels)"
  | noReconnect => ""
  | flush => "send a flush right after connecting"
  | recordFile => "append inbound events to this JSONL file"
  | metricsPort => ""
  | help => "Print help"
  | version => "Print version"

def form (a : Argument) : String :=
  "--" ++ a.long ++ match a.valueName? with
    | some name => s!" <{name}>"
    | none => ""

def formWidth : Nat := (all.map fun a => a.form.length).foldl max 0

def usageLine (a : Argument) : String :=
  let short := match a.short? with
    | some letter => s!"-{letter}, "
    | none => "    "
  "  " ++ short ++ a.form.pushn ' ' (formWidth + 2 - a.form.length) ++ a.explanation

end Argument

def usage : List String :=
  ["Matching engine client", "", s!"Usage: {programName} [OPTIONS]", "", "Options:"] ++
    Argument.all.map Argument.usageLine

end OrderEntry
