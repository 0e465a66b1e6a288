import OrderEntry.ConnState
import OrderEntry.Counters
import OrderEntry.Event
import OrderEntry.Text.Shortest

/-! Figures for a monitoring system: families of labelled samples in text exposition format 0.0.4.
Families come in the order of their names, samples in the order of their labels. -/

namespace OrderEntry

structure Sample where
  label : String
  value : String
  deriving DecidableEq, Repr

structure Family where
  name : String
  help : String
  kind : String
  labelName : String
  samples : List Sample
  deriving DecidableEq, Repr

/-- A family without samples is left out. -/
def Family.text (f : Family) : String :=
  if f.samples.isEmpty then "" else
    "# HELP " ++ f.name ++ " " ++ f.help ++ "\n# TYPE " ++ f.name ++ " " ++ f.kind ++ "\n" ++
      String.join (f.samples.map fun s =>
        f.name ++ "\x7b" ++ f.labelName ++ "=\"" ++ s.label ++ "\"\x7d " ++ s.value ++ "\n")

structure Metrics where
  registered : Bool := false
  counters : Option Counters := none
  state : Option ConnState := none
  acks : Option UInt64 := none
  trades : Option UInt64 := none
  bookUpdates : Option UInt64 := none
  cancelAcks : Option UInt64 := none
  deriving DecidableEq, Repr

namespace Metrics

def register (m : Metrics) : Metrics := { m with registered := true }

def observe (m : Metrics) (counters : Counters) (state : ConnState) : Metrics :=
  { m with counters := some counters, state := some state }

/-- A count that passes the largest word starts again at zero. -/
def countEvents (m : Metrics) (kind : EventKind) (n : UInt64) : Metrics :=
  match kind with
  | .ack => { m with acks := some (m.acks.getD 0 + n) }
  | .trade => { m with trades := some (m.trades.getD 0 + n) }
  | .bookUpdate => { m with bookUpdates := some (m.bookUpdates.getD 0 + n) }
  | .cancelAck => { m with cancelAcks := some (m.cancelAcks.getD 0 + n) }

def connectionState (m : Metrics) : Family where
  name := "meclient_connection_state"
  help := "connection state (label: state)"
  kind := "gauge"
  labelName := "state"
  samples := match m.state with
    | none => []
    | some current =>
      [ConnState.closed, .connected, .connecting, .disconnected, .reconnecting].map fun s =>
        ⟨s.name, if s = current then "1" else "0"⟩

def events (m : Metrics) : Family where
  name := "meclient_events_total"
  help := "inbound events seen by the consumer (label: kind)"
  kind := "counter"
  labelName := "kind"
  samples :=
    [(EventKind.ack, m.acks), (.bookUpdate, m.bookUpdates), (.cancelAck, m.cancelAcks),
      (.trade, m.trades)].filterMap fun (kind, count) =>
        count.map fun n => ⟨kind.name, Text.roundedNatural n.toNat⟩

/-- A gauge is signed, so a large counter shows as its negative complement. -/
def stats (m : Metrics) : Family where
  name := "meclient_stats"
  help := "client counters (label: counter)"
  kind := "gauge"
  labelName := "counter"
  samples := match m.counters with
    | none => []
    | some c =>
      [Counter.dropped, .errors, .received, .sent, .reconnects].map fun k =>
        ⟨k.name, Text.roundedInteger (c.get k).toInt64.toInt⟩

def text (m : Metrics) : String :=
  let body := if m.registered then String.join ([m.connectionState, m.events, m.stats].map Family.text)
    else ""
  if body.isEmpty then "# no metrics\n" else body

end Metrics
end OrderEntry
