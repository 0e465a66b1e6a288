/-! Running totals of one client. -/

namespace OrderEntry

structure Counters where
  sent : UInt64 := 0
  received : UInt64 := 0
  errors : UInt64 := 0
  reconnects : UInt64 := 0
  dropped : UInt64 := 0
  deriving DecidableEq, Repr

inductive Counter
  | sent
  | received
  | errors
  | reconnects
  | dropped
  deriving DecidableEq, Repr

def Counter.all : List Counter := [.sent, .received, .errors, .reconnects, .dropped]

def Counter.name : Counter → String
  | sent => "messages_sent"
  | received => "messages_received"
  | errors => "errors"
  | reconnects => "reconnects"
  | dropped => "dropped"

namespace Counters

def get (c : Counters) : Counter → UInt64
  | .sent => c.sent
  | .received => c.received
  | .errors => c.errors
  | .reconnects => c.reconnects
  | .dropped => c.dropped

def add (c : Counters) (n : UInt64) : Counter → Counters
  | .sent => { c with sent := c.sent + n }
  | .received => { c with received := c.received + n }
  | .errors => { c with errors := c.errors + n }
  | .reconnects => { c with reconnects := c.reconnects + n }
  | .dropped => { c with dropped := c.dropped + n }

def increment (c : Counters) (k : Counter) : Counters := c.add 1 k

end Counters
end OrderEntry
