import OrderEntry.Config
import OrderEntry.Fifo
import OrderEntry.Wire.Datagram
import OrderEntry.Wire.StreamReader

/-! Links: one open connection each, with a reading side, a writing side and a flag that says whether it
is still up. A link that went down never comes up again. -/

namespace OrderEntry

/-- The number of a link, counted in the order in which links were opened. -/
abbrev LinkId := Nat

inductive LinkReader
  | stream (reader : StreamReader)
  | datagrams (format : WireFormat) (pending : List Item)
  deriving Repr

namespace LinkReader

def new (transport : Transport) (format : WireFormat) : LinkReader :=
  match transport with
  | .tcp => stream (.new format)
  | .udp => datagrams format []

/-- Takes datagrams until one has a message. A refusal tells of an earlier datagram that got lost and
is passed over. -/
def nextDatagram (format : WireFormat) :
    List Item → List Arrival → Option Reading × List Item × List Arrival
  | item :: pending, arrivals => (some (Item.reading item), pending, arrivals)
  | [], [] => (none, [], [])
  | [], .refused :: arrivals => nextDatagram format [] arrivals
  | [], .failed cause :: arrivals => (some (.error (.transport (.io cause))), [], arrivals)
  | [], .bytes datagram :: arrivals => nextDatagram format (itemsOfDatagram format datagram) arrivals

/-- A stream that has ended has ended for every later read. -/
def next (r : LinkReader) (arrivals : List Arrival) : Option Reading × LinkReader × List Arrival :=
  match r with
  | stream reader =>
    let arrivals := if reader.ended && arrivals.isEmpty then [.bytes []] else arrivals
    let (reading, reader, arrivals) := reader.next arrivals
    (reading, stream reader, arrivals)
  | datagrams format pending =>
    let (reading, pending, arrivals) := nextDatagram format pending arrivals
    (reading, datagrams format pending, arrivals)

end LinkReader

structure Link where
  transport : Transport
  format : WireFormat
  remote : String
  up : Bool := true
  shut : Bool := false
  reader : LinkReader
  arrivals : List Arrival := []
  written : Fifo Bytes := .empty
  deriving Repr

namespace Link

def opened (transport : Transport) (format : WireFormat) (remote : String) : Link :=
  { transport, format, remote, reader := .new transport format }

def markDown (l : Link) : Link := { l with up := false }

def close (l : Link) : Link := { l with up := false, shut := true }

def arrive (l : Link) (a : Arrival) : Link := { l with arrivals := l.arrivals ++ [a] }

/-- The end of the stream and every fault of the transport take the link down; a message that cannot
be decoded does not. -/
def endsLink : Reading → Bool
  | .ok none => true
  | .error (.transport _) => true
  | _ => false

def read (l : Link) : Option Reading × Link :=
  let (reading, reader, arrivals) := l.reader.next l.arrivals
  let down := reading.any endsLink
  (reading, { l with reader, arrivals, up := l.up && !down })

/-- The end of a write that was begun while the link was up; that it may have gone down since does not
matter. `sent` is what the network answers when the bytes are handed to it. A failed write takes down
a stream, not a datagram link. -/
def send (l : Link) (c : Command) (sent : Except String Unit) : Except TransportError Unit × Link :=
  let failed (cause : String) : Except TransportError Unit × Link :=
    (.error (.io cause), if l.transport == .tcp then l.markDown else l)
  match c.frame l.format, sent with
  | .error e, _ => failed e.message
  | .ok _, .error cause => failed cause
  | .ok bytes, .ok () => (.ok (), { l with written := l.written.push bytes })

end Link
end OrderEntry
