import OrderEntry.Wire.Decoder

/-! Events read from a byte stream whose bytes arrive in pieces. After a failure one call reports the
end of the stream; the calls after it read on. -/

namespace OrderEntry

/-- What one read of the transport gives. No bytes mean that a stream has ended. -/
inductive Arrival
  | bytes (chunk : Bytes)
  | failed (cause : String)
  /-- The peer's host does not take what is sent to it. -/
  | refused
  deriving DecidableEq, Repr

def Arrival.size : Arrival → Nat
  | bytes chunk => chunk.length
  | failed _ | refused => 0

def totalSize (arrivals : List Arrival) : Nat := arrivals.foldr (fun a n => a.size + n) 0

def refusal : String := "Connection refused (os error 111)"

abbrev Reading := Except ReadError (Option Event)

def Item.reading : Item → Reading
  | .ok event => .ok (some event)
  | .error e => .error (.decode e)

structure StreamReader where
  decoder : Decoder
  buffer : Bytes := []
  ended : Bool := false
  /-- The buffer may hold an item that was not asked for yet. -/
  readable : Bool := false
  failed : Bool := false
  deriving Repr

namespace StreamReader

def new (format : WireFormat) : StreamReader := { decoder := .new format }

def fromBuffer (r : StreamReader) : Option Reading × StreamReader :=
  if r.failed then (some (.ok none), { r with failed := false, readable := false })
  else if !r.readable then (none, r)
  else if r.ended then
    match r.decoder.nextAtEnd r.buffer with
    | (.error e, decoder, buffer) =>
      (some (.error (.transport (.io e.message))), { r with decoder, buffer, failed := true })
    | (.ok none, decoder, buffer) => (some (.ok none), { r with decoder, buffer, readable := false })
    | (.ok (some item), decoder, buffer) => (some (Item.reading item), { r with decoder, buffer })
  else
    match r.decoder.next r.buffer with
    | (none, decoder, buffer) => (none, { r with decoder, buffer, readable := false })
    | (some item, decoder, buffer) => (some (Item.reading item), { r with decoder, buffer })

def receive (r : StreamReader) : Arrival → Option Reading × StreamReader
  | .failed cause => (some (.error (.transport (.io cause))), { r with failed := true })
  | .refused => (some (.error (.transport (.io refusal))), { r with failed := true })
  | .bytes [] =>
    if r.ended then (some (.ok none), r)
    else { r with ended := true, readable := true }.fromBuffer
  | .bytes chunk =>
    { r with buffer := r.buffer ++ chunk, ended := false, readable := true }.fromBuffer

def readOn (r : StreamReader) : List Arrival → Option Reading × StreamReader × List Arrival
  | [] => (none, r, [])
  | arrival :: arrivals =>
    match r.receive arrival with
    | (some reading, r) => (some reading, r, arrivals)
    | (none, r) => r.readOn arrivals

def next (r : StreamReader) (arrivals : List Arrival) :
    Option Reading × StreamReader × List Arrival :=
  match r.fromBuffer with
  | (some reading, r) => (some reading, r, arrivals)
  | (none, r) => r.readOn arrivals

def readings (r : StreamReader) (arrivals : List Arrival) : (stops fuel : Nat) → List Reading
  | 0, _ => []
  | _, 0 => []
  | stops + 1, fuel + 1 =>
    match r.next arrivals with
    | (none, _, _) => []
    | (some (.ok none), r, arrivals) => .ok none :: r.readings arrivals stops fuel
    | (some reading, r, arrivals) => reading :: r.readings arrivals (stops + 1) fuel

/-- All readings of a transport that ends after these arrivals. A byte gives at most two readings
and a read at most two more, which bounds the fuel. -/
def readingsToEnd (r : StreamReader) (arrivals : List Arrival) (stops : Nat) : List Reading :=
  let arrivals := arrivals ++ List.replicate (stops + 1) (.bytes [])
  r.readings arrivals stops (2 * totalSize arrivals + 2 * arrivals.length)

end StreamReader
end OrderEntry
