import OrderEntry.Wire.FrameDecoder

/-! The decoder of one connection: a format and what it remembers between calls. -/

namespace OrderEntry

inductive Decoder
  | lines (symbols : SymbolFields) (discarding : Bool)
  | frames (symbols : SymbolFields) (skip : Nat)
  deriving DecidableEq, Repr

inductive EndError
  | insideFrame
  deriving DecidableEq, Repr

def EndError.message : EndError → String
  | insideFrame => "stream ended inside a frame"

namespace Decoder

def new (format : WireFormat) : Decoder :=
  match format.framing with
  | .line => lines format.symbols false
  | .framed => frames format.symbols 0

def next : Decoder → Bytes → Option Item × Decoder × Bytes
  | lines symbols discarding, buffer =>
    let (item, discarding, rest) := LineDecoder.next symbols false discarding buffer
    (item, lines symbols discarding, rest)
  | frames symbols skip, buffer =>
    let (item, skip, rest) := FrameDecoder.next symbols skip buffer
    (item, frames symbols skip, rest)

def nextAtEnd : Decoder → Bytes → Except EndError (Option Item) × Decoder × Bytes
  | lines symbols discarding, buffer =>
    let (item, discarding, rest) := LineDecoder.next symbols true discarding buffer
    (.ok item, lines symbols discarding, rest)
  | frames symbols skip, buffer =>
    match FrameDecoder.next symbols skip buffer with
    | (some item, skip, rest) => (.ok (some item), frames symbols skip, rest)
    | (none, 0, []) => (.ok none, frames symbols 0, [])
    | (none, skip, rest) => (.error .insideFrame, frames symbols skip, rest)

def weight : Decoder → Bytes → Nat
  | lines _ discarding, buffer => LineDecoder.weight discarding buffer
  | frames .., buffer => buffer.length

theorem weight_lt_of_next {d d' : Decoder} {buffer rest : Bytes} {item : Item}
    (h : d.next buffer = (some item, d', rest)) : d'.weight rest < d.weight buffer := by
  cases d with
  | lines symbols discarding =>
    simp only [next] at h
    obtain ⟨hi, hd⟩ := Prod.mk.inj h
    obtain ⟨rfl, hr⟩ := Prod.mk.inj hd
    exact LineDecoder.weight_lt_of_next (Prod.ext hi (Prod.ext rfl hr))
  | frames symbols skip =>
    simp only [next] at h
    obtain ⟨hi, hd⟩ := Prod.mk.inj h
    obtain ⟨rfl, hr⟩ := Prod.mk.inj hd
    exact FrameDecoder.length_lt_of_next (Prod.ext hi (Prod.ext rfl hr))

theorem weight_lt_of_nextAtEnd {d d' : Decoder} {buffer rest : Bytes} {item : Item}
    (h : d.nextAtEnd buffer = (.ok (some item), d', rest)) : d'.weight rest < d.weight buffer := by
  cases d with
  | lines symbols discarding =>
    simp only [nextAtEnd] at h
    obtain ⟨hi, hd⟩ := Prod.mk.inj h
    obtain ⟨rfl, hr⟩ := Prod.mk.inj hd
    exact LineDecoder.weight_lt_of_next
      (Prod.ext (Except.ok.inj hi) (Prod.ext rfl hr))
  | frames symbols skip =>
    simp only [nextAtEnd] at h
    split at h
    next hn => cases h; exact FrameDecoder.length_lt_of_next hn
    · cases h
    · cases h

def drain (d : Decoder) (buffer : Bytes) : List Item × Decoder × Bytes :=
  match h : d.next buffer with
  | (none, d', rest) => ([], d', rest)
  | (some item, d', rest) =>
    have := weight_lt_of_next h
    let (items, last) := d'.drain rest
    (item :: items, last)
termination_by d.weight buffer

/-- All items of the last buffer, how the stream ended and the bytes that stayed. -/
def finish (d : Decoder) (buffer : Bytes) : List Item × Option EndError × Bytes :=
  match h : d.nextAtEnd buffer with
  | (.error e, _, rest) => ([], some e, rest)
  | (.ok none, _, rest) => ([], none, rest)
  | (.ok (some item), d', rest) =>
    have := weight_lt_of_nextAtEnd h
    let (items, last) := d'.finish rest
    (item :: items, last)
termination_by d.weight buffer

end Decoder
end OrderEntry
