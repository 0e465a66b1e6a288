import OrderEntry.Wire.Decoder

/-! Datagrams. Each carries whole messages and is decoded on its own. -/

namespace OrderEntry

/-- The length that cut-off bytes announce, or just how many there are. -/
def announcedLength (bytes : Bytes) : Nat :=
  match FrameDecoder.header? bytes with
  | some (declared, _) => declared
  | none => bytes.length

/-- The messages of one datagram, in order. Nothing after a frame that is cut off can be told apart,
so its bytes are reported as one fault. -/
def itemsOfDatagram (format : WireFormat) (bytes : Bytes) : List Item :=
  match (Decoder.new format).finish bytes with
  | (items, none, _) => items
  | (items, some .insideFrame, []) => items
  | (items, some .insideFrame, rest) => items ++ [.error (.frameLength (announcedLength rest))]

end OrderEntry
