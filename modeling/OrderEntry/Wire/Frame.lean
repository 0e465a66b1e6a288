import OrderEntry.Wire.Payload.Printer

/-! Payloads as bytes on the wire. -/

namespace OrderEntry

abbrev Bytes := List UInt8

def newline : UInt8 := 10

inductive FrameError
  | tooBig
  deriving DecidableEq, Repr

def FrameError.message : FrameError → String
  | tooBig => "frame size too big"

def bigEndian (n : Nat) : Bytes :=
  [n / 0x1000000, n / 0x10000, n / 0x100, n].map fun k => UInt8.ofNat (k % 0x100)

def ofBigEndian (bytes : Bytes) : Nat := bytes.foldl (fun n b => n * 0x100 + b.toNat) 0

def frame (framing : Framing) (payload : Bytes) : Except FrameError Bytes :=
  match framing with
  | .line => .ok (payload ++ [newline])
  | .framed =>
    if payload.length ≤ maxMessageBytes then .ok (bigEndian payload.length ++ payload)
    else .error .tooBig

def utf8 (s : String) : Bytes := s.toUTF8.data.toList

def ofUtf8? (bytes : Bytes) : Option String := String.fromUTF8? ⟨bytes.toArray⟩

def Command.frame (format : WireFormat) (c : Command) : Except FrameError Bytes :=
  OrderEntry.frame format.framing (utf8 (c.payload format.symbols))

/-- Nothing at all for a command too long for a frame, which no valid command is. -/
def Command.encode (format : WireFormat) (c : Command) : Bytes :=
  match c.frame format with
  | .ok bytes => bytes
  | .error _ => []

end OrderEntry
