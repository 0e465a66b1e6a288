/-! How messages are written on one connection. -/

namespace OrderEntry

inductive Framing
  | line
  /-- A four-byte big-endian length before each message. -/
  | framed
  deriving DecidableEq, Repr

/-- Whether acknowledgements, trades and cancels carry a symbol column. -/
inductive SymbolFields
  | omitted
  | included
  deriving DecidableEq, Repr

structure WireFormat where
  framing : Framing
  symbols : SymbolFields
  deriving DecidableEq, Repr

/-- The longest line or frame body, in bytes. -/
def maxMessageBytes : Nat := 16384

end OrderEntry
