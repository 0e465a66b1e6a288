import OrderEntry.Order

/-! Messages of the matching engine: acknowledgements, trades and changes at the top of a book. -/

namespace OrderEntry

structure Ack where
  userId : UInt32
  orderId : UInt32
  symbol : Option String
  deriving DecidableEq, Repr

structure Trade where
  buyUserId : UInt32
  buyOrderId : UInt32
  sellUserId : UInt32
  sellOrderId : UInt32
  price : UInt32
  qty : UInt32
  symbol : Option String
  deriving DecidableEq, Repr

structure BookUpdate where
  symbol : String
  side : Side
  price : UInt32
  qty : UInt32
  deriving DecidableEq, Repr

def BookUpdate.isEmpty (b : BookUpdate) : Bool := b.price == 0 && b.qty == 0

structure CancelAck where
  userId : UInt32
  orderId : UInt32
  symbol : Option String
  deriving DecidableEq, Repr

inductive Event
  | ack (ack : Ack)
  | trade (trade : Trade)
  | bookUpdate (update : BookUpdate)
  | cancelAck (ack : CancelAck)
  deriving DecidableEq, Repr

inductive EventKind
  | ack
  | trade
  | bookUpdate
  | cancelAck
  deriving DecidableEq, Repr

def EventKind.name : EventKind → String
  | ack => "ack"
  | trade => "trade"
  | bookUpdate => "book_update"
  | cancelAck => "cancel_ack"

def Event.kind : Event → EventKind
  | ack _ => .ack
  | trade _ => .trade
  | bookUpdate _ => .bookUpdate
  | cancelAck _ => .cancelAck

end OrderEntry
