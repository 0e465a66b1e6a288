import OrderEntry.Error
import OrderEntry.Text.Blank
import OrderEntry.Wire.Payload.Printer

/-! Messages read from their fields. The line and each of its fields are trimmed first, so padding
has no meaning. Faults are found in this order: the tag, the number of fields, the fields from left
to right. -/

namespace OrderEntry

def splitFields (line : List Char) : List Field := (line.splitOn ',').map Text.trim

def readWord (kind name : String) (f : Field) : Except DecodeError UInt32 :=
  match Text.word? f with
  | some w => .ok w
  | none => .error (.invalidNumber kind name (String.ofList f))

/-- A dash stands for zero. -/
def readLevel (kind name : String) (f : Field) : Except DecodeError UInt32 :=
  if f = ['-'] then .ok 0 else readWord kind name f

def readSide (kind : String) (f : Field) : Except DecodeError Side :=
  match Side.ofField? f with
  | some s => .ok s
  | none => .error (.invalidSide kind (String.ofList f))

/-- Separates the symbol column from the `count` fields after it. The tag counts as a field too. -/
def takeSymbol (kind : String) (count : Nat) :
    SymbolFields → List Field → Except DecodeError (Option String × List Field)
  | .omitted, fields =>
    if fields.length = count then .ok (none, fields)
    else .error (.fieldCount kind (1 + count) (1 + fields.length))
  | .included, [] => .error (.fieldCount kind (2 + count) 1)
  | .included, symbol :: fields =>
    if fields.length = count then .ok (some (String.ofList symbol), fields)
    else .error (.fieldCount kind (2 + count) (2 + fields.length))

def readOrderRef (kind : String) (symbols : SymbolFields) (fields : List Field) :
    Except DecodeError (UInt32 × UInt32 × Option String) := do
  match ← takeSymbol kind 2 symbols fields with
  | (symbol, [user, order]) =>
    let user ← readWord kind "user_id" user
    let order ← readWord kind "order_id" order
    return (user, order, symbol)
  | (_, rest) => throw (.fieldCount kind 3 (1 + rest.length))

def readTrade (symbols : SymbolFields) (fields : List Field) : Except DecodeError Trade := do
  match ← takeSymbol "trade" 6 symbols fields with
  | (symbol, [buyUser, buyOrder, sellUser, sellOrder, price, qty]) =>
    let buyUserId ← readWord "trade" "buy_user_id" buyUser
    let buyOrderId ← readWord "trade" "buy_order_id" buyOrder
    let sellUserId ← readWord "trade" "sell_user_id" sellUser
    let sellOrderId ← readWord "trade" "sell_order_id" sellOrder
    let price ← readWord "trade" "price" price
    let qty ← readWord "trade" "qty" qty
    return { buyUserId, buyOrderId, sellUserId, sellOrderId, price, qty, symbol }
  | (_, rest) => throw (.fieldCount "trade" 7 (1 + rest.length))

def readBookUpdate : List Field → Except DecodeError BookUpdate
  | [symbol, side, price, qty] => do
    let side ← readSide "book_update" side
    let price ← readLevel "book_update" "price" price
    let qty ← readLevel "book_update" "qty" qty
    return { symbol := String.ofList symbol, side, price, qty }
  | fields => .error (.fieldCount "book_update" 5 (1 + fields.length))

def readNewOrder : List Field → Except DecodeError NewOrder
  | [user, symbol, price, qty, side, order] => do
    let userId ← readWord "new_order" "user_id" user
    let price ← readWord "new_order" "price" price
    let qty ← readWord "new_order" "qty" qty
    let side ← readSide "new_order" side
    let orderId ← readWord "new_order" "order_id" order
    return { userId, symbol := String.ofList symbol, price, qty, side, orderId }
  | fields => .error (.fieldCount "new_order" 7 (1 + fields.length))

/-- The tag `C` of a cancel is accepted for its acknowledgement as well. -/
def Event.ofFields (symbols : SymbolFields) : List Field → Except DecodeError Event
  | [] => .error .emptyMessage
  | tag :: fields =>
    if tag = ['A'] then do
      let (userId, orderId, symbol) ← readOrderRef "ack" symbols fields
      return .ack { userId, orderId, symbol }
    else if tag = ['T'] then Event.trade <$> readTrade symbols fields
    else if tag = ['B'] then Event.bookUpdate <$> readBookUpdate fields
    else if tag = ['X'] ∨ tag = ['C'] then do
      let (userId, orderId, symbol) ← readOrderRef "cancel_ack" symbols fields
      return .cancelAck { userId, orderId, symbol }
    else .error (.unknownType (String.ofList tag))

def Command.ofFields (symbols : SymbolFields) : List Field → Except DecodeError Command
  | [] => .error .emptyMessage
  | tag :: fields =>
    if tag = ['N'] then Command.newOrder <$> readNewOrder fields
    else if tag = ['C'] then do
      let (userId, orderId, symbol) ← readOrderRef "cancel" symbols fields
      return .cancel { userId, orderId, symbol }
    else if tag = ['F'] then
      if fields.isEmpty then .ok .flush
      else .error (.fieldCount "flush" 1 (1 + fields.length))
    else .error (.unknownType (String.ofList tag))

def readLine {α : Type} (ofFields : List Field → Except DecodeError α) (line : String) :
    Except DecodeError (Option α) :=
  let trimmed := Text.trim line.toList
  if trimmed.isEmpty then .ok none else some <$> ofFields (splitFields trimmed)

def Event.ofPayload (symbols : SymbolFields) (line : String) : Except DecodeError (Option Event) :=
  readLine (Event.ofFields symbols) line

def Command.ofPayload (symbols : SymbolFields) (line : String) :
    Except DecodeError (Option Command) :=
  readLine (Command.ofFields symbols) line

end OrderEntry
