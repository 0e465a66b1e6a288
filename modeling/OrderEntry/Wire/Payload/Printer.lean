import OrderEntry.Event
import OrderEntry.Text.Decimal
import OrderEntry.Wire.Format

/-! Messages as comma-separated fields, the kind's tag first. -/

namespace OrderEntry

abbrev Field := List Char

def joinFields (fields : List Field) : List Char := [','].intercalate fields

def wordField (w : UInt32) : Field := Text.digits w.toNat

def levelField (w : UInt32) : Field := if w = 0 then ['-'] else wordField w

/-- The symbol column of a format that has one; an unknown symbol is written as nothing. -/
def symbolColumn : SymbolFields → Option String → List Field
  | .omitted, _ => []
  | .included, symbol => [(symbol.getD "").toList]

def Command.fields (symbols : SymbolFields) : Command → List Field
  | .newOrder o => [['N'], wordField o.userId, o.symbol.toList, wordField o.price, wordField o.qty,
      [o.side.letter], wordField o.orderId]
  | .cancel c => ['C'] :: symbolColumn symbols c.symbol ++ [wordField c.userId, wordField c.orderId]
  | .flush => [['F']]

def Command.payload (symbols : SymbolFields) (c : Command) : String :=
  String.ofList (joinFields (c.fields symbols))

def Event.fields (symbols : SymbolFields) : Event → List Field
  | .ack a => ['A'] :: symbolColumn symbols a.symbol ++ [wordField a.userId, wordField a.orderId]
  | .trade t => ['T'] :: symbolColumn symbols t.symbol ++
      [wordField t.buyUserId, wordField t.buyOrderId, wordField t.sellUserId,
        wordField t.sellOrderId, wordField t.price, wordField t.qty]
  | .bookUpdate b => [['B'], b.symbol.toList, [b.side.letter], levelField b.price, levelField b.qty]
  | .cancelAck a =>
      ['X'] :: symbolColumn symbols a.symbol ++ [wordField a.userId, wordField a.orderId]

def Event.payload (symbols : SymbolFields) (e : Event) : String :=
  String.ofList (joinFields (e.fields symbols))

end OrderEntry
