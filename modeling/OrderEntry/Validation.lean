import OrderEntry.Error
import OrderEntry.Order
import OrderEntry.Wire.Format

/-! What a command must satisfy before it may be sent. -/

namespace OrderEntry

def maxSymbolBytes : Nat := 16

def isSymbolChar (c : Char) : Bool := 0x21 ≤ c.toNat && c.toNat ≤ 0x7e && c != ','

def checkSymbol (symbol : String) : Except ValidationError Unit :=
  if symbol.isEmpty then .error .emptySymbol
  else if maxSymbolBytes < symbol.utf8ByteSize then
    .error (.symbolTooLong symbol.utf8ByteSize maxSymbolBytes)
  else if symbol.toList.all isSymbolChar then .ok ()
  else .error (.invalidSymbol symbol)

def NewOrder.check (o : NewOrder) : Except ValidationError Unit :=
  if o.qty = 0 then .error .zeroQuantity else checkSymbol o.symbol

/-- A symbol is checked even where the format leaves it out, and required where it does not. -/
def CancelOrder.check (symbols : SymbolFields) (c : CancelOrder) : Except ValidationError Unit :=
  match c.symbol, symbols with
  | some symbol, _ => checkSymbol symbol
  | none, .included => .error .emptySymbol
  | none, .omitted => .ok ()

def Command.check (symbols : SymbolFields) : Command → Except ValidationError Unit
  | .newOrder o => o.check
  | .cancel c => c.check symbols
  | .flush => .ok ()

def Side.parse (text : String) : Except ValidationError Side :=
  match Side.ofField? text.toList with
  | some side => .ok side
  | none => .error (.invalidSide text)

def Side.ofChar (c : Char) : Except ValidationError Side :=
  match Side.ofLetter? c with
  | some side => .ok side
  | none => .error (.invalidSide c.toString)

end OrderEntry
