/-! Commands of a trading participant: new orders, cancels and the flush of all books. -/

namespace OrderEntry

inductive Side
  | buy
  | sell
  deriving DecidableEq, Repr

namespace Side

def letter : Side → Char
  | buy => 'B'
  | sell => 'S'

def display : Side → String
  | buy => "BUY"
  | sell => "SELL"

def ofLetter? (c : Char) : Option Side :=
  if c = 'B' then some buy else if c = 'S' then some sell else none

def ofField? : List Char → Option Side
  | [c] => ofLetter? c
  | _ => none

theorem ofLetter?_letter (s : Side) : ofLetter? s.letter = some s := by cases s <;> rfl

theorem ofField?_eq_some_iff {f : List Char} {s : Side} :
    ofField? f = some s ↔ f = [s.letter] := by
  constructor
  · intro h
    match f, h with
    | [c], h =>
      simp only [ofField?, ofLetter?] at h
      split at h
      · cases h; simp_all [letter]
      · split at h
        · cases h; simp_all [letter]
        · cases h
  · rintro rfl
    exact ofLetter?_letter s

end Side

structure NewOrder where
  userId : UInt32
  symbol : String
  price : UInt32
  qty : UInt32
  side : Side
  orderId : UInt32
  deriving DecidableEq, Repr

structure CancelOrder where
  userId : UInt32
  orderId : UInt32
  symbol : Option String
  deriving DecidableEq, Repr

inductive Command
  | newOrder (order : NewOrder)
  | cancel (order : CancelOrder)
  | flush
  deriving DecidableEq, Repr

def Command.kind : Command → String
  | newOrder _ => "new_order"
  | cancel _ => "cancel"
  | flush => "flush"

end OrderEntry
