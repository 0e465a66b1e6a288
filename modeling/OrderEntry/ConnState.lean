/-! Connection states, with the codes under which they are stored. -/

namespace OrderEntry

inductive ConnState
  | disconnected
  | connecting
  | connected
  | reconnecting
  | closed
  deriving DecidableEq, Repr

namespace ConnState

def name : ConnState → String
  | disconnected => "disconnected"
  | connecting => "connecting"
  | connected => "connected"
  | reconnecting => "reconnecting"
  | closed => "closed"

def code : ConnState → Nat
  | disconnected => 0
  | connecting => 1
  | connected => 2
  | reconnecting => 3
  | closed => 4

/-- A code that is no state's counts as disconnected. -/
def ofCode : Nat → ConnState
  | 1 => connecting
  | 2 => connected
  | 3 => reconnecting
  | 4 => closed
  | _ => disconnected

theorem ofCode_code (s : ConnState) : ofCode s.code = s := by cases s <;> rfl

def all : List ConnState := [disconnected, connecting, connected, reconnecting, closed]

end ConnState
end OrderEntry
