import OrderEntry.Config

/-! Delays between attempts to connect: the shortest first, then twice as long each time, up to the
longest. -/

namespace OrderEntry

structure Backoff where
  min : Duration
  max : Duration
  deriving DecidableEq, Repr

namespace Backoff

def ofConfig (c : Config) : Backoff := ⟨c.reconnectMinDelay, c.reconnectMaxDelay⟩

def next (b : Backoff) (delay : Duration) : Duration := delay.double.atMost b.max

def delay (b : Backoff) : Nat → Duration
  | 0 => b.min
  | k + 1 => b.next (b.delay k)

end Backoff
end OrderEntry
