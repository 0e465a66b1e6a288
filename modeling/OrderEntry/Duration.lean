import OrderEntry.Text.Decimal

/-! Lengths of time in whole nanoseconds. The longest is `2 ^ 64` seconds less one nanosecond, and
arithmetic stays at it instead of passing it. -/

namespace OrderEntry

def Duration.maxNanos : Nat := 0x10000000000000000 * 1_000_000_000 - 1

structure Duration where
  nanos : Nat
  le_max : nanos ≤ Duration.maxNanos := by decide
  deriving DecidableEq, Repr

namespace Duration

def ofNanos (n : Nat) : Duration := ⟨min n maxNanos, Nat.min_le_right ..⟩

def ofMillis (n : Nat) : Duration := ofNanos (n * 1_000_000)

def ofParts (seconds nanos : Nat) : Duration := ofNanos (seconds * 1_000_000_000 + nanos)

def seconds (d : Duration) : Nat := d.nanos / 1_000_000_000

def subsecNanos (d : Duration) : Nat := d.nanos % 1_000_000_000

def ceilMillis (d : Duration) : Nat := (d.nanos + 999_999) / 1_000_000

def isZero (d : Duration) : Bool := d.nanos == 0

def double (d : Duration) : Duration := ofNanos (2 * d.nanos)

def atMost (d limit : Duration) : Duration := if d.nanos ≤ limit.nanos then d else limit

instance : LT Duration := ⟨fun a b => a.nanos < b.nanos⟩

instance (a b : Duration) : Decidable (a < b) := inferInstanceAs (Decidable (a.nanos < b.nanos))

/-- Whole units, then the remaining nanoseconds as a fraction of `places` digits without its
trailing zeros. -/
def inUnits (nanos unit places : Nat) (name : String) : String :=
  let fraction := Text.digits (nanos % unit)
  let padded := List.replicate (places - fraction.length) '0' ++ fraction
  let kept := (padded.reverse.dropWhile (· == '0')).reverse
  let point := if kept.isEmpty then [] else '.' :: kept
  String.ofList (Text.digits (nanos / unit) ++ point) ++ name

def text (d : Duration) : String :=
  if 1_000_000_000 ≤ d.nanos then inUnits d.nanos 1_000_000_000 9 "s"
  else if 1_000_000 ≤ d.nanos then inUnits d.nanos 1_000_000 6 "ms"
  else if 1_000 ≤ d.nanos then inUnits d.nanos 1_000 3 "µs"
  else inUnits d.nanos 1 0 "ns"

end Duration
end OrderEntry
