import OrderEntry.Text.Decimal

/-! Whole numbers as they are after rounding to a double, written without exponent: the fewest digits
that read back as the same double, then zeros. -/

namespace OrderEntry.Text

/-- A double of at least `2 ^ 52`, as a 53-bit significand times a power of two. -/
structure LargeDouble where
  significand : Nat
  exponent : Nat
  deriving DecidableEq, Repr

namespace LargeDouble

def nearest (n : Nat) : LargeDouble :=
  let e := Nat.log2 n - 52
  let unit := Nat.pow 2 e
  let low := n / unit
  let up := if 2 * (n % unit) > unit ∨ (2 * (n % unit) = unit ∧ low % 2 = 1) then low + 1 else low
  if up = Nat.pow 2 53 then ⟨Nat.pow 2 52, e + 1⟩ else ⟨up, e⟩

def value (d : LargeDouble) : Nat := d.significand * Nat.pow 2 d.exponent

/-- Whether a number rounds to this double. The doubles below a power of two lie twice as close. -/
def isNearestTo (d : LargeDouble) (n : Nat) : Bool :=
  let quarter := Nat.pow 2 d.exponent
  let below := if d.significand = Nat.pow 2 52 then quarter else 2 * quarter
  let v := 4 * d.value
  if d.significand % 2 = 0 then v - below ≤ 4 * n && 4 * n ≤ v + 2 * quarter
  else v - below < 4 * n && 4 * n < v + 2 * quarter

/-- The nearer of the multiples of `10 ^ zeros` on both sides of the double that round to it. -/
def withZeros? (d : LargeDouble) (zeros : Nat) : Option Nat :=
  let unit := Nat.pow 10 zeros
  let low := d.value / unit * unit
  let high := low + unit
  match d.isNearestTo low, d.isNearestTo high with
  | true, true => some (if d.value - low ≤ high - d.value then low else high)
  | true, false => some low
  | false, true => some high
  | false, false => none

def shortest (d : LargeDouble) : Nat → Nat
  | 0 => d.value
  | zeros + 1 =>
    match d.withZeros? (zeros + 1) with
    | some n => n
    | none => d.shortest zeros

end LargeDouble

def roundedNatural (n : Nat) : String :=
  let shown := if n < Nat.pow 2 53 then n else
    let d := LargeDouble.nearest n
    d.shortest (digits d.value).length
  String.ofList (digits shown)

def roundedInteger (n : Int) : String :=
  if n < 0 then "-" ++ roundedNatural n.natAbs else roundedNatural n.natAbs

end OrderEntry.Text
