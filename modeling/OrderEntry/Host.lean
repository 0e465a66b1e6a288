import OrderEntry.Text.Decimal

/-! Hosts in the text of an address: an internet address of 32 bits in up to four parts, one of 128 bits
in groups, or a name. -/

namespace OrderEntry

inductive Host
  | ipv4 (bits : Nat)
  /-- Eight groups of 16 bits. The zone is the number of an interface, zero if there is none. -/
  | ipv6 (groups : List Nat) (zone : Nat)
  | name (text : List Char)
  deriving DecidableEq, Repr

namespace Host

def digit? (c : Char) : Option Nat :=
  if c.isDigit then some (c.toNat - '0'.toNat)
  else if 'a' ≤ c ∧ c ≤ 'f' then some (c.toNat - 'a'.toNat + 10)
  else if 'A' ≤ c ∧ c ≤ 'F' then some (c.toNat - 'A'.toNat + 10)
  else none

def extend? (base limit n : Nat) (c : Char) : Option Nat := do
  let d ← digit? c
  let n := base * n + d
  if d < base ∧ n < limit then some n else none

def numberBelow? (base limit : Nat) (s : List Char) : Option Nat :=
  if s.isEmpty then none else s.foldlM (extend? base limit) 0

/-! ### 32 bits -/

/-- A part is decimal, octal after a zero, or hexadecimal after `0x`. -/
def part? : List Char → Option Nat
  | '0' :: 'x' :: digits | '0' :: 'X' :: digits => numberBelow? 16 0x100000000 digits
  | '0' :: c :: digits => numberBelow? 8 0x100000000 (c :: digits)
  | digits => numberBelow? 10 0x100000000 digits

/-- Each part but the last is a byte, and the last fills the bytes that are left. -/
def joinParts? (bytes : Nat) : List Nat → Option Nat
  | [] => none
  | [last] => if last < Nat.pow 256 bytes then some last else none
  | part :: parts =>
    if part < 256 ∧ 1 < bytes then
      (joinParts? (bytes - 1) parts).map (part * Nat.pow 256 (bytes - 1) + ·)
    else none

def ipv4Bits? (s : List Char) : Option Nat := ((s.splitOn '.').mapM part?).bind (joinParts? 4)

/-! ### 128 bits -/

def group? (s : List Char) : Option Nat := if 4 < s.length then none else numberBelow? 16 0x10000 s

def octet? (s : List Char) : Option Nat :=
  if 1 < s.length ∧ s.head? = some '0' then none else numberBelow? 10 256 s

def twoGroups? (s : List Char) : Option (List Nat) := do
  match ← (s.splitOn '.').mapM octet? with
  | [a, b, c, d] => some [256 * a + b, 256 * c + d]
  | _ => none

def groups? : List (List Char) → Option (List Nat)
  | [] => some []
  | [last] => (group? last).map ([·]) <|> twoGroups? last
  | group :: rest => do return (← group? group) :: (← groups? rest)

def splitGap? : List Char → Option (List Char × List Char)
  | [] => none
  | ':' :: ':' :: rest => some ([], rest)
  | c :: rest => (splitGap? rest).map fun (before, after) => (c :: before, after)

def pieces (s : List Char) : List (List Char) := if s.isEmpty then [] else s.splitOn ':'

/-- Two colons in a row stand for as many zero groups as are missing, at least one. -/
def ipv6Groups? (s : List Char) : Option (List Nat) :=
  match splitGap? s with
  | none => (groups? (pieces s)).filter (·.length = 8)
  | some (before, after) => do
    let before ← (pieces before).mapM group?
    let after ← groups? (pieces after)
    let zeros := 8 - (before.length + after.length)
    if zeros = 0 then none else some (before ++ List.replicate zeros 0 ++ after)

def isMulticast (groups : List Nat) : Bool := groups.head?.any fun g => 0xff00 ≤ g

def isInterfaceLocal (groups : List Nat) : Bool :=
  groups.head?.any fun g =>
    g / 64 = 0xfe80 / 64 || (0xff00 ≤ g && (g % 16 = 1 || g % 16 = 2))

/-- A zone may follow after a percent sign: a number, or a name that `named` knows. -/
def ipv6? (named : List Nat → List Char → Option Nat) (s : List Char) : Option Host :=
  match s.span (· != '%') with
  | (address, []) => (ipv6Groups? address).map (ipv6 · 0)
  | (address, _ :: zone) => do
    let groups ← ipv6Groups? address
    let zone ← named groups zone <|> Text.naturalBelow? 0x100000000 zone
    return ipv6 groups zone

/-- Only the loopback interface, the first of every host, is known by name. -/
def interface? (groups : List Nat) (zone : List Char) : Option Nat :=
  if isInterfaceLocal groups && zone == ['l', 'o'] then some 1 else none

def ofText (s : List Char) : Host :=
  match ipv4Bits? s with
  | some bits => ipv4 bits
  | none => (ipv6? interface? s).getD (name s)

/-- In brackets zones have no names. -/
def ofBrackets? (s : List Char) : Option Host := ipv6? (fun _ _ => none) s

/-! ### Names -/

def isLabel (s : List Char) : Bool :=
  0 < s.length && s.length ≤ 63 && s.all fun c => c.isAlphanum || c == '-' || c == '_'

/-- Labels with dots between them and possibly one after them, the first without a leading hyphen; at
most 255 bytes with a length before each label and at the end. A dot alone is the root. -/
def isName (s : List Char) : Bool :=
  s == ['.'] ||
    let body := if s.getLast? = some '.' then s.dropLast else s
    (body.splitOn '.').all isLabel && body.head? != some '-' && body.length + 2 ≤ 255

/-! ### Printing -/

def dotted (bits : Nat) : List Char :=
  ['.'].intercalate ([24, 16, 8, 0].map fun shift => Text.digits ((bits >>> shift) % 256))

def hexadecimal (groups : List Nat) : List Char := [':'].intercalate (groups.map (Nat.toDigits 16))

def zeroRuns : List Nat → List Nat
  | [] => []
  | g :: groups =>
    let runs := zeroRuns groups
    (if g = 0 then runs.headD 0 + 1 else 0) :: runs

/-- The first of the longest runs of two or more zero groups is written as two colons. -/
def groupsText (groups : List Nat) : List Char :=
  let runs := zeroRuns groups
  let longest := runs.foldl max 0
  if longest < 2 then hexadecimal groups
  else
    let start := runs.idxOf longest
    hexadecimal (groups.take start) ++ [':', ':'] ++ hexadecimal (groups.drop (start + longest))

def mapped? : List Nat → Option Nat
  | [0, 0, 0, 0, 0, 0xffff, high, low] => some (0x10000 * high + low)
  | _ => none

def text : Host → List Char
  | ipv4 bits => dotted bits
  | ipv6 groups zone =>
    let address := match mapped? groups with
      | some bits => [':', ':', 'f', 'f', 'f', 'f', ':'] ++ dotted bits
      | none => groupsText groups
    '[' :: address ++ (if zone = 0 then [] else '%' :: Text.digits zone) ++ [']']
  | name text => text

end Host
end OrderEntry
