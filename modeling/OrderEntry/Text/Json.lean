import OrderEntry.Text.Decimal

/-! Compact JSON text: no blanks, and only those characters escaped that must be. -/

namespace OrderEntry.Text

def jsonEscape (c : Char) : List Char :=
  if c = '"' then ['\\', '"']
  else if c = '\\' then ['\\', '\\']
  else if c = '\n' then ['\\', 'n']
  else if c = '\r' then ['\\', 'r']
  else if c = '\t' then ['\\', 't']
  else if c = '\x08' then ['\\', 'b']
  else if c = '\x0c' then ['\\', 'f']
  else if c.toNat < 0x20 then
    ['\\', 'u', '0', '0', Nat.digitChar (c.toNat / 16), Nat.digitChar (c.toNat % 16)]
  else [c]

def jsonText (s : String) : List Char := '"' :: s.toList.flatMap jsonEscape ++ ['"']

def jsonNumber (n : Int) : List Char := (if n < 0 then ['-'] else []) ++ digits n.natAbs

def jsonOptionalText : Option String → List Char
  | some s => jsonText s
  | none => ['n', 'u', 'l', 'l']

def jsonObject (members : List (String × List Char)) : List Char :=
  '\x7b' :: [','].intercalate (members.map fun (name, value) => jsonText name ++ ':' :: value) ++
    ['\x7d']

end OrderEntry.Text
