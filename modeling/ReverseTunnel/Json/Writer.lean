import ReverseTunnel.Json.Value

/-!
# Writing JSON

Compact JSON: no blanks, members in a given order. Inside a string a quote, a
backslash and the control characters below the space are escaped, the ones with
a short name by that name; all else stands for itself.
-/

namespace ReverseTunnel.Json

/-- A hexadecimal digit in lower case. -/
def hexChar (n : Nat) : Char := if n < 10 then Char.ofNat (0x30 + n) else Char.ofNat (0x57 + n)

/-- The written form of one character inside a string. -/
def writeChar (c : Char) : List Char :=
  if c = '"' then ['\\', '"']
  else if c = '\\' then ['\\', '\\']
  else if c.toNat = 0x08 then ['\\', 'b']
  else if c.toNat = 0x0C then ['\\', 'f']
  else if c = '\n' then ['\\', 'n']
  else if c = '\r' then ['\\', 'r']
  else if c = '\t' then ['\\', 't']
  else if c.toNat < 0x20 then ['\\', 'u', '0', '0', hexChar (c.toNat / 16), hexChar (c.toNat % 16)]
  else [c]

/-- The written form of a string. -/
def writeText (s : String) : List Char := '"' :: s.toList.flatMap writeChar ++ ['"']

/-- The written form of an object whose values are written already. -/
def writeObject (members : List (String × List Char)) : List Char :=
  '\x7b' :: [','].intercalate (members.map fun m => writeText m.1 ++ ':' :: m.2) ++ ['\x7d']

end ReverseTunnel.Json
