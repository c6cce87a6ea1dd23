import ReverseTunnel.Text.Unprintable
import ReverseTunnel.Text.GraphemeExtend

/-!
# Quoted text in messages

Messages show a text that a user wrote between double quotes, in such a way that
the message stays on one line and every character can be told: quotes and
backslashes get a backslash, line breaks, tabs and NUL have short names, and what
would not print by itself is written by its code point.
-/

namespace ReverseTunnel.Text

/-- The written form of one character inside quotes. -/
def quotedChar (c : Char) : List Char :=
  if c = '"' then ['\\', '"']
  else if c = '\\' then ['\\', '\\']
  else if c = '\n' then ['\\', 'n']
  else if c = '\r' then ['\\', 'r']
  else if c = '\t' then ['\\', 't']
  else if c = '\x00' then ['\\', '0']
  else if isGraphemeExtend c || isUnprintable c then
    ['\\', 'u', '\x7b'] ++ Nat.toDigits 16 c.toNat ++ ['\x7d']
  else [c]

/-- The text between double quotes, every character in its written form. -/
def quoted (s : String) : String :=
  String.ofList ('"' :: s.toList.flatMap quotedChar ++ ['"'])

end ReverseTunnel.Text
