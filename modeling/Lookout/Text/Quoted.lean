import Lookout.Text.Unprintable

/-!
# Quoted text in messages

A message that shows a text of unknown content puts it between double quotes. Quotes, backslashes
and the common controls are written with a backslash, every other unprintable character as its
hexadecimal code point in braces.
-/

namespace Lookout.Text

/-- The code point in lower-case hexadecimal digits. -/
def hexadecimal (n : Nat) : List Char :=
  Nat.toDigits 16 n

/-- One character between double quotes. -/
def quoteChar (c : Char) : List Char :=
  if c = '\x00' then ['\\', '0']
  else if c = '\t' then ['\\', 't']
  else if c = '\r' then ['\\', 'r']
  else if c = '\n' then ['\\', 'n']
  else if c = '"' then ['\\', '"']
  else if c = '\\' then ['\\', '\\']
  -- After the escapes that have a letter of their own.
  else if isUnprintable c then ['\\', 'u', '\x7b'] ++ hexadecimal c.toNat ++ ['\x7d']
  else [c]

/-- A text between double quotes. -/
def quoted (text : String) : String :=
  String.ofList ('"' :: text.toList.flatMap quoteChar ++ ['"'])

end Lookout.Text
