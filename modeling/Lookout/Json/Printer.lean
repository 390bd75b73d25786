import Lookout.Json.Value

/-!
# The text of a JSON value

A value is written without blanks, members in the order in which the value holds them. In strings
the quote, the backslash and the characters below U+0020 are escaped, and all else stands for
itself. Floats are written with the fewest digits that read back.
-/

namespace Lookout.Json

/-- How floats are written: positionally from `0.0000` to sixteen digits before the mark, and with a
signed exponent beyond. -/
def floatStyle : DecimalStyle := ⟨-4, 16, true⟩

/-- The text of a float; only finite floats have one of their own. -/
def floatText (x : Float) : List Char :=
  match FloatClass.ofFloat x with
  | .nan | .infinite _ => ['n', 'u', 'l', 'l']
  | .zero negative => (if negative then ['-'] else []) ++ ['0', '.', '0']
  | .finite negative magnitude =>
    (if negative then ['-'] else []) ++ floatStyle.write magnitude.shortest

/-- The digits of an integer. -/
def integerText (i : Int) : List Char :=
  (if i < 0 then ['-'] else []) ++ Nat.toDigits 10 i.natAbs

/-- A digit of an escape, in small letters. -/
def hexDigit (n : Nat) : Char :=
  Nat.digitChar n

/-- A character of a string: five controls, the quote and the backslash have escapes of two
characters, the other controls have one of six, and all else stands for itself. -/
def escapeChar (c : Char) : List Char :=
  if c = '"' then ['\\', '"']
  else if c = '\\' then ['\\', '\\']
  else if c = '\x08' then ['\\', 'b']
  else if c = '\x0c' then ['\\', 'f']
  else if c = '\n' then ['\\', 'n']
  else if c = '\r' then ['\\', 'r']
  else if c = '\t' then ['\\', 't']
  -- Two digits are enough, and the other two are zeros.
  else if c.toNat < 0x20 then
    ['\\', 'u', '0', '0', hexDigit (c.toNat / 16), hexDigit (c.toNat % 16)]
  else [c]

/-- A text between quotes. -/
def stringText (s : String) : List Char :=
  '"' :: (s.toList.flatMap escapeChar ++ ['"'])

namespace Value

mutual

/-- The text of a value, as characters. -/
def chars : Value → List Char
  | null => ['n', 'u', 'l', 'l']
  | bool true => ['t', 'r', 'u', 'e']
  | bool false => ['f', 'a', 'l', 's', 'e']
  | number (.int i) => integerText i.val
  | number (.float x) => floatText x
  | string s => stringText s
  | array items => '[' :: (charsItems items ++ [']'])
  | object members => '\x7b' :: (charsMembers members ++ ['\x7d'])

/-- The items of an array, with commas between them. -/
def charsItems : List Value → List Char
  | [] => []
  | [v] => v.chars
  | v :: rest => v.chars ++ ',' :: charsItems rest

/-- The members of an object, with commas between them. -/
def charsMembers : List (String × Value) → List Char
  | [] => []
  | [(k, v)] => stringText k ++ ':' :: v.chars
  | (k, v) :: rest => stringText k ++ ':' :: (v.chars ++ ',' :: charsMembers rest)

end

/-- The text of a value. -/
def text (v : Value) : String :=
  String.ofList v.chars

end Value

end Lookout.Json
