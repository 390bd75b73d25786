/-!
# Faults of a JSON text

A text is read from left to right up to its first fault. Whoever uses a value and whoever skips it
may name the same break differently, because skipping only follows the brackets; a `Break` holds
both names.
-/

namespace Lookout.Json

/-- What is wrong with a text. -/
inductive Fault where
  | endInValue
  | endInArray
  | endInObject
  | endInString
  | valueExpected
  | wordExpected
  | colonExpected
  | arrayEndExpected
  | objectEndExpected
  | keyExpected
  | trailingComma
  | trailingCharacters
  | invalidNumber
  | numberOutOfRange
  | invalidEscape
  | loneSurrogate
  | unfinishedPair
  | invalidCodePoint
  | controlCharacter
  | tooDeep
  deriving DecidableEq

/-- What is said of a fault. -/
def Fault.message : Fault → String
  | endInValue => "EOF while parsing a value"
  | endInArray => "EOF while parsing a list"
  | endInObject => "EOF while parsing an object"
  | endInString => "EOF while parsing a string"
  | valueExpected => "expected value"
  | wordExpected => "expected ident"
  | colonExpected => "expected `:`"
  | arrayEndExpected => "expected `,` or `]`"
  | objectEndExpected => "expected `,` or `\x7d`"
  | keyExpected => "key must be a string"
  | trailingComma => "trailing comma"
  | trailingCharacters => "trailing characters"
  | invalidNumber => "invalid number"
  | numberOutOfRange => "number out of range"
  | invalidEscape => "invalid escape"
  | loneSurrogate => "lone leading surrogate in hex escape"
  | unfinishedPair => "unexpected end of hex escape"
  | invalidCodePoint => "invalid unicode code point"
  | controlCharacter => "control character (\\u0000-\\u001F) found while parsing a string"
  | tooDeep => "recursion limit exceeded"

/-- A place where reading ends early. -/
structure Break where
  /-- The fault for a reader that uses the value. -/
  used : Fault
  /-- The fault for a reader that skips it. -/
  skipped : Fault
  deriving DecidableEq

/-- A break that both kinds of readers name alike. -/
def Fault.break (f : Fault) : Break := ⟨f, f⟩

end Lookout.Json
