import Lookout.Json.Tree

/-!
# Reading a JSON text

A text is read byte by byte by a machine whose state is the stack of open containers and what it is
in the middle of. Each state has a tree (`Reader.finish`): the tree of the text if it ended there.
The machine never backtracks and never fails; the first fault becomes a `Break` in the tree, and
nothing is read after it.

* `StringReader`, `NumeralReader` — the two scalars that need a state of their own;
* `Reader.step` — reading one byte;
* `Document.read` — the tree of a text.
-/

namespace Lookout.Json

/-- A blank of JSON: a space, a line feed, a tab, a carriage return. -/
def isBlank (b : UInt8) : Bool :=
  b == 0x20 || b == 0x0A || b == 0x09 || b == 0x0D

/-- The value of a decimal digit. -/
def digit? (b : UInt8) : Option Nat :=
  if 0x30 ≤ b ∧ b ≤ 0x39 then some (b.toNat - 0x30) else none

/-- The value of a hexadecimal digit of either case. -/
def hexDigit? (b : UInt8) : Option Nat :=
  if 0x30 ≤ b ∧ b ≤ 0x39 then some (b.toNat - 0x30)
  else if 0x41 ≤ b ∧ b ≤ 0x46 then some (b.toNat - 0x37)
  else if 0x61 ≤ b ∧ b ≤ 0x66 then some (b.toNat - 0x57)
  else none

/-! ### Strings -/

/-- Where in a string the reader is. -/
inductive StringPhase where
  | plain
  | escape
  /-- Among the four digits of a numbered escape: how many are to come, and the value of those read
  unless one of them was no digit. -/
  | hex (left : Nat) (value : Option Nat)
  deriving DecidableEq

/-- A string read up to some point. -/
structure StringReader where
  /-- The bytes spelled so far, the latest first. -/
  bytes : List UInt8 := []
  /-- A leading surrogate that waits for its partner. -/
  lead : Option Nat := none
  /-- The first escape that names no character. -/
  flaw : Option Fault := none
  phase : StringPhase := .plain
  deriving DecidableEq

namespace StringReader

/-- A surrogate that waits when something other than an escape of four digits follows has lost its
partner. -/
def unpaired (r : StringReader) : StringReader :=
  if r.lead.isSome then { r with lead := none, flaw := r.flaw.or (some .unfinishedPair) } else r

/-- Adds bytes, after which the string goes on. -/
def push (r : StringReader) (bytes : List UInt8) : StringReader :=
  { r with bytes := bytes.reverse ++ r.bytes, phase := .plain }

/-- Adds the character of a code point that is no surrogate. -/
def pushScalar (r : StringReader) (n : Nat) : StringReader :=
  r.push (String.utf8EncodeChar (Char.ofNat n))

/-- Takes the code unit of a numbered escape. A pair of surrogates names one character. -/
def unit (r : StringReader) (u : Nat) : StringReader :=
  let isLead := 0xD800 ≤ u ∧ u ≤ 0xDBFF
  let isTrail := 0xDC00 ≤ u ∧ u ≤ 0xDFFF
  match r.lead with
  -- The second half of a pair was expected.
  | some lead =>
    let r := { r with lead := none }
    if isTrail then r.pushScalar ((lead - 0xD800) * 0x400 + (u - 0xDC00) + 0x10000)
    else { r with flaw := r.flaw.or (some .loneSurrogate), phase := .plain }
  | none =>
    if isTrail then { r with flaw := r.flaw.or (some .loneSurrogate), phase := .plain }
    else if isLead then { r with lead := some u, phase := .plain }
    else r.pushScalar u

/-- The byte that a one-letter escape stands for. -/
def simpleEscape? (b : UInt8) : Option UInt8 :=
  if b = 0x22 ∨ b = 0x5C ∨ b = 0x2F then some b
  else if b = 0x62 then some 0x08
  else if b = 0x66 then some 0x0C
  else if b = 0x6E then some 0x0A
  else if b = 0x72 then some 0x0D
  else if b = 0x74 then some 0x09
  else none

/-- The spelling of a string that stops here. -/
def spelling (r : StringReader) (stop : Option Fault) : Spelling :=
  ⟨r.bytes.reverse, r.flaw, stop⟩

/-- Reads one byte: the string goes on, or it has a spelling. -/
def step (r : StringReader) (b : UInt8) : StringReader ⊕ Spelling :=
  match r.phase with
  | .plain =>
    -- A first half that still waits at the quote has lost its second one.
    if b = 0x22 then .inr (r.unpaired.spelling none)
    else if b = 0x5C then .inl { r with phase := .escape }
    else if b < 0x20 then .inr (r.unpaired.spelling (some .controlCharacter))
    else .inl (r.unpaired.push [b])
  | .escape =>
    if b = 0x75 then .inl { r with phase := .hex 4 (some 0) }
    else
      match simpleEscape? b with
      | some e => .inl (r.unpaired.push [e])
      | none => .inr (r.unpaired.spelling (some .invalidEscape))
  | .hex left value =>
    -- All four digits are read even if one of them is none, and the fault is found behind the last.
    let value := do
      let v ← value
      let d ← hexDigit? b
      pure (v * 16 + d)
    if 1 < left then .inl { r with phase := .hex (left - 1) value }
    else
      match value with
      | some u => .inl (r.unit u)
      | none => .inr (r.spelling (some .invalidEscape))

end StringReader

/-! ### Numbers -/

/-- Where in a number the reader is. -/
inductive NumeralPhase where
  | sign
  | zero
  /-- Among the digits before the point. -/
  | whole
  | point
  /-- Among the digits behind the point. -/
  | fraction
  /-- After the letter of the exponent. -/
  | mark
  /-- After the sign of the exponent. -/
  | markSign
  /-- Among the digits of the exponent. -/
  | exponent
  deriving DecidableEq

/-- A number read up to some point. -/
structure NumeralReader where
  /-- Whether a minus sign stands in front. -/
  negative : Bool := false
  /-- The leading digits, as many as fit a word. -/
  digits : Nat := 0
  /-- The place of the last of them, the exponent apart. -/
  place : Int := 0
  /-- Whether digits on this side of the point were left out. -/
  full : Bool := false
  /-- Whether the exponent is negative. -/
  down : Bool := false
  exponent : Nat := 0
  phase : NumeralPhase
  deriving DecidableEq

/-- What becomes of a number at a byte. -/
inductive NumeralStep where
  | more (r : NumeralReader)
  | ended
  | invalid

namespace NumeralReader

/-- The numeral, if the text ends here or goes on with another byte. -/
def numeral (r : NumeralReader) : Numeral :=
  { negative := r.negative
    digits := r.digits
    place := if r.down then r.place - r.exponent else r.place + r.exponent
    integral := (r.phase = .zero ∨ r.phase = .whole) ∧ !r.full }

/-- Whether the number may end here. -/
def isComplete (r : NumeralReader) : Bool :=
  r.phase = .zero ∨ r.phase = .whole ∨ r.phase = .fraction ∨ r.phase = .exponent

/-- Takes a digit of the number itself. Once a digit does not fit, those up to the point or behind
it are left out; before the point they still move the place. -/
def digit (r : NumeralReader) (d : Nat) (phase : NumeralPhase) : NumeralReader :=
  if r.full ∨ 0x10000000000000000 ≤ r.digits * 10 + d then
    { r with
      place := if phase = .fraction then r.place else r.place + 1
      full := true
      phase := phase }
  else
    { r with
      digits := r.digits * 10 + d
      place := if phase = .fraction then r.place - 1 else r.place
      phase := phase }

def step (r : NumeralReader) (b : UInt8) : NumeralStep :=
  let isMark := b = 0x65 ∨ b = 0x45
  match r.phase, digit? b with
  | .sign, some d => .more (r.digit d (if d = 0 then .zero else .whole))
  | .sign, none => .invalid
  -- A zero in front of other digits is a fault, not the end of the number.
  | .zero, some _ => .invalid
  | .whole, some d => .more (r.digit d .whole)
  | .zero, none | .whole, none =>
    if b = 0x2E then .more { r with full := false, phase := .point }
    else if isMark then .more { r with phase := .mark }
    else .ended
  | .point, some d | .fraction, some d => .more (r.digit d .fraction)
  | .point, none => .invalid
  | .fraction, none => if isMark then .more { r with phase := .mark } else .ended
  -- A sign may stand behind the mark, but a digit must follow.
  | .mark, none =>
    if b = 0x2B then .more { r with phase := .markSign }
    else if b = 0x2D then .more { r with down := true, phase := .markSign }
    else .invalid
  | .markSign, none => .invalid
  | .mark, some d | .markSign, some d | .exponent, some d =>
    .more { r with exponent := r.exponent * 10 + d, phase := .exponent }
  | .exponent, none => .ended

end NumeralReader

/-! ### Values -/

/-- An open container in which a value is being read, with what stands before it, the latest
first. -/
inductive Open where
  | array (items : List Node)
  /-- An object, and the key of the value. -/
  | member (members : List (Spelling × Node)) (key : Spelling)

/-- What the reader is in the middle of. -/
inductive Mode where
  | value
  | word (rest : List UInt8) (meaning : Node)
  | numeral (r : NumeralReader)
  | string (r : StringReader)
  | afterItem (items : List Node)
  /-- A key, or the end of an empty object, is to come. -/
  | key (members : List (Spelling × Node))
  | inKey (members : List (Spelling × Node)) (r : StringReader)
  | colon (members : List (Spelling × Node)) (key : Spelling)
  | afterMember (members : List (Spelling × Node))
  | settled (d : Document)
  /-- The outermost value is complete. -/
  | complete (root : Node) (trailing : Bool)

/-- A text read up to some point: the open containers, the innermost first, and what the reader is
in the middle of. A container between two of its elements is part of the mode. -/
structure Reader where
  stack : List Open := []
  /-- What the reader is in the middle of. -/
  mode : Mode := .value

/-- The whole tree around a node that is the last thing read. -/
def Open.close : List Open → Node → Node
  | [], n => n
  | .array items :: stack, n => close stack (.array (n :: items).reverse none)
  | .member members key :: stack, n => close stack (.object ((key, n) :: members).reverse none)

namespace Reader

/-- Puts a complete value where it belongs. -/
def accept (stack : List Open) (n : Node) : Reader :=
  match stack with
  | [] => ⟨[], .complete n false⟩
  | .array items :: stack => ⟨stack, .afterItem (n :: items)⟩
  | .member members key :: stack => ⟨stack, .afterMember ((key, n) :: members)⟩

/-- Settles the tree: nothing is read after the node. -/
def settle (stack : List Open) (n : Node) : Reader :=
  ⟨[], .settled ⟨Open.close stack n, false⟩⟩

/-- Settles an array that is not closed. -/
def settleArray (stack : List Open) (items : List Node) (b : Break) : Reader :=
  settle stack (.array items.reverse (some b))

/-- Settles an object that is not closed. -/
def settleObject (stack : List Open) (members : List (Spelling × Node)) (b : Break) : Reader :=
  settle stack (.object members.reverse (some b))

/-- Settles an object at a member that has no value. -/
def settleMember (stack : List Open) (members : List (Spelling × Node)) (key : Spelling)
    (f : Fault) : Reader :=
  settle stack (.object ((key, .broken f.break) :: members).reverse none)

/-- Reads a byte where a value may start. -/
def startValue (stack : List Open) (b : UInt8) : Reader :=
  if isBlank b then ⟨stack, .value⟩
  else if b = 0x22 then ⟨stack, .string {}⟩
  else if b = 0x7B then ⟨stack, .key []⟩
  else if b = 0x5B then ⟨.array [] :: stack, .value⟩
  else if b = 0x6E then ⟨stack, .word [0x75, 0x6C, 0x6C] .null⟩
  else if b = 0x74 then ⟨stack, .word [0x72, 0x75, 0x65] (.bool true)⟩
  else if b = 0x66 then ⟨stack, .word [0x61, 0x6C, 0x73, 0x65] (.bool false)⟩
  else if b = 0x2D then ⟨stack, .numeral { negative := true, phase := .sign }⟩
  -- The end of the array: of an empty one, or behind a comma that should not be there.
  else if b = 0x5D then
    match stack with
    | .array [] :: stack => accept stack (.array [] none)
    | .array items :: stack => settleArray stack items ⟨.trailingComma, .valueExpected⟩
    | stack => settle stack (.broken Fault.valueExpected.break)
  else
    match digit? b with
    | some d =>
      ⟨stack, .numeral { digits := d, phase := if d = 0 then .zero else .whole }⟩
    | none => settle stack (.broken Fault.valueExpected.break)

/-- Reads a byte between the items of an array. -/
def stepAfterItem (stack : List Open) (items : List Node) (b : UInt8) : Reader :=
  if isBlank b then ⟨stack, .afterItem items⟩
  else if b = 0x2C then ⟨.array items :: stack, .value⟩
  else if b = 0x5D then accept stack (.array items.reverse none)
  else settleArray stack items Fault.arrayEndExpected.break

/-- Reads a byte where a key may start. -/
def stepKey (stack : List Open) (members : List (Spelling × Node)) (b : UInt8) : Reader :=
  if isBlank b then ⟨stack, .key members⟩
  else if b = 0x22 then ⟨stack, .inKey members {}⟩
  else if b = 0x7D then
    if members.isEmpty then accept stack (.object [] none)
    else settleObject stack members ⟨.trailingComma, .keyExpected⟩
  else settleObject stack members Fault.keyExpected.break

/-- Reads a byte between a key and its value. -/
def stepColon (stack : List Open) (members : List (Spelling × Node)) (key : Spelling) (b : UInt8) :
    Reader :=
  if isBlank b then ⟨stack, .colon members key⟩
  else if b = 0x3A then ⟨.member members key :: stack, .value⟩
  else settleMember stack members key .colonExpected

/-- Reads a byte between the members of an object. -/
def stepAfterMember (stack : List Open) (members : List (Spelling × Node)) (b : UInt8) : Reader :=
  if isBlank b then ⟨stack, .afterMember members⟩
  else if b = 0x2C then ⟨stack, .key members⟩
  else if b = 0x7D then accept stack (.object members.reverse none)
  else settleObject stack members Fault.objectEndExpected.break

/-- Reads a byte after the outermost value. -/
def stepComplete (root : Node) (trailing : Bool) (b : UInt8) : Reader :=
  ⟨[], .complete root (trailing || !isBlank b)⟩

/-- Reads a byte after a value that ended before it. -/
def stepAfter (r : Reader) (b : UInt8) : Reader :=
  match r.mode with
  | .afterItem items => stepAfterItem r.stack items b
  | .afterMember members => stepAfterMember r.stack members b
  | .complete root trailing => stepComplete root trailing b
  | _ => r

/-- **Reads one byte,** in whatever the reader is in the middle of. A reader that is settled reads
nothing more. -/
def step (r : Reader) (b : UInt8) : Reader :=
  match r.mode with
  | .value => startValue r.stack b
  | .word [] n => stepAfter (accept r.stack n) b
  | .word (expected :: rest) n =>
    if b ≠ expected then settle r.stack (.broken Fault.wordExpected.break)
    else if rest.isEmpty then accept r.stack n
    else ⟨r.stack, .word rest n⟩
  | .numeral n =>
    match n.step b with
    | .more n => ⟨r.stack, .numeral n⟩
    -- The byte that ended the number is not part of it, and is read again.
    | .ended => stepAfter (accept r.stack (.numeral n.numeral)) b
    | .invalid => settle r.stack (.broken Fault.invalidNumber.break)
  | .string s =>
    match s.step b with
    | .inl s => ⟨r.stack, .string s⟩
    | .inr spelling =>
      -- A string that is cut ends the reading; one with a flaw does not, since whoever skips it
      -- does not see the flaw.
      if spelling.stop.isSome then settle r.stack (.string spelling)
      else accept r.stack (.string spelling)
  | .afterItem items => stepAfterItem r.stack items b
  | .key members => stepKey r.stack members b
  | .inKey members s =>
    match s.step b with
    | .inl s => ⟨r.stack, .inKey members s⟩
    | .inr spelling =>
      if spelling.stop.isSome then
        settle r.stack (.object ((spelling, .null) :: members).reverse none)
      else ⟨r.stack, .colon members spelling⟩
  | .colon members key => stepColon r.stack members key b
  | .afterMember members => stepAfterMember r.stack members b
  | .settled d => ⟨[], .settled d⟩
  | .complete root trailing => stepComplete root trailing b

/-- Settles the tree of a text that ends where a value is to come. -/
def finishValue (stack : List Open) : Document :=
  match stack with
  | .array [] :: stack => ⟨Open.close stack (.array [] (some Fault.endInArray.break)), false⟩
  | .array items :: stack =>
    ⟨Open.close stack (.array items.reverse (some Fault.endInValue.break)), false⟩
  | stack => ⟨Open.close stack (.broken Fault.endInValue.break), false⟩

/-- Settles the tree of a text that ends after a value. -/
def finishAfter (r : Reader) : Document :=
  match r.mode with
  | .afterItem items =>
    ⟨Open.close r.stack (.array items.reverse (some Fault.endInArray.break)), false⟩
  | .afterMember members =>
    ⟨Open.close r.stack (.object members.reverse (some Fault.endInObject.break)), false⟩
  | .complete root trailing => ⟨root, trailing⟩
  | _ => finishValue r.stack

/-- The tree of the text, if it ends here. -/
def finish (r : Reader) : Document :=
  let close := fun n => (⟨Open.close r.stack n, false⟩ : Document)
  match r.mode with
  | .value => finishValue r.stack
  | .word _ _ => close (.broken Fault.endInValue.break)
  | .numeral n =>
    -- The end of the text ends a number as a blank would.
    if n.isComplete then finishAfter (accept r.stack (.numeral n.numeral))
    else close (.broken ⟨.endInValue, .invalidNumber⟩)
  | .string s => close (.string (s.spelling (some .endInString)))
  | .key [] => close (.object [] (some Fault.endInObject.break))
  | .key members => close (.object members.reverse (some ⟨.endInValue, .endInObject⟩))
  | .inKey members s =>
    close (.object ((s.spelling (some .endInString), .null) :: members).reverse none)
  | .colon members key =>
    close (.object ((key, .broken Fault.endInObject.break) :: members).reverse none)
  | .settled d => d
  | .afterItem _ | .afterMember _ | .complete _ _ => finishAfter r

end Reader

/-- **The tree of a text.** There is one for any bytes: what is wrong with them is part of it. -/
def Document.read (bytes : List UInt8) : Document :=
  (bytes.foldl Reader.step {}).finish

end Lookout.Json
