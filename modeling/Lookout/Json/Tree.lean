import Lookout.Json.Fault
import Lookout.Json.Value
import Lookout.Text.Utf8

/-!
# The tree of a JSON text

A `Node` is what a text spells, as far as it can be read: a container may end in a `Break`, and a
break may stand where a value should. Strings and numbers are kept as they are spelled, so that a
reader who skips a value need not care whether its strings are text or its numbers in range. A value
is a tree without breaks (`Node.ofValue`), and one decoder serves both.

* `Spelling.text`, `Numeral.number` — what a string or a number means;
* `Node.skip` — the first fault of a tree nobody uses;
* `Node.value` — the value of a tree, or its first fault.
-/

namespace Lookout.Json

/-- How many containers may be open at once in the part of a text that is used. -/
def maxDepth : Nat := 127

/-! ### Strings -/

/-- A string as it is spelled. -/
structure Spelling where
  /-- The bytes it spells, escapes resolved. -/
  bytes : List UInt8
  /-- The first escape that names no character. -/
  flaw : Option Fault
  /-- Why the closing quote was not reached. -/
  stop : Option Fault
  deriving DecidableEq

namespace Spelling

/-- The text of a string: no flaw, closed, and well-formed. -/
def text (s : Spelling) : Except Fault String :=
  match s.flaw, s.stop with
  -- Of two faults the one that comes first in the text.
  | some f, _ => .error f
  | none, some f => .error f
  | none, none =>
    match Utf8.decode? s.bytes with
    | some cs => .ok (String.ofList cs)
    | none => .error .invalidCodePoint

/-- Skipping a string needs its closing quote only. -/
def skip (s : Spelling) : Except Fault Unit :=
  match s.stop with
  | some f => .error f
  | none => .ok ()

/-- A text as it is spelled without escapes. -/
def ofString (s : String) : Spelling := ⟨Utf8.encode s.toList, none, none⟩

end Spelling

/-! ### Numbers -/

/-- A number as it is spelled. -/
structure Numeral where
  /-- Whether a minus sign stands in front. -/
  negative : Bool
  /-- Its leading digits, as many as fit a word, read as one natural number. -/
  digits : Nat
  place : Int
  /-- Whether these are all its digits and it has neither point nor exponent. -/
  integral : Bool
  deriving DecidableEq

namespace Numeral

/-- The float that a numeral denotes: the leading digits scaled. -/
def float (n : Numeral) : Except Fault Number :=
  match Decimal.scaled? ⟨n.digits, n.place⟩ with
  | some x => .ok (.float (if n.negative then -x else x))
  | none => .error .numberOutOfRange

/-- **What a numeral denotes.** One without point and exponent is an integer where a 64-bit word
holds it; minus zero and all others are floats. -/
def number (n : Numeral) : Except Fault Number :=
  if n.integral then
    -- An unsigned word is tried first, so that only negative numbers are signed.
    if h : n.negative = false ∧ n.digits < 0x10000000000000000 then
      .ok (.int ⟨n.digits, by omega, by omega⟩)
    -- Minus zero is no integer.
    else if h : n.negative = true ∧ 0 < n.digits ∧ n.digits ≤ 0x8000000000000000 then
      .ok (.int ⟨-n.digits, by omega, by omega⟩)
    else n.float
  else n.float

end Numeral

/-! ### Trees -/

/-- What a text spells, as far as it can be read. -/
inductive Node where
  | null
  | bool (b : Bool)
  | numeral (n : Numeral)
  | number (n : Number)
  | string (s : Spelling)
  /-- The items, and the break after the last one if the array is not closed. -/
  | array (items : List Node) (stop : Option Break)
  /-- The members, and the break after the last one if the object is not closed. -/
  | object (members : List (Spelling × Node)) (stop : Option Break)
  | broken (b : Break)
  deriving Inhabited

/-- Fails with the fault, if there is one. -/
def Fault.check : Option Fault → Except Fault Unit
  | some f => .error f
  | none => .ok ()

namespace Node

mutual

/-- Skips a tree: its first fault for a reader who does not use it. -/
def skip : Node → Except Fault Unit
  | null | bool _ | numeral _ | number _ => .ok ()
  | string s => s.skip
  | array items stop => do
    skipItems items
    Fault.check (stop.map (·.skipped))
  | object members stop => do
    skipMembers members
    Fault.check (stop.map (·.skipped))
  | broken b => .error b.skipped

/-- Skips elements. -/
def skipItems : List Node → Except Fault Unit
  | [] => .ok ()
  | n :: rest => do
    n.skip
    skipItems rest

/-- Skips members with their keys. -/
def skipMembers : List (Spelling × Node) → Except Fault Unit
  | [] => .ok ()
  | (k, n) :: rest => do
    k.skip
    n.skip
    skipMembers rest

end

mutual

/-- The value of a tree in which `room` more containers may be opened. -/
def value (room : Nat) : Node → Except Fault Value
  | null => .ok .null
  | bool b => .ok (.bool b)
  | numeral n => n.number.map .number
  | number n => .ok (.number n)
  | string s => s.text.map .string
  | array items stop =>
    match room with
    | 0 => .error .tooDeep
    | room + 1 => do
      let items ← valueItems room items
      Fault.check (stop.map (·.used))
      .ok (.array items)
  | object members stop =>
    match room with
    | 0 => .error .tooDeep
    | room + 1 => do
      let members ← valueMembers room members
      Fault.check (stop.map (·.used))
      .ok (.object (Members.ofList members))
  | broken b => .error b.used

/-- The values of the items of an array. -/
def valueItems (room : Nat) : List Node → Except Fault (List Value)
  | [] => .ok []
  | n :: rest => do
    let v ← n.value room
    let vs ← valueItems room rest
    .ok (v :: vs)

/-- The values of the members of an object, as they stand. -/
def valueMembers (room : Nat) : List (Spelling × Node) → Except Fault (List (String × Value))
  | [] => .ok []
  | (k, n) :: rest => do
    let key ← k.text
    let v ← n.value room
    let vs ← valueMembers room rest
    .ok ((key, v) :: vs)

end

mutual

/-- A value as a tree without a break. -/
def ofValue : Value → Node
  | .null => null
  | .bool b => bool b
  | .number n => number n
  | .string s => string (.ofString s)
  | .array items => array (ofItems items) none
  | .object members => object (ofMembers members) none

/-- The trees of the items of an array. -/
def ofItems : List Value → List Node
  | [] => []
  | v :: rest => ofValue v :: ofItems rest

/-- The trees of the members of an object. -/
def ofMembers : List (String × Value) → List (Spelling × Node)
  | [] => []
  | (k, v) :: rest => (.ofString k, ofValue v) :: ofMembers rest

end

end Node

/-- A whole text: its tree, and whether anything but blanks stands behind it. -/
structure Document where
  root : Node
  /-- Whether anything but blanks stands behind it. -/
  trailing : Bool

end Lookout.Json
