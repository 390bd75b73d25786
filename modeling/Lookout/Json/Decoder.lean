import Lookout.Json.Printer
import Lookout.Json.Tree
import Lookout.Text.Quoted

/-!
# Decoding trees

A `Decoder α` takes an `α` from the tree of a JSON text or of a value. It goes through the tree once
from left to right and reports the first thing that is wrong, be it the text or its meaning; an
object's unknown members are skipped. The two sources of trees differ only in how deep containers
may nest and in what is said of an array that is too long.

* `DecodeError` — why decoding failed, with one `message`;
* `Decoder.text`, `Decoder.int64`, … — the scalar decoders;
* `Decoder.decodeDocument`, `Decoder.decodeValue` — running a decoder on a text or on a value.
-/

namespace Lookout.Json

/-! ### Errors -/

/-- What was found in place of the expected. -/
inductive Found where
  | null
  | bool (b : Bool)
  | integer (i : Int)
  | float (x : Float)
  | string (s : String)
  | sequence
  | map
  deriving DecidableEq

/-- How an error names what was found. -/
def Found.description : Found → String
  | null => "null"
  | bool b => "boolean `" ++ (if b then "true" else "false") ++ "`"
  | integer i => "integer `" ++ String.ofList (integerText i) ++ "`"
  | float x => "floating point `" ++ String.ofList (floatText x) ++ "`"
  | string s => "string " ++ Text.quoted s
  | sequence => "sequence"
  | map => "map"

/-- What a decoder expects. -/
inductive Expected where
  | string
  | int64
  | uint64
  | size
  | float
  | sequence
  | map
  /-- An object or array with the fields of a record. -/
  | record (name : String)
  /-- An array with as many items as a record has fields. -/
  | fields (name : String) (count : Nat)
  /-- An array that is no longer than what is taken from it. -/
  | fewerItems
  | choice
  /-- An object with one member, which stands for its key. -/
  | singleMember
  /-- The null that goes with such a key. -/
  | unit
  deriving DecidableEq

/-- How an error names what was expected. -/
def Expected.description : Expected → String
  | string => "a string"
  | int64 => "i64"
  | uint64 => "u64"
  | size => "usize"
  | float => "f64"
  | sequence => "a sequence"
  | map => "a map"
  | record name => "struct " ++ name
  | fields name count =>
    "struct " ++ name ++ " with " ++ toString count ++
      (if count = 1 then " element" else " elements")
  | fewerItems => "fewer elements in array"
  | choice => "string or map"
  | singleMember => "map with a single key"
  | unit => "unit"

/-- Why decoding failed. -/
inductive DecodeError where
  | fault (f : Fault)
  | wrongType (found : Found) (expected : Expected)
  /-- A value has the right type and is still none of the expected. -/
  | wrongValue (found : Found) (expected : Expected)
  | wrongLength (length : Nat) (expected : Expected)
  /-- A field without default is absent. -/
  | missingField (name : String)
  | duplicateField (name : String)
  /-- A name is none of the names of a choice. -/
  | unknownName (name : String) (names : List String)
  /-- A value was refused for a reason of its own. -/
  | refused (reason : String)
  deriving DecidableEq

/-- A name as a message shows it. -/
def backquoted (name : String) : String := "`" ++ name ++ "`"

/-- The names of a choice as a message lists them. -/
def listNames : List String → String
  | [] => "there are no variants"
  | [a] => "expected " ++ backquoted a
  | [a, b] => "expected " ++ backquoted a ++ " or " ++ backquoted b
  | names => "expected one of " ++ String.intercalate ", " (names.map backquoted)

/-- What an error says. Where bytes are read, serde_json writes the place behind it, as in
" at line 1 column 5"; this end of the text is left out here, since a decoder does not know how far
the reader has come. What is decoded from a value that was read before has no such end. -/
def DecodeError.message : DecodeError → String
  | fault f => f.message
  | wrongType found expected =>
    "invalid type: " ++ found.description ++ ", expected " ++ expected.description
  | wrongValue found expected =>
    "invalid value: " ++ found.description ++ ", expected " ++ expected.description
  | wrongLength length expected =>
    "invalid length " ++ toString length ++ ", expected " ++ expected.description
  | missingField name => "missing field " ++ backquoted name
  | duplicateField name => "duplicate field " ++ backquoted name
  | unknownName name names => "unknown variant " ++ backquoted name ++ ", " ++ listNames names
  | refused reason => reason

/-- A fault of the text is an error. -/
def fromText {α : Type} : Except Fault α → Except DecodeError α
  | .ok a => .ok a
  | .error f => .error (.fault f)

@[simp] theorem fromText_ok {α : Type} (a : α) : fromText (.ok a) = .ok a := rfl

/-! ### Decoders -/

/-- Where a tree comes from. -/
inductive Origin where
  | text
  | value
  deriving DecidableEq

/-- Where decoding stands: where the tree comes from, and how many more containers may be opened. -/
structure Place where
  origin : Origin
  /-- How many more containers may be opened. -/
  room : Nat
  deriving DecidableEq

abbrev Decoder (α : Type) := Place → Node → Except DecodeError α

/-- Opens one more container, if one may be opened. -/
def Place.enter (p : Place) : Except DecodeError Place :=
  match p.room with
  | 0 => .error (.fault .tooDeep)
  | room + 1 => .ok { p with room := room }

/-- What a tree is, as far as an error names it: scalars are read in full, containers not at all. -/
def Node.found : Node → Except Fault Found
  | null => .ok .null
  | bool b => .ok (.bool b)
  | numeral n => n.number.map ofNumber
  | number n => .ok (ofNumber n)
  | string s => s.text.map .string
  | array _ _ => .ok .sequence
  | object _ _ => .ok .map
  | broken b => .error b.used
where
  ofNumber : Number → Found
    | .int i => .integer i.val
    | .float x => .float x

namespace Decoder

/-- Fails because the tree has the wrong type. -/
def wrongType {α : Type} (expected : Expected) (n : Node) : Except DecodeError α :=
  match n.found with
  | .ok found => .error (.wrongType found expected)
  -- A scalar that cannot be read is reported as that, and not as one of the wrong type.
  | .error f => .error (.fault f)

/-- A string. -/
def text : Decoder String := fun _ n =>
  match n with
  | .string s => fromText s.text
  | n => wrongType .string n

/-- The number that a tree is, if it is one. -/
def number? : Node → Option (Except Fault Number)
  | .numeral n => some n.number
  | .number n => some (.ok n)
  | _ => none

/-- An integer of which `take` tells whether it fits. -/
def integer {α : Type} (expected : Expected) (take : Integer → Option α) : Decoder α := fun _ n =>
  match number? n with
  | none => wrongType expected n
  | some (.error f) => .error (.fault f)
  | some (.ok (.float x)) => .error (.wrongType (.float x) expected)
  | some (.ok (.int i)) =>
    match take i with
    | some a => .ok a
    | none => .error (.wrongValue (.integer i.val) expected)

/-- A signed number of 64 bits. -/
def int64 : Decoder Int64 := integer .int64 Integer.toInt64?

/-- An unsigned number of 64 bits. -/
def uint64 : Decoder UInt64 := integer .uint64 Integer.toUInt64?

/-- A length, which has 64 bits here. -/
def size : Decoder UInt64 := integer .size Integer.toUInt64?

/-- A float; an integer stands for the float nearest to it. -/
def float : Decoder Float := fun _ n =>
  match number? n with
  | none => wrongType .float n
  | some (.error f) => .error (.fault f)
  | some (.ok (.float x)) => .ok x
  | some (.ok (.int i)) => .ok i.toFloat

/-- Any value, as deep as there is room for. -/
def value : Decoder Value := fun p n => fromText (n.value p.room)

/-- Nothing for null, else what the decoder takes. -/
def option {α : Type} (decode : Decoder α) : Decoder (Option α) := fun p n =>
  match n with
  | .null => .ok none
  | n => (decode p n).map some

/-- Elements, one after the other. The first that cannot be decoded is reported. -/
def items {α : Type} (decode : Decoder α) (p : Place) : List Node → Except DecodeError (List α)
  | [] => .ok []
  | n :: rest => do
    let a ← decode p n
    let as ← items decode p rest
    .ok (a :: as)

/-- An array. -/
def list {α : Type} (decode : Decoder α) : Decoder (List α) := fun p n =>
  match n with
  | .array ns stop => do
    let p ← p.enter
    -- The elements come before the break behind them, as they are read from left to right.
    let as ← items decode p ns
    fromText (Fault.check (stop.map (·.used)))
    .ok as
  | n => wrongType .sequence n

/-- An object with any members, in order. -/
def members : Decoder Members := fun p n =>
  match n with
  | .object _ _ => fromText (n.value p.room) |>.map fun
    | .object ms => ms
    | _ => []
  | n => wrongType .map n

/-- The choice of a name. -/
def named {α : Type} (choices : List (String × α)) (name : String) : Except DecodeError α :=
  match choices.lookup name with
  | some a => .ok a
  | none => .error (.unknownName name (choices.map (·.1)))

/-- One of several names: a string, or an object whose only member is the name with null. -/
def choice {α : Type} (choices : List (String × α)) : Decoder α := fun _ n =>
  match n with
  | .string s => do
    let name ← fromText s.text
    named choices name
  -- Such an object is how a choice with a content is written, and the content of these is null.
  | .object [(k, v)] none => do
    let name ← fromText k.text
    let a ← named choices name
    match v with
    | .null => .ok a
    | v => wrongType .unit v
  | .object _ _ => .error (.wrongValue .map .singleMember)
  | n => wrongType .choice n

/-- A string that a further check accepts, or refuses for a reason. -/
def checked {α : Type} (check : String → Except String α) : Decoder α := fun p n => do
  let s ← text p n
  match check s with
  | .ok a => .ok a
  -- The reason becomes the text of the error as it is.
  | .error reason => .error (.refused reason)

/-- Decodes a text that has nothing but blanks behind its value. -/
def decodeDocument {α : Type} (decode : Decoder α) (d : Document) : Except DecodeError α := do
  let a ← decode ⟨.text, maxDepth⟩ d.root
  -- What stands behind the value is looked at only if the value itself was decoded.
  if d.trailing then .error (.fault .trailingCharacters) else .ok a

/-- Decodes a value that was read before. -/
def decodeValue {α : Type} (decode : Decoder α) (v : Value) : Except DecodeError α :=
  decode ⟨.value, maxDepth⟩ (.ofValue v)

end Decoder

end Lookout.Json
