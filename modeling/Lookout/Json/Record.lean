import Lookout.Json.Decoder

/-!
# Records

A record is decoded from an object, by the names of its fields, or from an array, by their order.
`Fields τ` lists the fields of a record whose values together form a `τ`, a nested pair. Decoding
fills one slot per field as the members come, in whatever order, and settles absent fields at the
end.

* `Field`, `Fields` — the fields of a record;
* `Fields.put` — a member fills the slot of its field;
* `Fields.record` — the decoder of a record.
-/

namespace Lookout.Json

/-- A field of a record. -/
structure Field (α : Type) where
  name : String
  decode : Decoder α
  /-- Its value when it is absent, if it may be. -/
  absent : Option α

/-- The fields of a record, in the order of their declaration. -/
inductive Fields : Type → Type 1 where
  | nil : Fields Unit
  | cons {α β : Type} (field : Field α) (rest : Fields β) : Fields (α × β)

namespace Fields

/-- How many fields there are. -/
def count : {τ : Type} → Fields τ → Nat
  | _, nil => 0
  | _, cons _ rest => rest.count + 1

/-- One slot for each field. -/
def Slots : {τ : Type} → Fields τ → Type
  | _, nil => Unit
  | _, @cons α _ _ rest => Option α × rest.Slots

/-- No slot is filled. -/
def empty : {τ : Type} → (fs : Fields τ) → fs.Slots
  | _, nil => ()
  | _, cons _ rest => (none, rest.empty)

/-- Puts a member into the slot of its field, which must be empty; `none` if there is no such
field. -/
def put : {τ : Type} → (fs : Fields τ) → Place → String → Node → fs.Slots →
    Option (Except DecodeError fs.Slots)
  | _, nil, _, _, _, _ => none
  | _, cons f rest, p, key, n, slots =>
    if key = f.name then
      match slots.1 with
      -- A field that comes twice is an error, even if both values are the same.
      | some _ => some (.error (.duplicateField f.name))
      | none => some ((f.decode p n).map fun a => (some a, slots.2))
    else (rest.put p key n slots.2).map (·.map fun filled => (slots.1, filled))

/-- Goes through the members; unknown ones are skipped. -/
def fill {τ : Type} (fs : Fields τ) (p : Place) :
    List (Spelling × Node) → fs.Slots → Except DecodeError fs.Slots
  | [], slots => .ok slots
  | (k, n) :: rest, slots => do
    let key ← fromText k.text
    let slots ←
      match fs.put p key n slots with
      | some slots => slots
      -- A member that no field has must still be a value.
      | none => (fromText n.skip).map fun _ => slots
    fs.fill p rest slots

/-- The values of all fields, once the members have been seen. -/
def settle : {τ : Type} → (fs : Fields τ) → fs.Slots → Except DecodeError τ
  | _, nil, _ => .ok ()
  | _, cons f rest, slots =>
    match slots.1.or f.absent with
    | none => .error (.missingField f.name)
    | some a => (rest.settle slots.2).map fun b => (a, b)

/-- Takes the values from items in the order of the fields, and what is left of the items. `tooFew`
is the error of an array that ends before a field that must be there, by the index of the field. -/
def takeItems (tooFew : Nat → DecodeError) (p : Place) (stop : Option Break) : {τ : Type} →
    (fs : Fields τ) → (index : Nat) → List Node → Except DecodeError (τ × List Node)
  | _, nil, _, ns => .ok ((), ns)
  | _, cons f rest, index, [] => do
    fromText (Fault.check (stop.map (·.used)))
    match f.absent with
    | none => .error (tooFew index)
    | some a =>
      let (b, ns) ← takeItems tooFew p stop rest (index + 1) []
      .ok ((a, b), ns)
  | _, cons f rest, index, n :: ns => do
    let a ← f.decode p n
    let (b, ns) ← takeItems tooFew p stop rest (index + 1) ns
    .ok ((a, b), ns)

/-- What follows the items of a record in a text must be the end of the array. -/
def closeText (left : List Node) (stop : Option Break) : Except Fault Unit :=
  if left.isEmpty then
    match stop with
    | none => .ok ()
    | some b =>
      match b.used with
      | .endInArray => .error .endInArray
      | .trailingComma => .error .trailingComma
      | _ => .error .trailingCharacters
  else .error .trailingCharacters

/-- **The decoder of a record,** from an object or from an array. What is said of too many elements
depends on where the tree comes from. -/
def record {τ : Type} (name : String) (fs : Fields τ) : Decoder τ := fun p n =>
  match n with
  | .object members stop => do
    let inner ← p.enter
    let slots ← fs.fill inner members fs.empty
    -- The break of the object comes before a field that is missing: the text ends where the fields
    -- do not yet count.
    fromText (Fault.check (stop.map (·.used)))
    fs.settle slots
  | .array items stop => do
    let inner ← p.enter
    let tooFew := fun index => DecodeError.wrongLength index (.fields name fs.count)
    let (a, left) ← takeItems tooFew inner stop fs 0 items
    match p.origin with
    | .text => fromText (closeText left stop)
    | .value => if left.isEmpty then pure () else .error (.wrongLength items.length .fewerItems)
    .ok a
  | n => Decoder.wrongType (.record name) n

end Fields

namespace Decoder

/-- Turns what a decoder takes into something else. -/
def map {α β : Type} (f : α → β) (decode : Decoder α) : Decoder β := fun p n =>
  (decode p n).map f

end Decoder

end Lookout.Json
