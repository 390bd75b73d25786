import Lookout.Number.Shortest

/-!
# JSON values

An integer is one that fits a 64-bit word, signed or unsigned; every other number is a 64-bit float.
The members of an object stand in a list: a value that was read, or that is sent as a payload, has
them in the order of their keys with each key once, which is what `Value.ordered` makes of any
value.

* `Value` — the values;
* `Members.insert` — putting a member into ordered members;
* `Value.ordered` — the value with all members ordered.
-/

namespace Lookout.Json

/-- An integer that fits a signed or an unsigned 64-bit word. -/
structure Integer where
  val : Int
  /-- It is no less than the least signed word. -/
  ge : -0x8000000000000000 ≤ val
  /-- It is no more than the greatest unsigned word. -/
  lt : val < 0x10000000000000000
  deriving DecidableEq

namespace Integer

/-- Every unsigned word is one. -/
def ofUInt64 (n : UInt64) : Integer :=
  ⟨n.toNat, by omega, by have := n.toNat_lt; omega⟩

/-- Every signed word is one. -/
def ofInt64 (n : Int64) : Integer :=
  ⟨n.toInt, by have := n.le_toInt; simpa using this,
    by have := n.toInt_lt; omega⟩

@[simp] theorem val_ofInt64 (n : Int64) : (ofInt64 n).val = n.toInt := rfl

/-- The unsigned word, if the integer is one. -/
def toUInt64? (i : Integer) : Option UInt64 :=
  if 0 ≤ i.val then some (UInt64.ofNat i.val.toNat) else none

/-- The signed word, if the integer is one. -/
def toInt64? (i : Integer) : Option Int64 :=
  if i.val < 0x8000000000000000 then some (Int64.ofInt i.val) else none

@[simp] theorem toInt64?_ofInt64 (n : Int64) : (ofInt64 n).toInt64? = some n := by
  have := n.toInt_lt
  simp_all [toInt64?]

/-- The float nearest to it. -/
def toFloat (i : Integer) : Float :=
  match i.toUInt64? with
  | some n => n.toFloat
  | none => (Int64.ofInt i.val).toFloat

end Integer

/-- A number. -/
inductive Number where
  | int (i : Integer)
  | float (x : Float)
  deriving DecidableEq

/-- A JSON value. -/
inductive Value where
  | null
  | bool (b : Bool)
  | number (n : Number)
  | string (s : String)
  | array (items : List Value)
  | object (members : List (String × Value))
  deriving Inhabited

abbrev Members := List (String × Value)

namespace Members

/-- Puts a member into members ordered by key; the value of a key that is there is replaced. -/
def insert (key : String) (value : Value) : Members → Members
  | [] => [(key, value)]
  | (k, v) :: rest =>
    if key < k then (key, value) :: (k, v) :: rest
    -- The later value replaces the earlier one, in its place.
    else if key = k then (key, value) :: rest
    else (k, v) :: insert key value rest

/-- The members in order, the last value of a key winning. -/
def ofList (members : Members) : Members :=
  members.foldl (fun ordered (k, v) => ordered.insert k v) []

/-- The value of a key, if there is one. -/
def get? (members : Members) (key : String) : Option Value :=
  (members.find? (·.1 == key)).map (·.2)

end Members

namespace Value

mutual

/-- The value with the members of every object in order. -/
def ordered : Value → Value
  | null => null
  | bool b => bool b
  | number n => number n
  | string s => string s
  | array items => array (orderedItems items)
  | object members => object (Members.ofList (orderedMembers members))

/-- `ordered` at each element. -/
def orderedItems : List Value → List Value
  | [] => []
  | v :: rest => v.ordered :: orderedItems rest

/-- `ordered` at the value of each member. -/
def orderedMembers : List (String × Value) → List (String × Value)
  | [] => []
  | (k, v) :: rest => (k, v.ordered) :: orderedMembers rest

end

/-- An unsigned word as a value. -/
def ofUInt64 (n : UInt64) : Value := number (.int (.ofUInt64 n))

/-- A signed word as a value. -/
def ofInt64 (n : Int64) : Value := number (.int (.ofInt64 n))

/-- A float as a value: only finite floats have a text, any other is `null`. -/
def ofFloat (x : Float) : Value :=
  match FloatClass.ofFloat x with
  | .nan | .infinite _ => null
  | .zero _ | .finite _ _ => number (.float x)

end Value

end Lookout.Json
