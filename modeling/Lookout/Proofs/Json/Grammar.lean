import Lookout.Json.Decoder
import Lookout.Json.Reader

/-!
# Texts of values

What a JSON text is, told without the machine that reads it: numbers, strings, arrays and objects
are put together from bytes, with blanks between any two parts. Nothing is asked of the bytes of a
string beyond what tells where it ends, so they need not be UTF-8, its escapes may name half a
character, and a number may be too large for any type.

An array or an object is told by the list of its elements, each with the blanks around it, and not
by one element and the rest. So the members of an object can be put in another order, left out or
added to, and the result is a text again: a `Member` is a member together with the reasons why it
is one.

* `IsNumber`, `IsString` — the scalars;
* `ItemText`, `MemberText` — an item or a member as it is laid out;
* `IsValue` — the texts of values;
* `Member`, `ObjectText` — an object whose members are at hand, and `Member.name`.
-/

namespace Lookout.Json

/-- Bytes that may stand between any two parts of a text. -/
def Blanks (bytes : List UInt8) : Prop := ∀ b ∈ bytes, isBlank b = true

theorem Blanks.nil : Blanks [] := List.forall_mem_nil _

theorem Blanks.concat {bytes : List UInt8} (h : Blanks bytes) {b : UInt8} (hb : isBlank b = true) :
    Blanks (bytes ++ [b]) :=
  List.forall_mem_append.mpr ⟨h, List.forall_mem_singleton.mpr hb⟩

/-- A digit from `0` to `9`. -/
def IsDigit (b : UInt8) : Prop := 0x30 ≤ b ∧ b ≤ 0x39

/-- A hexadecimal digit, of either case. -/
def IsHexDigit (b : UInt8) : Prop :=
  IsDigit b ∨ (0x41 ≤ b ∧ b ≤ 0x46) ∨ (0x61 ≤ b ∧ b ≤ 0x66)

instance (bytes : List UInt8) : Decidable (Blanks bytes) := List.decidableBAll _ bytes

instance (b : UInt8) : Decidable (IsDigit b) := inferInstanceAs (Decidable (_ ∧ _))

instance (b : UInt8) : Decidable (IsHexDigit b) := inferInstanceAs (Decidable (_ ∨ _))

/-! ### Numbers -/

/-- One digit or more. -/
structure Digits (bytes : List UInt8) : Prop where
  ne_nil : bytes ≠ []
  digit : ∀ b ∈ bytes, IsDigit b

/-- The digits before the point: a zero stands there alone. -/
inductive IsWhole : List UInt8 → Prop where
  | zero : IsWhole [0x30]
  | digits {first : UInt8} {rest : List UInt8} (digit : IsDigit first) (ne_zero : first ≠ 0x30)
      (digits : ∀ b ∈ rest, IsDigit b) : IsWhole (first :: rest)

/-- What stands before the point. -/
inductive IsInteger : List UInt8 → Prop where
  | parts {sign whole : List UInt8} (hsign : sign = [] ∨ sign = [0x2D]) (hwhole : IsWhole whole) :
      IsInteger (sign ++ whole)

/-- The point with what stands behind it, or neither. -/
inductive IsFraction : List UInt8 → Prop where
  | absent : IsFraction []
  | point {digits : List UInt8} (h : Digits digits) : IsFraction (0x2E :: digits)

/-- What stands before the exponent. -/
inductive IsDecimal : List UInt8 → Prop where
  | parts {front fraction : List UInt8} (hfront : IsInteger front)
      (hfraction : IsFraction fraction) : IsDecimal (front ++ fraction)

/-- The exponent, if there is one. -/
inductive IsExponent : List UInt8 → Prop where
  | absent : IsExponent []
  | marked {mark : UInt8} {sign digits : List UInt8} (hmark : mark = 0x65 ∨ mark = 0x45)
      (hsign : sign = [] ∨ sign = [0x2B] ∨ sign = [0x2D]) (hdigits : Digits digits) :
      IsExponent (mark :: (sign ++ digits))

/-- A number: a decimal, and perhaps an exponent. -/
inductive IsNumber : List UInt8 → Prop where
  | parts {front exponent : List UInt8} (hfront : IsDecimal front)
      (hexponent : IsExponent exponent) : IsNumber (front ++ exponent)

/-! ### Strings -/

/-- What a string is put together from. -/
inductive IsPiece : List UInt8 → Prop where
  /-- A byte that stands for itself. -/
  | plain {b : UInt8} (quote : b ≠ 0x22) (backslash : b ≠ 0x5C) (control : ¬b < 0x20) : IsPiece [b]
  /-- An escape of one letter. -/
  | escape {b : UInt8} (letter : b ∈ [0x22, 0x5C, 0x2F, 0x62, 0x66, 0x6E, 0x72, 0x74]) :
      IsPiece [0x5C, b]
  /-- An escape of four digits. -/
  | unit {a b c d : UInt8} (ha : IsHexDigit a) (hb : IsHexDigit b) (hc : IsHexDigit c)
      (hd : IsHexDigit d) : IsPiece [0x5C, 0x75, a, b, c, d]

/-- A string: pieces between quotes. -/
inductive IsString : List UInt8 → Prop where
  | quoted {pieces : List (List UInt8)} (h : ∀ piece ∈ pieces, IsPiece piece) :
      IsString (0x22 :: (pieces.flatten ++ [0x22]))

/-- A string without escapes is one: each byte between the quotes is a piece of its own. -/
theorem IsString.plain {bytes : List UInt8}
    (h : bytes.all fun b => b ≠ 0x22 ∧ b ≠ 0x5C ∧ ¬b < 0x20) :
    IsString (0x22 :: (bytes ++ [0x22])) := by
  have hpieces : ∀ piece ∈ bytes.map fun b => [b], IsPiece piece := by
    refine List.forall_mem_map.mpr fun b hb => ?_
    obtain ⟨quote, backslash, control⟩ := of_decide_eq_true (List.all_eq_true.mp h b hb)
    exact .plain quote backslash control
  have hflatten : (bytes.map fun b => [b]).flatten = bytes :=
    List.flatMap_def.symm.trans (List.flatMap_singleton' bytes)
  rw [← hflatten]
  exact .quoted hpieces

/-! ### Values -/

/-- An item of an array, or the value of a member, with the blanks around it. -/
structure ItemText where
  before : List UInt8 := []
  value : List UInt8
  after : List UInt8 := []

/-- A member of an object: a key, and behind the colon the value. -/
structure MemberText where
  /-- What stands between the bracket or comma and the key. -/
  before : List UInt8 := []
  key : List UInt8
  /-- What stands between the key and the colon. -/
  between : List UInt8 := []
  item : ItemText

namespace ItemText

/-- The element as it stands in the array. -/
def bytes (i : ItemText) : List UInt8 := i.before ++ (i.value ++ i.after)

/-- What is asked of an item besides its value. -/
structure Laid (i : ItemText) : Prop where
  before : Blanks i.before
  after : Blanks i.after

end ItemText

namespace MemberText

/-- The member as it stands in the object. -/
def bytes (m : MemberText) : List UInt8 :=
  m.before ++ (m.key ++ (m.between ++ 0x3A :: m.item.bytes))

/-- What is asked of a member besides its value. -/
structure Laid (m : MemberText) : Prop where
  before : Blanks m.before
  key : IsString m.key
  between : Blanks m.between
  item : m.item.Laid

end MemberText

/-- **The texts of values.** -/
inductive IsValue : List UInt8 → Prop where
  | null : IsValue (Utf8.encode "null".toList)
  | true : IsValue (Utf8.encode "true".toList)
  | false : IsValue (Utf8.encode "false".toList)
  | number {bytes : List UInt8} (h : IsNumber bytes) : IsValue bytes
  | string {bytes : List UInt8} (h : IsString bytes) : IsValue bytes
  | emptyArray {pad : List UInt8} (h : Blanks pad) : IsValue (0x5B :: (pad ++ [0x5D]))
  | array {items : List ItemText} (nonempty : items ≠ []) (laid : ∀ i ∈ items, i.Laid)
      (values : ∀ i ∈ items, IsValue i.value) :
      IsValue (0x5B :: ([0x2C].intercalate (items.map ItemText.bytes) ++ [0x5D]))
  | emptyObject {pad : List UInt8} (h : Blanks pad) : IsValue (0x7B :: (pad ++ [0x7D]))
  | object {members : List MemberText} (nonempty : members ≠ []) (laid : ∀ m ∈ members, m.Laid)
      (values : ∀ m ∈ members, IsValue m.item.value) :
      IsValue (0x7B :: ([0x2C].intercalate (members.map MemberText.bytes) ++ [0x7D]))

/-! ### Objects -/

/-- A member that is laid out properly and has a value. -/
structure Member where
  text : MemberText
  laid : text.Laid
  isValue : IsValue text.item.value

/-- The member as it stands in the object. -/
def Member.bytes (m : Member) : List UInt8 := m.text.bytes

/-- **The name of a member:** what its key spells, escapes resolved, if that is a text. -/
def Member.name (m : Member) : Except DecodeError String :=
  Decoder.text.decodeDocument (.read m.text.key)

/-- An object with blanks around it. -/
structure ObjectText where
  lead : List UInt8 := []
  /-- What stands behind the opening bracket. -/
  pad : List UInt8 := []
  members : List Member
  trail : List UInt8 := []
  blank_lead : Blanks lead := by decide
  blank_pad : Blanks pad := by decide
  blank_trail : Blanks trail := by decide

/-- The object, with what stands before and behind it. -/
def ObjectText.bytes (o : ObjectText) : List UInt8 :=
  o.lead ++ 0x7B :: (o.pad ++
    ([0x2C].intercalate (o.members.map Member.bytes) ++ 0x7D :: o.trail))

end Lookout.Json
