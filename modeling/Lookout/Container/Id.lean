import Lookout.Failure
import Lookout.Json.Decoder

/-!
# Container references

A client refers to a container by its identifier, a part of it, or its name, so a reference follows
the rules for names: one to 128 ASCII letters, digits, `-`, `_` and `.`, a letter or digit first. A
`ContainerId` is a text together with the proof that it follows them. `shortId` abbreviates any
identifier to twelve bytes.
-/

namespace Lookout

namespace ContainerId

/-- The greatest length of a reference, in bytes. -/
def maxLength : Nat := 128

/-- A character that may stand in a name. -/
def isNameChar (c : Char) : Bool :=
  c.isAlphanum || c == '-' || c == '_' || c == '.'

/-- Whether a text follows the rules for names: its length, its first character, all of them. -/
def isName (s : String) : Bool :=
  -- The length is counted in bytes, before it is known that all characters have one.
  !s.isEmpty && decide (s.utf8ByteSize ≤ maxLength) && s.toList.head?.any Char.isAlphanum &&
    s.toList.all isNameChar

end ContainerId

/-- A container reference. -/
structure ContainerId where
  /-- The reference as it is written. -/
  text : String
  /-- It follows the rules for names. -/
  valid : ContainerId.isName text = true
  deriving DecidableEq

namespace ContainerId

/-- The reference that a text is, or the failure that says it is none. -/
def ofString (s : String) : Except Failure ContainerId :=
  if h : isName s = true then .ok ⟨s, h⟩ else .error (.invalidContainerId s)

@[simp] theorem ofString_text (id : ContainerId) : ofString id.text = .ok id := by
  simp [ofString, id.valid]

/-- A text that is accepted is the text of what it is accepted as: nothing is added, cut or
changed. -/
theorem text_of_ofString {s : String} {id : ContainerId} (h : ofString s = .ok id) :
    id.text = s := by
  unfold ofString at h
  split at h
  · cases h; rfl
  · cases h

/-- The decoder of a reference: a string that is one. -/
def decoder : Json.Decoder ContainerId :=
  Json.Decoder.checked fun s =>
    match ofString s with
    | .ok id => .ok id
    | .error f => .error f.message

/-- A reference as a value: the text itself. -/
def toJson (id : ContainerId) : Json.Value := .string id.text

end ContainerId

/-! ### Abbreviation -/

/-- The length in bytes of an abbreviated identifier. -/
def shortIdLength : Nat := 12

/-- The first `n` bytes of a text, if the text is that long and no character is cut. -/
def takeBytes : Nat → List Char → Option (List Char)
  | 0, _ => some []
  | _ + 1, [] => none
  | n + 1, c :: cs =>
    -- A character that reaches beyond the `n` bytes would be cut.
    if c.utf8Size ≤ n + 1 then (takeBytes (n + 1 - c.utf8Size) cs).map (c :: ·) else none

/-- The first twelve bytes of an identifier; an identifier that is shorter, or that would be cut
inside a character, is left as it is. -/
def shortId (id : String) : String :=
  match takeBytes shortIdLength id.toList with
  | some cs => String.ofList cs
  | none => id

end Lookout
