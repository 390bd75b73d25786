/-!
# UTF-8

A text is a list of characters, a stored text a list of bytes. `encode` writes one as the other.
Reading goes byte by byte: a `Reader` holds the pieces read so far and the sequence it is in the
middle of, so a byte string may arrive in any portions. A piece is a character, or `none` for an
ill-formed run, which is the longest start of a sequence that the next byte does not continue.

* `encode` — the bytes of a text;
* `pieces` — what a byte string spells, piece by piece;
* `decode?` — the text, if every piece is a character;
* `decodeLossy` — the text with U+FFFD for each ill-formed run.
-/

namespace Lookout.Utf8

/-- The bytes of a text, character by character. -/
def encode (text : List Char) : List UInt8 :=
  text.flatMap String.utf8EncodeChar

@[simp] theorem encode_nil : encode [] = [] := rfl

@[simp] theorem encode_cons (c : Char) (text : List Char) :
    encode (c :: text) = String.utf8EncodeChar c ++ encode text := rfl

@[simp] theorem encode_append (a b : List Char) : encode (a ++ b) = encode a ++ encode b := by
  simp [encode]

/-- A sequence of several bytes under way: how many are to come, between which bounds the next one
must lie, and the bits collected so far. -/
structure Pending where
  more : Nat
  low : UInt8
  high : UInt8
  bits : Nat
  deriving DecidableEq

/-- What a byte at the start of a sequence means. -/
inductive Lead where
  | scalar (c : Char)
  /-- It opens a sequence of several bytes. -/
  | opens (p : Pending)
  | stray
  deriving DecidableEq

/-- **First bytes.** The bounds on the second byte rule out overlong forms (`E0`, `F0`), surrogates
(`ED`) and values beyond U+10FFFF (`F4`). -/
def lead (b : UInt8) : Lead :=
  if b < 0x80 then .scalar (Char.ofNat b.toNat)
  -- A byte that only continues, or one of a character that would have fit one byte.
  else if b < 0xC2 then .stray
  else if b < 0xE0 then .opens ⟨1, 0x80, 0xBF, b.toNat - 0xC0⟩
  else if b = 0xE0 then .opens ⟨2, 0xA0, 0xBF, 0⟩
  else if b = 0xED then .opens ⟨2, 0x80, 0x9F, 13⟩
  else if b < 0xF0 then .opens ⟨2, 0x80, 0xBF, b.toNat - 0xE0⟩
  else if b = 0xF0 then .opens ⟨3, 0x90, 0xBF, 0⟩
  else if b < 0xF4 then .opens ⟨3, 0x80, 0xBF, b.toNat - 0xF0⟩
  else if b = 0xF4 then .opens ⟨3, 0x80, 0x8F, 4⟩
  else .stray

/-- A byte string read up to some point. -/
structure Reader where
  /-- The pieces read, the latest first. -/
  done : List (Option Char) := []
  pending : Option Pending := none
  deriving DecidableEq

namespace Reader

/-- Reads a byte that starts a sequence. -/
def start (done : List (Option Char)) (b : UInt8) : Reader :=
  match lead b with
  | .scalar c => ⟨some c :: done, none⟩
  | .opens p => ⟨done, some p⟩
  | .stray => ⟨none :: done, none⟩

/-- Reads one byte. A byte that does not continue the sequence under way ends it as ill-formed and
starts the next one. -/
def step (r : Reader) (b : UInt8) : Reader :=
  match r.pending with
  | none => start r.done b
  | some p =>
    -- Only the second byte has bounds of its own; those behind it are any that continue.
    if p.low ≤ b ∧ b ≤ p.high then
      let bits := p.bits * 64 + (b.toNat - 0x80)
      if p.more = 1 then ⟨some (Char.ofNat bits) :: r.done, none⟩
      else ⟨r.done, some ⟨p.more - 1, 0x80, 0xBF, bits⟩⟩
    else start (none :: r.done) b

/-- The pieces of a byte string that ends here; a sequence cut short is ill-formed. -/
def finish (r : Reader) : List (Option Char) :=
  (if r.pending.isSome then none :: r.done else r.done).reverse

end Reader

/-- What a byte string spells, piece by piece. -/
def pieces (bytes : List UInt8) : List (Option Char) :=
  (bytes.foldl Reader.step {}).finish

/-- The text a byte string spells, if all of it is well-formed. -/
def decode? (bytes : List UInt8) : Option (List Char) :=
  let read := pieces bytes
  if read.all Option.isSome then some (read.filterMap id) else none

/-- The text a byte string spells, with one U+FFFD for each ill-formed run. -/
def decodeLossy (bytes : List UInt8) : List Char :=
  (pieces bytes).map (·.getD '\uFFFD')

end Lookout.Utf8
