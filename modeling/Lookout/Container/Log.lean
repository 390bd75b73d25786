import Lookout.Json.Record

/-!
# Log frames and log lines

The daemon sends a container's output as frames: a header of eight bytes (the output stream, three
reserved bytes, the length of the payload as a big-endian word) and the payload. A frame usually
carries one line that starts with its timestamp; `LogFrame.line` takes both apart.

* `LogFrame.encode` — the bytes of a frame;
* `LogFrame.line` — the line a frame carries.
-/

namespace Lookout

open Json (Value Decoder Field Fields)

/-- The stream that a container wrote to. -/
inductive OutputStream where
  | stdout
  | stderr
  deriving DecidableEq

namespace OutputStream

/-- The name of a stream in a message. -/
def name : OutputStream → String
  | stdout => "stdout"
  | stderr => "stderr"

/-- The names of the two streams, each with the stream that it stands for. -/
def choices : List (String × OutputStream) := [stdout, stderr].map fun s => (s.name, s)

/-- The byte that stands for a stream in a header. -/
def byte : OutputStream → UInt8
  | stdout => 1
  | stderr => 2

/-- The stream of a byte. Every byte has one: what is not standard error counts as standard
output. -/
def ofByte (b : UInt8) : OutputStream :=
  if b = 2 then stderr else stdout

@[simp] theorem ofByte_byte (s : OutputStream) : ofByte s.byte = s := by cases s <;> rfl

end OutputStream

/-- A piece of a container's output. -/
structure LogFrame where
  stream : OutputStream
  payload : List UInt8
  deriving DecidableEq

/-- The natural number of a big-endian word. -/
def bigEndian (a b c d : UInt8) : Nat :=
  ((a.toNat * 256 + b.toNat) * 256 + c.toNat) * 256 + d.toNat

/-- A natural number as a big-endian word of four bytes. -/
def bigEndianBytes (n : Nat) : List UInt8 :=
  [UInt8.ofNat (n / 0x1000000), UInt8.ofNat (n / 0x10000), UInt8.ofNat (n / 0x100), UInt8.ofNat n]

/-! ### Lines -/

/-- A line of a container's output. -/
structure LogLine where
  /-- The container, as the client refers to it. -/
  containerId : String
  /-- When the line was written, as the daemon put it; empty if the line does not say. -/
  timestamp : String
  stream : OutputStream
  message : String
  deriving DecidableEq

namespace LogLine

/-- A line as a JSON object. -/
def toJson (l : LogLine) : Value :=
  .object
    [("container_id", .string l.containerId), ("timestamp", .string l.timestamp),
      ("stream", .string l.stream.name), ("message", .string l.message)]

def fields : Fields (String × String × OutputStream × String × Unit) :=
  .cons ⟨"container_id", Decoder.text, none⟩
    (.cons ⟨"timestamp", Decoder.text, none⟩
      (.cons ⟨"stream", Decoder.choice OutputStream.choices, none⟩
        (.cons ⟨"message", Decoder.text, none⟩ .nil)))

def decoder : Decoder LogLine :=
  (Fields.record "LogLine" fields).map fun (containerId, timestamp, stream, message, ()) =>
    ⟨containerId, timestamp, stream, message⟩

end LogLine

namespace LogFrame

/-- The bytes of a frame; a payload whose length does not fit a word has none. -/
def encode (f : LogFrame) : Option (List UInt8) :=
  if f.payload.length < 0x100000000 then
    some (f.stream.byte :: 0 :: 0 :: 0 :: (bigEndianBytes f.payload.length ++ f.payload))
  else none

/-- The text of a frame, without the line ends behind it. -/
def text (f : LogFrame) : List Char :=
  -- All line feeds at the end go, carriage returns and blanks stay.
  ((Utf8.decodeLossy f.payload).reverse.dropWhile (· == '\n')).reverse

/-- A text taken apart at its first blank. A text that has none, or begins with it, has no first
word. -/
def splitWord (text : List Char) : List Char × List Char :=
  match text.span (· != ' ') with
  -- The blank between the two belongs to neither.
  | (c :: cs, _ :: rest) => (c :: cs, rest)
  | _ => ([], text)

/-- The line that a frame carries: its first word is the timestamp. -/
def line (f : LogFrame) (containerId : String) : LogLine :=
  let (timestamp, message) := splitWord f.text
  ⟨containerId, String.ofList timestamp, f.stream, String.ofList message⟩

end LogFrame

end Lookout
