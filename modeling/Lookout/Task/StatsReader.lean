import Lookout.Container.Stats
import Lookout.Task.Basic
import Lookout.Text.Blank

/-!
# Reading a container's samples

Samples arrive as lines of JSON. A line ends at a line feed, before which one carriage return does
not count; the end of the byte stream ends the last line. Blank lines are left out. The reader stops
for good at a line that is too long, is no text, or is no sample.

* `nextLine` — the first line of what has arrived;
* `StatsReader.step` — reading one line.
-/

namespace Lookout

/-- The greatest length of a line in bytes. -/
def maxLine : Nat := 1048576

/-- The start of what has arrived. -/
inductive NextLine where
  | line (text rest : List UInt8)
  | tooLong
  | incomplete
  deriving DecidableEq

/-- A line without the carriage return at its end. -/
def withoutReturn (text : List UInt8) : List UInt8 :=
  if text.getLast? = some 0x0D then text.dropLast else text

/-- The first line of what has arrived. -/
def nextLine (max : Nat) (buffer : List UInt8) : NextLine :=
  match buffer.span (· != 0x0A) with
  | (text, _ :: rest) => if text.length ≤ max then .line (withoutReturn text) rest else .tooLong
  -- A line that is too long is not waited for.
  | (text, []) => if text.length ≤ max then .incomplete else .tooLong

/-- What a line says. -/
inductive LineMeaning where
  | blank
  | sample (s : StatsSample)
  | unreadable

/-- What a line says, without its line end. -/
def lineMeaning (text : List UInt8) : LineMeaning :=
  match Utf8.decode? text with
  | none => .unreadable
  | some cs =>
    -- Blank in the sense of Unicode, so that the text has to be decoded before.
    if cs.all Text.isBlank then .blank
    else
      match StatsSample.ofBytes text with
      | .ok s => .sample s
      | .error _ => .unreadable

/-- A reader of samples. -/
structure StatsReader where
  /-- What has arrived and is not read yet. -/
  buffer : List UInt8 := []
  /-- Whether the byte stream has ended. -/
  ended : Bool := false
  deriving DecidableEq

namespace StatsReader

/-- What comes of reading. -/
inductive Step where
  /-- A portion of the byte stream is needed. -/
  | wait
  | skip (r : StatsReader)
  | store (s : StatsSample) (r : StatsReader)
  | stop

/-- Reads a line, with what follows it. -/
def readLine (text : List UInt8) (r : StatsReader) : Step :=
  match lineMeaning text with
  | .blank => .skip r
  | .sample s => .store s r
  | .unreadable => .stop

/-- Reads the first line of what has arrived, if it is complete. -/
def step (r : StatsReader) : Step :=
  match nextLine maxLine r.buffer with
  | .line text rest => readLine text { r with buffer := rest }
  | .tooLong => .stop
  | .incomplete =>
    if !r.ended then .wait
    -- A lone carriage return at the end of the byte stream is the end of an empty line.
    else if r.buffer = [] ∨ r.buffer = [0x0D] then .stop
    else readLine (withoutReturn r.buffer) { r with buffer := [] }

/-- Whether it needs no portion to go on. -/
def isReady (r : StatsReader) : Bool :=
  match nextLine maxLine r.buffer with
  | .incomplete => r.ended
  | _ => true

/-- A portion of the byte stream came; a failure stops the reader. -/
def arrived (r : StatsReader) (p : Portion) : Option StatsReader :=
  match p with
  | .bytes bs => some { r with buffer := r.buffer ++ bs }
  | .ended => some { r with ended := true }
  -- What was put aside is not read any more.
  | .failed => none

end StatsReader

end Lookout
