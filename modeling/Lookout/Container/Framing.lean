import Lookout.Container.Log

/-!
# Taking log frames from a byte stream

Bytes arrive in portions that have nothing to do with the frames in them. A `Deframer` buffers them
and gives out the frames that are complete. A frame that is empty or longer than allowed is skipped:
its header is taken and its payload counted down as it arrives, so the next header is found where it
belongs.

* `Deframer.feed` — more bytes arrive;
* `Deframer.next` — the next frame, if it is complete;
* `Deframer.drain` — all frames that are complete.
-/

namespace Lookout

/-- Whether a list has at least `n` elements; it looks at no more than these. -/
def hasAtLeast {α : Type} : Nat → List α → Bool
  | 0, _ => true
  | _ + 1, [] => false
  | n + 1, _ :: rest => hasAtLeast n rest

@[simp] theorem hasAtLeast_eq {α : Type} (n : Nat) (l : List α) :
    hasAtLeast n l = decide (n ≤ l.length) := by
  induction n generalizing l with
  | zero => simp [hasAtLeast]
  | succ n ih => cases l <;> simp [hasAtLeast, ih]

/-- What has arrived and is not yet given out. -/
structure Deframer where
  /-- How many bytes of a skipped payload are still to come. -/
  skipping : Nat := 0
  buffer : List UInt8 := []
  deriving DecidableEq

namespace Deframer

/-- More bytes arrive. Nothing is looked for in them before `Deframer.next` is called. -/
def feed (d : Deframer) (bytes : List UInt8) : Deframer :=
  { d with buffer := d.buffer ++ bytes }

/-- Whether a frame of this length is given out. -/
def accepts (maxFrame length : Nat) : Bool :=
  0 < length && length ≤ maxFrame

/-- `next` on the two parts of a state. -/
def nextFrom (maxFrame skipping : Nat) (buffer : List UInt8) : Deframer × Option LogFrame :=
  -- First what is left of a payload that is skipped; only then can a header begin.
  if hasAtLeast skipping buffer then
    match _h : buffer.drop skipping with
    | kind :: r₁ :: r₂ :: r₃ :: a :: b :: c :: d :: rest =>
      let length := bigEndian a b c d
      if accepts maxFrame length then
        -- The header stays in the buffer as long as its payload is not complete.
        if hasAtLeast length rest then
          (⟨0, rest.drop length⟩, some ⟨.ofByte kind, rest.take length⟩)
        else (⟨0, kind :: r₁ :: r₂ :: r₃ :: a :: b :: c :: d :: rest⟩, none)
      -- A frame that is refused is skipped by its declared length, however little of it is there.
      else nextFrom maxFrame length rest
    | short => (⟨0, short⟩, none)
  else (⟨skipping - buffer.length, []⟩, none)
termination_by buffer.length
decreasing_by
  have := congrArg List.length _h
  simp only [List.length_drop, List.length_cons] at this
  omega

/-- The next frame, if it is complete, and what remains. Frames that are not accepted are skipped on
the way. -/
def next (maxFrame : Nat) (d : Deframer) : Deframer × Option LogFrame :=
  nextFrom maxFrame d.skipping d.buffer

/-- A frame that is given out leaves fewer bytes behind. -/
theorem length_nextFrom {maxFrame skipping : Nat} {buffer : List UInt8} {d : Deframer}
    {f : LogFrame} (h : nextFrom maxFrame skipping buffer = (d, some f)) :
    d.buffer.length < buffer.length := by
  fun_induction nextFrom maxFrame skipping buffer with
  | case1 skipping buffer _ kind r₁ r₂ r₃ a b c e rest eq length accepted enough =>
    have := congrArg List.length eq
    simp only [List.length_drop, List.length_cons] at this
    cases h
    simp only [List.length_drop]
    omega
  -- No frame is given out in the cases that are left.
  | case2 => simp at h
  | case3 skipping buffer _ kind r₁ r₂ r₃ a b c e rest eq length refused ih =>
    have := congrArg List.length eq
    simp only [List.length_drop, List.length_cons] at this
    have := ih h
    omega
  | case4 => simp at h
  | case5 => simp at h

/-- All frames that are complete, and what remains. -/
def drain (maxFrame : Nat) (d : Deframer) : Deframer × List LogFrame :=
  match _h : d.next maxFrame with
  | (d', some f) =>
    let (last, frames) := d'.drain maxFrame
    -- Each frame leaves fewer bytes behind, so that this comes to an end.
    (last, f :: frames)
  | (d', none) => (d', [])
termination_by d.buffer.length
decreasing_by exact length_nextFrom _h

/-- What comes of a stream that has ended. -/
inductive Ending where
  | frame (f : LogFrame)
  | clean
  | cut
  deriving DecidableEq

/-- What is wrong with a stream that ends within a frame. -/
def cutMessage : String := "bytes remaining on stream"

/-- Takes the next frame from a stream that has ended. -/
def nextAtEnd (maxFrame : Nat) (d : Deframer) : Deframer × Ending :=
  match d.next maxFrame with
  | (d, some f) => (d, .frame f)
  -- A payload that is skipped to the end of the stream leaves the buffer empty.
  | (d, none) => (d, if d.buffer.isEmpty then .clean else .cut)

end Deframer

end Lookout
