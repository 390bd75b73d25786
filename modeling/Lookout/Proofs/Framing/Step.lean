import Lookout.Container.Framing

/-!
# One step of taking frames

`Deframer.next` first passes over the rest of a skipped payload, then reads headers. The lemmas
below say what it does at each of these places, and what more bytes behind the buffer change:

* `nextFrom_of_lt`, `nextFrom_of_le` — the rest of a skipped payload, cut or complete;
* `nextFrom_of_short`, `nextFrom_header` — a header, cut or complete;
* `next_feed_of_some` — a frame that is complete is found whatever follows it;
* `next_feed_of_none` — a step that finds no frame may as well not have been made;
* `drain_of_some`, `drain_of_none` — taking all frames, one step at a time.
-/

namespace Lookout.Deframer

variable {maxFrame : Nat}

/-! ### What is in front of the buffer -/

/-- The rest of a skipped payload has not come as a whole: what is there of it is gone, and
`skipping` is counted down by it. -/
theorem nextFrom_of_lt {skipping : Nat} {buffer : List UInt8} (h : buffer.length < skipping) :
    nextFrom maxFrame skipping buffer = (⟨skipping - buffer.length, []⟩, none) := by
  rw [nextFrom.eq_def, hasAtLeast_eq, if_neg (by simpa using h)]

theorem nextFrom_of_le {skipping : Nat} {buffer : List UInt8} (h : skipping ≤ buffer.length) :
    nextFrom maxFrame skipping buffer = nextFrom maxFrame 0 (buffer.drop skipping) := by
  rw [nextFrom.eq_def, nextFrom.eq_def maxFrame 0, hasAtLeast_eq, hasAtLeast_eq,
    if_pos (by simpa using h), if_pos (by simp)]
  -- The recursion carries an equation for what is dropped, which stands in the way of rewriting.
  generalize buffer.drop skipping = rest
  rfl

theorem nextFrom_of_short {buffer : List UInt8} (h : buffer.length < 8) :
    nextFrom maxFrame 0 buffer = (⟨0, buffer⟩, none) := by
  rw [nextFrom.eq_def, hasAtLeast_eq, if_pos (by simp)]
  -- A header in front would make the buffer longer than it is.
  split
  · next heq =>
    rw [List.drop_zero] at heq
    rw [heq] at h
    simp only [List.length_cons] at h
    omega
  · rfl

/-- A header is read: the frame is given out, left until it is complete, or skipped. Which of them
depends on `accepts` and on how much has come behind the header. -/
theorem nextFrom_header (kind r₁ r₂ r₃ a b c d : UInt8) (rest : List UInt8) :
    nextFrom maxFrame 0 (kind :: r₁ :: r₂ :: r₃ :: a :: b :: c :: d :: rest) =
      if accepts maxFrame (bigEndian a b c d) then
        if bigEndian a b c d ≤ rest.length then
          (⟨0, rest.drop (bigEndian a b c d)⟩,
            some ⟨.ofByte kind, rest.take (bigEndian a b c d)⟩)
        else (⟨0, kind :: r₁ :: r₂ :: r₃ :: a :: b :: c :: d :: rest⟩, none)
      else nextFrom maxFrame (bigEndian a b c d) rest := by
  -- `nextFrom` asks for lengths without counting all bytes; what it finds out is the same.
  rw [nextFrom.eq_def]
  simp only [hasAtLeast_eq, decide_eq_true_eq, Nat.zero_le, if_true]
  rfl

/-- Bytes of a skipped payload count it down, and the step goes on with the bytes behind them. -/
theorem nextFrom_append {skipping : Nat} {gone : List UInt8} (more : List UInt8)
    (h : gone.length ≤ skipping) :
    nextFrom maxFrame skipping (gone ++ more) =
      nextFrom maxFrame (skipping - gone.length) more := by
  have hlength : (gone ++ more).length = gone.length + more.length := List.length_append
  -- Either side skips as long as the other, and both reach the same header or none.
  by_cases hmore : skipping - gone.length ≤ more.length
  · rw [nextFrom_of_le hmore, nextFrom_of_le (by omega : skipping ≤ (gone ++ more).length),
      List.drop_append, List.drop_eq_nil_of_le h, List.nil_append]
  · rw [nextFrom_of_lt (by omega : more.length < skipping - gone.length),
      nextFrom_of_lt (by omega : (gone ++ more).length < skipping), hlength, Nat.sub_add_eq]

/-- Bytes to be skipped that are all there are dropped first, and more may follow them. -/
theorem nextFrom_append_of_le {skipping : Nat} {buffer : List UInt8} (more : List UInt8)
    (h : skipping ≤ buffer.length) :
    nextFrom maxFrame skipping (buffer ++ more) =
      nextFrom maxFrame 0 (buffer.drop skipping ++ more) := by
  rw [nextFrom_of_le (by rw [List.length_append]; omega), List.drop_append_of_le_length h]

/-! ### More bytes behind the buffer -/

/-- A frame that is complete is found whatever follows it. -/
theorem nextFrom_append_of_some {skipping : Nat} {buffer : List UInt8} {d : Deframer}
    {f : LogFrame} (more : List UInt8) (h : nextFrom maxFrame skipping buffer = (d, some f)) :
    nextFrom maxFrame skipping (buffer ++ more) = (d.feed more, some f) := by
  -- Along the frames that are skipped on the way to the one that is given out.
  fun_induction nextFrom maxFrame skipping buffer with
  | case1 skipping buffer enough kind r₁ r₂ r₃ a b c e rest heq length accepted whole =>
    -- The payload is all there, with or without more bytes behind it.
    rw [hasAtLeast_eq, decide_eq_true_eq] at enough whole
    cases h
    have whole' : bigEndian a b c e ≤ (rest ++ more).length := by
      rw [List.length_append]
      exact Nat.le_add_right_of_le whole
    rw [nextFrom_append_of_le more enough, heq]
    simp only [List.cons_append]
    rw [nextFrom_header, if_pos accepted, if_pos whole',
      List.drop_append_of_le_length whole, List.take_append_of_le_length whole]
    rfl
  | case2 => cases h
  | case3 skipping buffer enough kind r₁ r₂ r₃ a b c e rest heq length refused ih =>
    -- The frame in front is skipped, and the one that is given out is in the rest.
    rw [hasAtLeast_eq, decide_eq_true_eq] at enough
    rw [nextFrom_append_of_le more enough, heq]
    simp only [List.cons_append]
    rw [nextFrom_header, if_neg refused]
    exact ih h
  | case4 => cases h
  | case5 => cases h

/-- A step that finds no frame only moves on in front of the bytes to come. -/
theorem nextFrom_append_of_none {skipping : Nat} {buffer : List UInt8} {d : Deframer}
    (more : List UInt8) (h : nextFrom maxFrame skipping buffer = (d, none)) :
    nextFrom maxFrame d.skipping (d.buffer ++ more) =
      nextFrom maxFrame skipping (buffer ++ more) := by
  -- Along the frames that are skipped on the way to where the bytes end.
  fun_induction nextFrom maxFrame skipping buffer with
  | case1 => cases h
  | case2 skipping buffer enough kind r₁ r₂ r₃ a b c e rest heq length accepted part =>
    -- The bytes end within a payload: the header is read again, with its length.
    rw [hasAtLeast_eq, decide_eq_true_eq] at enough
    cases h
    rw [nextFrom_append_of_le more enough, heq]
  | case3 skipping buffer enough kind r₁ r₂ r₃ a b c e rest heq length refused ih =>
    rw [hasAtLeast_eq, decide_eq_true_eq] at enough
    rw [nextFrom_append_of_le more enough, heq, ih h]
    simp only [List.cons_append]
    rw [nextFrom_header, if_neg refused]
  | case4 skipping buffer enough short =>
    -- They end within a header, which is all that is kept.
    rw [hasAtLeast_eq, decide_eq_true_eq] at enough
    cases h
    rw [nextFrom_append_of_le more enough]
  | case5 skipping buffer part =>
    -- They end within a payload that is skipped, and nothing is kept.
    rw [hasAtLeast_eq, decide_eq_true_eq] at part
    cases h
    rw [List.nil_append, nextFrom_append more (by omega)]

@[simp] theorem feed_nil (d : Deframer) : d.feed [] = d := by
  rw [feed, List.append_nil]

/-- To `feed` twice is to feed both at once. -/
@[simp] theorem feed_feed (d : Deframer) (first second : List UInt8) :
    (d.feed first).feed second = d.feed (first ++ second) := by
  simp only [feed, List.append_assoc]

/-- A frame that was found is found too if more has come, and what is left has more behind it. -/
theorem next_feed_of_some {d d' : Deframer} {f : LogFrame} (more : List UInt8)
    (h : d.next maxFrame = (d', some f)) :
    (d.feed more).next maxFrame = (d'.feed more, some f) :=
  nextFrom_append_of_some more h

/-- If none was found, the bytes that were dropped on the way do not matter for what is found
later. -/
theorem next_feed_of_none {d d' : Deframer} (more : List UInt8)
    (h : d.next maxFrame = (d', none)) :
    (d'.feed more).next maxFrame = (d.feed more).next maxFrame :=
  nextFrom_append_of_none more h

/-! ### All frames -/

theorem drain_of_some {d d' : Deframer} {f : LogFrame} (h : d.next maxFrame = (d', some f)) :
    d.drain maxFrame = ((d'.drain maxFrame).1, f :: (d'.drain maxFrame).2) := by
  rw [drain.eq_def]
  split
  · next heq =>
    obtain ⟨rfl, rfl⟩ : _ = d' ∧ _ = f := by simpa using heq.symm.trans h
    rfl
  · next heq =>
    rw [h] at heq
    cases heq

/-- A deframer that finds no frame gives nothing, and is left where that step leaves it. -/
theorem drain_of_none {d d' : Deframer} (h : d.next maxFrame = (d', none)) :
    d.drain maxFrame = (d', []) := by
  rw [drain.eq_def]
  split
  · next heq =>
    rw [h] at heq
    cases heq
  · next heq =>
    obtain rfl : _ = d' := by simpa using heq.symm.trans h
    rfl

/-- Only the next step counts for all frames: `drain` begins with it. -/
theorem drain_congr {d d' : Deframer} (h : d.next maxFrame = d'.next maxFrame) :
    d.drain maxFrame = d'.drain maxFrame := by
  rcases hnext : d'.next maxFrame with ⟨last, _ | f⟩
  · rw [drain_of_none hnext, drain_of_none (h.trans hnext)]
  · rw [drain_of_some hnext, drain_of_some (h.trans hnext)]

end Lookout.Deframer
