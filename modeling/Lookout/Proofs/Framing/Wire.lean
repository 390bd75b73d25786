import Lookout.Proofs.Framing.Step

/-!
# The wire form of log frames

On the wire a frame is a header of eight bytes and a payload: a byte for the stream, three bytes
that mean nothing, and the length of the payload as a big-endian word. `RawFrame` is any such frame,
of whatever length and with whatever bytes in it. A byte stream made of them gives out those that
are neither empty nor too long, in order, and leaves nothing behind (`Deframer.drain_wire`).

* `RawFrame.bytes` — what stands on the wire, and `wire` — the same for a list of frames;
* `RawFrame.frame?` — the frame that is given out for it, if one is;
* `Interspersed` — written frames with frames in between that are not given out;
* `drain_bytes_append` — one frame at the front of a byte stream;
* `drain_feed_part` — a frame at its end that is cut.
-/

namespace Lookout

/-- A frame as it may stand on the wire: the byte for the stream, the three bytes that mean nothing,
and the payload. -/
structure RawFrame where
  kind : UInt8
  r₁ : UInt8
  r₂ : UInt8
  r₃ : UInt8
  payload : List UInt8
  /-- Its length fits a word. -/
  fits : payload.length < 0x100000000

namespace RawFrame

/-- The frame as it is written: kind, three reserved bytes, length, payload. -/
def bytes (r : RawFrame) : List UInt8 :=
  r.kind :: r.r₁ :: r.r₂ :: r.r₃ :: (bigEndianBytes r.payload.length ++ r.payload)

/-- The frame that is given out: none for a payload that is empty or too long, and the error stream
for the byte 2 alone. -/
def frame? (maxFrame : Nat) (r : RawFrame) : Option LogFrame :=
  if 1 ≤ r.payload.length ∧ r.payload.length ≤ maxFrame then
    some ⟨if r.kind = 2 then .stderr else .stdout, r.payload⟩
  else none

end RawFrame

/-- The bytes of some frames, one after the other. -/
def wire (frames : List RawFrame) : List UInt8 := frames.flatMap RawFrame.bytes

/-- **Written frames, interspersed.** The bytes are those of the written frames, each neither empty
nor too long, with any number of frames that are empty or too long before, between and behind. -/
inductive Interspersed (maxFrame : Nat) : List LogFrame → List UInt8 → Prop where
  | nil : Interspersed maxFrame [] []
  | written {f : LogFrame} {bytes rest : List UInt8} {frames : List LogFrame}
    (encoded : f.encode = some bytes) (lower : 1 ≤ f.payload.length)
    (upper : f.payload.length ≤ maxFrame) (tail : Interspersed maxFrame frames rest) :
    Interspersed maxFrame (f :: frames) (bytes ++ rest)
  | skipped {r : RawFrame} {rest : List UInt8} {frames : List LogFrame}
    (outside : r.payload.length = 0 ∨ maxFrame < r.payload.length)
    (tail : Interspersed maxFrame frames rest) :
    Interspersed maxFrame frames (r.bytes ++ rest)

/-! ### Lengths -/

/-- A length below `0x100000000` can be read from its four bytes by `bigEndian`. -/
theorem bigEndian_ofNat {n : Nat} (h : n < 0x100000000) :
    bigEndian (UInt8.ofNat (n / 0x1000000)) (UInt8.ofNat (n / 0x10000)) (UInt8.ofNat (n / 0x100))
      (UInt8.ofNat n) = n := by
  simp only [bigEndian, UInt8.toNat_ofNat']
  omega

/-- A length is accepted if it is positive and at most `maxFrame`. -/
theorem accepts_iff {maxFrame length : Nat} :
    Deframer.accepts maxFrame length = true ↔ 1 ≤ length ∧ length ≤ maxFrame := by
  simp only [Deframer.accepts, Bool.and_eq_true, decide_eq_true_eq, Nat.succ_le_iff]

/-- The bytes one by one, as a deframer looks at them: the kind, three that do not count, the
length, and the payload. -/
theorem RawFrame.bytes_eq (r : RawFrame) :
    r.bytes = r.kind :: r.r₁ :: r.r₂ :: r.r₃ ::
      UInt8.ofNat (r.payload.length / 0x1000000) :: UInt8.ofNat (r.payload.length / 0x10000) ::
      UInt8.ofNat (r.payload.length / 0x100) :: UInt8.ofNat r.payload.length :: r.payload := rfl

/-- The bytes that `encode` writes for a frame are those of a `RawFrame` with its payload and its
stream. -/
theorem exists_bytes_eq_of_encode {f : LogFrame} {bytes : List UInt8}
    (h : f.encode = some bytes) :
    ∃ r : RawFrame, r.bytes = bytes ∧ r.payload = f.payload ∧
      (if r.kind = 2 then OutputStream.stderr else .stdout) = f.stream := by
  unfold LogFrame.encode at h
  split at h
  · next hfits =>
    refine ⟨⟨f.stream.byte, 0, 0, 0, f.payload, hfits⟩, Option.some.inj h, rfl, ?_⟩
    exact OutputStream.ofByte_byte f.stream
  · cases h

namespace Deframer

variable {maxFrame : Nat}

/-! ### One frame in front -/

/-- A step at a frame that is given out: exactly its bytes are taken off. -/
theorem next_bytes_append {r : RawFrame} {f : LogFrame} (rest : List UInt8)
    (h : r.frame? maxFrame = some f) :
    (({} : Deframer).feed (r.bytes ++ rest)).next maxFrame =
      (({} : Deframer).feed rest, some f) := by
  unfold RawFrame.frame? at h
  split at h
  · next hlength =>
    -- The header declares the length that the payload has, and that many bytes are there.
    cases h
    rw [RawFrame.bytes_eq]
    simp only [next, feed, List.nil_append, List.cons_append]
    rw [nextFrom_header, bigEndian_ofNat r.fits, if_pos (accepts_iff.mpr hlength),
      if_pos (by rw [List.length_append]; omega), List.drop_left, List.take_left]
    rfl
  · cases h

/-- A step at a frame that is skipped does what the step behind it does, with nothing given out for
it. -/
theorem next_bytes_append_skipped {r : RawFrame} (rest : List UInt8)
    (h : r.frame? maxFrame = none) :
    (({} : Deframer).feed (r.bytes ++ rest)).next maxFrame =
      (({} : Deframer).feed rest).next maxFrame := by
  unfold RawFrame.frame? at h
  split at h
  · cases h
  · next hlength =>
    -- The payload counts the declared length down to nothing, whatever its bytes look like.
    rw [RawFrame.bytes_eq]
    simp only [next, feed, List.nil_append, List.cons_append]
    rw [nextFrom_header, bigEndian_ofNat r.fits, if_neg (mt accepts_iff.mp hlength),
      nextFrom_append rest (Nat.le_refl _), Nat.sub_self]

/-- One frame at the front of a byte stream: given out or not, and the next one is found where
it belongs. -/
theorem drain_bytes_append (r : RawFrame) (rest : List UInt8) :
    (({} : Deframer).feed (r.bytes ++ rest)).drain maxFrame =
      (((({} : Deframer).feed rest).drain maxFrame).1,
        (r.frame? maxFrame).toList ++ ((({} : Deframer).feed rest).drain maxFrame).2) := by
  cases h : r.frame? maxFrame with
  | none => exact drain_congr (next_bytes_append_skipped rest h)
  | some f => exact drain_of_some (next_bytes_append rest h)

/-- **Frames are given in order,** those that `RawFrame.frame?` does not refuse, and what comes
behind them is read as if nothing had been before it. The induction is on the frames, with
`drain_bytes_append` for each. -/
theorem drain_wire_append (frames : List RawFrame) (rest : List UInt8) :
    (({} : Deframer).feed (wire frames ++ rest)).drain maxFrame =
      (((({} : Deframer).feed rest).drain maxFrame).1,
        frames.filterMap (·.frame? maxFrame) ++
          ((({} : Deframer).feed rest).drain maxFrame).2) := by
  -- On the frames, the first of which is read before the others are looked at.
  induction frames with
  | nil => rfl
  | cons r frames ih =>
    rw [wire, List.flatMap_cons, List.append_assoc, drain_bytes_append, ← wire, ih]
    cases h : r.frame? maxFrame with
    | none => rw [List.filterMap_cons_none h, Option.toList_none, List.nil_append]
    | some f =>
      rw [List.filterMap_cons_some h, Option.toList_some, List.singleton_append, List.cons_append]

/-! ### A frame that is cut -/

/-- No frame is found in a frame that is cut, be it within its header or within its payload. -/
theorem next_feed_take {r : RawFrame} {n : Nat} (h : n < r.bytes.length) :
    ((({} : Deframer).feed (r.bytes.take n)).next maxFrame).2 = none := by
  -- The cut is within the header, or behind it and within the payload.
  by_cases hshort : n < 8
  · have hlength : (r.bytes.take n).length < 8 := by
      rw [List.length_take]
      omega
    simp only [next, feed, List.nil_append]
    rw [nextFrom_of_short hlength]
  · obtain ⟨k, rfl⟩ := Nat.exists_eq_add_of_le' (Nat.not_lt.mp hshort)
    rw [RawFrame.bytes_eq] at h ⊢
    simp only [List.length_cons, List.take_succ_cons, next, feed, List.nil_append] at h ⊢
    have hlength : (r.payload.take k).length < r.payload.length := by
      rw [List.length_take]
      omega
    rw [nextFrom_header, bigEndian_ofNat r.fits]
    -- The frame waits for the rest of its payload, or has some of it still to skip.
    split
    · rw [if_neg (Nat.not_le.mpr hlength)]
    · rw [nextFrom_of_lt hlength]

/-- A part of a frame that is not all of it gives no frame, by `next_feed_take`. -/
theorem drain_feed_part {r : RawFrame} {part : List UInt8} (hpart : part <+: r.bytes)
    (hne : part ≠ r.bytes) : ((({} : Deframer).feed part).drain maxFrame).2 = [] := by
  -- A part of the same length would be all of it.
  have hlength : part.length < r.bytes.length :=
    Nat.lt_of_le_of_ne hpart.length_le fun heq => hne (hpart.eq_of_length heq)
  have hnone : ((({} : Deframer).feed (r.bytes.take part.length)).next maxFrame).2 = none :=
    next_feed_take hlength
  rw [← List.prefix_iff_eq_take.mp hpart] at hnone
  rcases hnext : (({} : Deframer).feed part).next maxFrame with ⟨d, _ | f⟩
  · rw [drain_of_none hnext]
  · rw [hnext] at hnone
    cases hnone

/-! ### Whole streams -/

/-- Interspersed frames are frames on the wire, of which the written ones are given out. -/
theorem exists_wire_of_interspersed {written : List LogFrame} {bytes : List UInt8}
    (h : Interspersed maxFrame written bytes) :
    ∃ frames, wire frames = bytes ∧ frames.filterMap (·.frame? maxFrame) = written := by
  -- Each step writes one frame, allowed or not.
  induction h with
  | nil => exact ⟨[], rfl, rfl⟩
  | @written f bytes rest written encoded lower upper _ ih =>
    obtain ⟨frames, rfl, hwritten⟩ := ih
    obtain ⟨r, rfl, hpayload, hstream⟩ := exists_bytes_eq_of_encode encoded
    have hframe : r.frame? maxFrame = some f := by
      rw [RawFrame.frame?, hpayload, if_pos ⟨lower, upper⟩, hstream]
    exact ⟨r :: frames, rfl, by rw [List.filterMap_cons_some hframe, hwritten]⟩
  | @skipped r rest written outside _ ih =>
    obtain ⟨frames, rfl, hwritten⟩ := ih
    have hframe : r.frame? maxFrame = none := by
      rw [RawFrame.frame?, if_neg (by omega)]
    exact ⟨r :: frames, rfl, by rw [List.filterMap_cons_none hframe, hwritten]⟩

/-- **A byte stream gives out its frames.** Made of any frames, it gives out those that are neither
empty nor longer than `maxFrame`, in order, with their payloads and their streams, and nothing is
left. A frame behind them that is cut adds nothing. In particular frames that are written come back,
whatever stands between them that is empty or too long (`Interspersed`). -/
theorem drain_wire (maxFrame : Nat) :
    (∀ frames : List RawFrame,
      (({} : Deframer).feed (wire frames)).drain maxFrame =
        ({}, frames.filterMap (·.frame? maxFrame))) ∧
    (∀ (frames : List RawFrame) (last : RawFrame) (part : List UInt8),
      part <+: last.bytes → part ≠ last.bytes →
        ((({} : Deframer).feed (wire frames ++ part)).drain maxFrame).2 =
          frames.filterMap (·.frame? maxFrame)) ∧
    ∀ (written : List LogFrame) (bytes : List UInt8), Interspersed maxFrame written bytes →
      (({} : Deframer).feed bytes).drain maxFrame = ({}, written) := by
  have hwhole : ∀ frames : List RawFrame,
      (({} : Deframer).feed (wire frames)).drain maxFrame =
        ({}, frames.filterMap (·.frame? maxFrame)) := by
    intro frames
    -- Behind the frames there is nothing, and of nothing nothing is left.
    have hempty : (({} : Deframer).feed []).drain maxFrame = ({}, []) :=
      drain_of_none (nextFrom_of_short (by decide))
    rw [← List.append_nil (wire frames), drain_wire_append, hempty, List.append_nil]
  refine ⟨hwhole, ?_, ?_⟩
  · intro frames last part hpart hne
    rw [drain_wire_append, drain_feed_part hpart hne, List.append_nil]
  · intro written bytes h
    obtain ⟨frames, rfl, rfl⟩ := exists_wire_of_interspersed h
    exact hwhole frames

/-- A frame that is too long, a written one, and a header that is cut behind them: of two bytes at
most, only the written one is given out. -/
theorem drain_wire_cut :
    Interspersed 2 [⟨.stderr, [97]⟩] [1, 7, 7, 7, 0, 0, 0, 3, 2, 0, 0, 2, 0, 0, 0, 0, 0, 0, 1, 97] ∧
    (({} : Deframer).feed [1, 7, 7, 7, 0, 0, 0, 3, 2, 0, 0, 2, 0, 0, 0, 0, 0, 0, 1, 97]).drain 2 =
      ({}, [⟨.stderr, [97]⟩]) ∧
    ((({} : Deframer).feed [2, 5, 5, 5, 0, 0, 0, 1, 97, 0, 0, 0, 0, 0]).drain 2).2 =
      [⟨.stderr, [97]⟩] := by
  -- An allowed frame behind one that is too long, and then half a header.
  have hwritten : Interspersed 2 [⟨.stderr, [97]⟩] ([2, 0, 0, 0, 0, 0, 0, 1, 97] ++ []) :=
    .written (by decide) (by decide) (by decide) .nil
  have hframes : Interspersed 2 [⟨.stderr, [97]⟩]
      ((⟨1, 7, 7, 7, [2, 0, 0], by decide⟩ : RawFrame).bytes ++
        ([2, 0, 0, 0, 0, 0, 0, 1, 97] ++ [])) :=
    .skipped (Or.inr (by decide)) hwritten
  refine ⟨hframes, (drain_wire 2).2.2 _ _ hframes, ?_⟩
  exact (drain_wire 2).2.1 [⟨2, 5, 5, 5, [97], by decide⟩] ⟨0, 0, 0, 0, [], by decide⟩
    [0, 0, 0, 0, 0] (by decide) (by decide)

end Deframer

end Lookout
