import Lookout.Proofs.Framing.Wire

/-!
# What is complete in a byte stream

A byte stream may stop anywhere. Whatever its bytes are, they can be parted: in front there are
frames, and behind them a rest at the front of which no frame stands (`exists_parted`). The frames
in front are those that are complete, and the rest is a frame that is cut, or nothing. So it can be
said what a byte stream gives out without saying how it is read (`Deframer.frames_of_parted`), and
more bytes only add to it.

* `Parted` — frames in front and a rest that has none;
* `RawFrame.bytes_isPrefix` — a header with as many bytes behind it as it declares is a frame;
* `Deframer.frames` — what a byte stream gives out.
-/

namespace Lookout

/-- **The frames that are complete in some bytes,** and the rest. -/
structure Parted (bytes : List UInt8) (frames : List RawFrame) (rest : List UInt8) : Prop where
  bytes_eq : bytes = wire frames ++ rest
  /-- No frame stands at the front of the rest. -/
  cut : ∀ r : RawFrame, ¬r.bytes <+: rest

/-! ### Frames at the front -/

/-- Four bytes make a number below `0x100000000`, so that a length can always be written back. -/
theorem bigEndian_lt (a b c d : UInt8) : bigEndian a b c d < 0x100000000 := by
  have ha := a.toNat_lt
  have hb := b.toNat_lt
  have hc := c.toNat_lt
  have hd := d.toNat_lt
  rw [bigEndian]
  omega

/-- A word is written by `bigEndianBytes` as `bigEndian` reads it. -/
theorem bigEndianBytes_bigEndian (a b c d : UInt8) :
    bigEndianBytes (bigEndian a b c d) = [a, b, c, d] := by
  have ha := a.toNat_lt
  have hb := b.toNat_lt
  have hc := c.toNat_lt
  have hd := d.toNat_lt
  have hbyte : ∀ {x : UInt8} {n : Nat}, n % 256 = x.toNat → UInt8.ofNat n = x := by
    intro x n h
    rw [← UInt8.toNat_inj, UInt8.toNat_ofNat']
    exact h
  rw [bigEndianBytes, bigEndian, hbyte (x := a) (by omega), hbyte (x := b) (by omega),
    hbyte (x := c) (by omega), hbyte (x := d) (by omega)]

theorem RawFrame.bytes_isPrefix (kind r₁ r₂ r₃ a b c d : UInt8) {rest : List UInt8}
    (whole : bigEndian a b c d ≤ rest.length) :
    ∃ r : RawFrame, r.bytes <+: kind :: r₁ :: r₂ :: r₃ :: a :: b :: c :: d :: rest := by
  have hlength : (rest.take (bigEndian a b c d)).length = bigEndian a b c d := by
    rw [List.length_take, Nat.min_eq_left whole]
  refine ⟨⟨kind, r₁, r₂, r₃, rest.take (bigEndian a b c d), ?_⟩, ?_⟩
  · rw [hlength]
    exact bigEndian_lt a b c d
  · dsimp only [RawFrame.bytes]
    rw [hlength, bigEndianBytes_bigEndian]
    simpa using List.take_prefix (bigEndian a b c d) rest

theorem RawFrame.length_bytes_pos (r : RawFrame) : 0 < r.bytes.length := by
  rw [RawFrame.bytes_eq, List.length_cons]
  exact Nat.succ_pos _

/-- **Any bytes can be parted.** The induction is on how many bytes there are: a complete frame at
the front is taken off, which makes the rest shorter (`RawFrame.length_bytes_pos`). -/
theorem exists_parted (bytes : List UInt8) : ∃ frames rest, Parted bytes frames rest := by
  -- A frame at the front is taken off until there is none.
  induction hlength : bytes.length using Nat.strongRecOn generalizing bytes with
  | ind n ih =>
    by_cases h : ∃ r : RawFrame, r.bytes <+: bytes
    · obtain ⟨r, tail, rfl⟩ := h
      have hless : tail.length < n := by
        rw [← hlength, List.length_append]
        exact Nat.lt_add_of_pos_left r.length_bytes_pos
      obtain ⟨frames, rest, hparted⟩ := ih _ hless tail rfl
      refine ⟨r :: frames, rest, ?_, hparted.cut⟩
      rw [wire, List.flatMap_cons, List.append_assoc, ← wire, ← hparted.bytes_eq]
    · exact ⟨[], bytes, rfl, fun r hr => h ⟨r, hr⟩⟩

namespace Deframer

variable {maxFrame : Nat} {bytes rest : List UInt8} {raw : List RawFrame}

/-- Where no frame is complete none is found: `next` gives out a frame only with all of its
bytes. -/
theorem next_feed_of_cut (cut : ∀ r : RawFrame, ¬r.bytes <+: rest) :
    ((({} : Deframer).feed rest).next maxFrame).2 = none := by
  have hpart : ∀ {kind r₁ r₂ r₃ a b c d tail}, rest.drop 0 =
      kind :: r₁ :: r₂ :: r₃ :: a :: b :: c :: d :: tail → tail.length < bigEndian a b c d := by
    intro kind r₁ r₂ r₃ a b c d tail heq
    refine Nat.not_le.mp fun whole => ?_
    obtain ⟨r, hr⟩ := RawFrame.bytes_isPrefix kind r₁ r₂ r₃ a b c d whole
    rw [List.drop_zero] at heq
    exact cut r (heq ▸ hr)
  simp only [next, feed, List.nil_append]
  fun_cases nextFrom maxFrame 0 rest with
  | case1 _ kind r₁ r₂ r₃ a b c d tail heq length accepted whole =>
    rw [hasAtLeast_eq, decide_eq_true_eq] at whole
    exact absurd whole (Nat.not_le.mpr (hpart heq))
  | case2 => rfl
  | case3 _ kind r₁ r₂ r₃ a b c d tail heq =>
    -- A payload that is skipped is not all there.
    rw [nextFrom_of_lt (hpart heq)]
  | case4 => rfl
  | case5 => rfl

/-- The frames that a byte stream gives out. -/
def frames (maxFrame : Nat) (bytes : List UInt8) : List LogFrame :=
  ((({} : Deframer).feed bytes).drain maxFrame).2

/-- **What a byte stream gives out** are the frames that are complete in it and neither empty nor
too long; which these are `RawFrame.frame?` says. -/
theorem frames_of_parted (h : Parted bytes raw rest) :
    frames maxFrame bytes = raw.filterMap (·.frame? maxFrame) := by
  have hrest : ((({} : Deframer).feed rest).drain maxFrame).2 = [] := by
    have hnone : ((({} : Deframer).feed rest).next maxFrame).2 = none := next_feed_of_cut h.cut
    rcases hnext : (({} : Deframer).feed rest).next maxFrame with ⟨d, _ | f⟩
    · rw [drain_of_none hnext]
    · rw [hnext] at hnone
      cases hnone
  rw [frames, h.bytes_eq, drain_wire_append, hrest, List.append_nil]

/-- More bytes only add to what is given out, as the frames that were complete stay so. -/
theorem frames_isPrefix (maxFrame : Nat) (bytes more : List UInt8) :
    frames maxFrame bytes <+: frames maxFrame (bytes ++ more) := by
  obtain ⟨raw, rest, hparted⟩ := exists_parted bytes
  rw [frames_of_parted hparted, frames, hparted.bytes_eq, List.append_assoc,
    drain_wire_append]
  exact List.prefix_append _ _

end Deframer

end Lookout
