import Mathlib.Algebra.Ring.Nat
import Mathlib.Data.List.Basic
import Lookout.Proofs.Framing.Portions
import Lookout.Proofs.Framing.Wire

/-!
# Where the bytes of a stream go

Whoever sends the bytes also chooses the lengths that the headers declare. A `Deframer` must not
believe them: it keeps the bytes of a frame only if it will give the frame out, and of any other
frame it keeps a number. So what it holds stays small whatever arrives (`Waiting.length_le`), and no
byte is lost sight of: each one is in a frame that was given out, in a frame that was skipped, or in
the buffer.

The books are kept by the header. Every header that was read opens a `Parcel`, to which the payload
bytes that are taken off the buffer are added. A frame that is given out is a parcel that is
complete from the start; a frame that is skipped may be waiting for bytes, and then it is the last
one, and what it waits for is the number that the deframer counts down. That is `Accounts`, and
each step keeps it: bytes arrive (`Accounts.feed`), bytes of a skipped payload go
(`Accounts.skip`), a header is refused (`Accounts.refuse`), a frame is given out
(`Accounts.give`).

* `FrameHeader` — eight bytes, and the length they declare;
* `Parcel` — a header that was read, with the payload bytes taken off behind it;
* `Accounts` — the parcels, the frames given out and the buffer account for all bytes;
* `Waiting` — what a deframer holds that finds no frame;
* `play_accounts` — both, after any calls.
-/

namespace Lookout

/-- The header of a frame as it stands on the wire: the byte for the stream, three bytes that mean
nothing, and four that declare the length of the payload. -/
structure FrameHeader where
  kind : UInt8
  r₁ : UInt8
  r₂ : UInt8
  r₃ : UInt8
  a : UInt8
  b : UInt8
  c : UInt8
  d : UInt8

namespace FrameHeader

/-- The header as it arrives. -/
def bytes (h : FrameHeader) : List UInt8 := [h.kind, h.r₁, h.r₂, h.r₃, h.a, h.b, h.c, h.d]

/-- The length that a header declares. -/
def length (h : FrameHeader) : Nat := bigEndian h.a h.b h.c h.d

/-- The length is one that is given out. -/
def Allowed (maxFrame : Nat) (h : FrameHeader) : Prop := 1 ≤ h.length ∧ h.length ≤ maxFrame

instance (maxFrame : Nat) (h : FrameHeader) : Decidable (h.Allowed maxFrame) :=
  inferInstanceAs (Decidable (_ ∧ _))

@[simp] theorem length_bytes (h : FrameHeader) : h.bytes.length = 8 := rfl

end FrameHeader

/-- **A header that was read,** with the bytes behind it that were taken off for its payload. -/
structure Parcel where
  header : FrameHeader
  taken : List UInt8

namespace Parcel

/-- What arrived of a parcel: the header, and what was taken of its payload. -/
def bytes (p : Parcel) : List UInt8 := p.header.bytes ++ p.taken

/-- How many bytes of the payload are still to come. -/
def missing (p : Parcel) : Nat := p.header.length - p.taken.length

/-- The size of the whole frame, as its header declares it. -/
def size (p : Parcel) : Nat := 8 + p.header.length

/-- The frame that is given out for a parcel, if its length is allowed. -/
def frame? (maxFrame : Nat) (p : Parcel) : Option LogFrame :=
  if p.header.Allowed maxFrame then
    some ⟨if p.header.kind = 2 then .stderr else .stdout, p.taken⟩
  else none

/-- The parcels whose frames are skipped. -/
def skipped (maxFrame : Nat) (parcels : List Parcel) : List Parcel :=
  parcels.filter fun p => ¬p.header.Allowed maxFrame

/-- The bytes that went with skipped frames. -/
def discarded (maxFrame : Nat) (parcels : List Parcel) : List UInt8 :=
  (skipped maxFrame parcels).flatMap bytes

/-- A parcel counts its header, of eight bytes, and what was `taken` of its payload. -/
@[simp] theorem length_bytes (p : Parcel) : p.bytes.length = 8 + p.taken.length := by
  rw [bytes, List.length_append, FrameHeader.length_bytes]

section

variable {maxFrame : Nat} {p : Parcel}

/-- A length that is `Allowed` makes a frame of what was taken. -/
theorem frame?_of_allowed (allowed : p.header.Allowed maxFrame) :
    p.frame? maxFrame = some ⟨.ofByte p.header.kind, p.taken⟩ := if_pos allowed

theorem frame?_of_refused (refused : ¬p.header.Allowed maxFrame) : p.frame? maxFrame = none :=
  if_neg refused

/-- A parcel that makes a frame is not among those that are `skipped`. -/
theorem skipped_cons_of_allowed (allowed : p.header.Allowed maxFrame) (parcels : List Parcel) :
    skipped maxFrame (p :: parcels) = skipped maxFrame parcels :=
  List.filter_cons_of_neg (by simpa using allowed)

theorem skipped_cons_of_refused (refused : ¬p.header.Allowed maxFrame) (parcels : List Parcel) :
    skipped maxFrame (p :: parcels) = p :: skipped maxFrame parcels :=
  List.filter_cons_of_pos (by simpa using refused)

end

/-- The bytes of all parcels are those of the frames given out and those that were discarded. -/
theorem length_flatMap_bytes (maxFrame : Nat) (parcels : List Parcel) :
    (parcels.flatMap bytes).length =
      ((parcels.filterMap (·.frame? maxFrame)).map fun f => 8 + f.payload.length).sum +
        (discarded maxFrame parcels).length := by
  induction parcels with
  | nil => rfl
  | cons p parcels ih =>
    rw [List.flatMap_cons, List.length_append, ih, length_bytes]
    -- A parcel counts with the frames given out or with what was discarded, never with both.
    by_cases allowed : p.header.Allowed maxFrame
    · have hframe := frame?_of_allowed allowed
      rw [List.filterMap_cons_some hframe, discarded, discarded, skipped_cons_of_allowed allowed,
        List.map_cons, List.sum_cons]
      exact (Nat.add_assoc _ _ _).symm
    · have hframe := frame?_of_refused allowed
      rw [List.filterMap_cons_none hframe, discarded, discarded, skipped_cons_of_refused allowed,
        List.flatMap_cons, List.length_append, length_bytes]
      exact Nat.add_left_comm _ _ _

/-- Where only skipped frames are incomplete, what their headers declared is what was discarded with
them and what is missing. -/
theorem sum_size_skipped {maxFrame : Nat} {parcels : List Parcel}
    (whole : ∀ p ∈ parcels, p.header.Allowed maxFrame → p.missing = 0)
    (fits : ∀ p ∈ parcels, p.taken.length ≤ p.header.length) :
    ((skipped maxFrame parcels).map size).sum =
      (discarded maxFrame parcels).length + (parcels.map missing).sum := by
  -- On the parcels: one that is allowed is complete and not skipped; one that is skipped is there
  -- but for what is missing.
  induction parcels with
  | nil => rfl
  | cons p parcels ih =>
    have hrest := ih (fun p hp => whole p (List.mem_cons_of_mem _ hp))
      fun p hp => fits p (List.mem_cons_of_mem _ hp)
    rw [discarded] at hrest ⊢
    rw [List.map_cons, List.sum_cons]
    by_cases allowed : p.header.Allowed maxFrame
    · rw [skipped_cons_of_allowed allowed, hrest, whole p List.mem_cons_self allowed, Nat.zero_add]
    · have hsize : p.size = p.bytes.length + p.missing := by
        have hfits := fits p List.mem_cons_self
        rw [size, length_bytes, missing]
        omega
      rw [skipped_cons_of_refused allowed, List.map_cons, List.sum_cons, List.flatMap_cons,
        List.length_append, hrest, hsize]
      omega

end Parcel

namespace Deframer

variable {maxFrame : Nat} {parcels : List Parcel} {arrived : List UInt8} {given : List LogFrame}

/-- **The books of a deframer.** The parcels, oldest first, account for every byte that arrived and
is not in the buffer any more, and for every frame that was given out. -/
structure Accounts (maxFrame : Nat) (parcels : List Parcel) (arrived : List UInt8)
    (given : List LogFrame) (d : Deframer) : Prop where
  arrived_eq : arrived = parcels.flatMap Parcel.bytes ++ d.buffer
  given_eq : given = parcels.filterMap (·.frame? maxFrame)
  /-- A frame that is given out has its whole payload. -/
  whole : ∀ p ∈ parcels, p.header.Allowed maxFrame → p.missing = 0
  /-- No frame takes a byte of the next one. -/
  fits : ∀ p ∈ parcels, p.taken.length ≤ p.header.length
  /-- Only the last frame may be waiting for bytes. -/
  closed : ∀ p ∈ parcels.dropLast, p.missing = 0
  /-- The bytes that are waited for are those still to be skipped. -/
  owed : (parcels.map Parcel.missing).sum = d.skipping

/-- **What is held while no frame is complete:** nothing but a number, a part of a header, or a
header that is allowed with a part of its payload. -/
inductive Waiting (maxFrame : Nat) : Deframer → Prop where
  | skipping {n : Nat} (pos : 0 < n) : Waiting maxFrame ⟨n, []⟩
  | header {part : List UInt8} (short : part.length < 8) : Waiting maxFrame ⟨0, part⟩
  | payload {h : FrameHeader} {part : List UInt8} (lower : 1 ≤ h.length)
    (upper : h.length ≤ maxFrame) (short : part.length < h.length) :
    Waiting maxFrame ⟨0, h.bytes ++ part⟩

/-! ### What is held -/

/-- What is held is never longer than a header and the longest payload but for one byte, which is
`maxFrame + 7`. -/
theorem Waiting.length_le {d : Deframer} (h : Waiting maxFrame d) :
    d.buffer.length ≤ maxFrame + 7 := by
  cases h with
  | skipping => exact Nat.zero_le _
  | header short => exact Nat.le_add_left_of_le (Nat.le_of_lt_succ short)
  | @payload h part lower upper short =>
    have hpart : part.length < maxFrame := Nat.lt_of_lt_of_le short upper
    rw [List.length_append, FrameHeader.length_bytes]
    omega

/-- Bytes that do not begin with a header are fewer than eight, which is the length of a
`FrameHeader`. -/
theorem length_lt_of_no_header {bytes : List UInt8}
    (h : ∀ kind r₁ r₂ r₃ a b c d rest,
      bytes = kind :: r₁ :: r₂ :: r₃ :: a :: b :: c :: d :: rest → False) : bytes.length < 8 := by
  match bytes, h with
  | kind :: r₁ :: r₂ :: r₃ :: a :: b :: c :: d :: rest, h =>
    exact (h kind r₁ r₂ r₃ a b c d rest rfl).elim
  | [], _ | [_], _ | [_, _], _ | [_, _, _], _ | [_, _, _, _], _ | [_, _, _, _, _], _
  | [_, _, _, _, _, _], _ | [_, _, _, _, _, _, _], _ => simp

/-- **A step that finds no frame** leaves no more than a part of one. The cases are those of
`nextFrom`; the one in which a frame is found is excluded by `h`. -/
theorem waiting_of_nextFrom {skipping : Nat} {buffer : List UInt8} {d : Deframer}
    (h : nextFrom maxFrame skipping buffer = (d, none)) : Waiting maxFrame d := by
  -- Along the frames that are skipped on the way to where the bytes end.
  fun_induction nextFrom maxFrame skipping buffer with
  | case1 => cases h
  | case2 skipping buffer _ kind r₁ r₂ r₃ a b c e rest _ length accepted part =>
    cases h
    rw [hasAtLeast_eq, decide_eq_true_eq, Nat.not_le] at part
    obtain ⟨lower, upper⟩ := accepts_iff.mp accepted
    exact Waiting.payload (h := ⟨kind, r₁, r₂, r₃, a, b, c, e⟩) lower upper part
  | case3 _ _ _ _ _ _ _ _ _ _ _ _ _ _ _ ih => exact ih h
  | case4 skipping buffer _ noHeader =>
    cases h
    exact .header (length_lt_of_no_header noHeader)
  | case5 skipping buffer part =>
    cases h
    rw [hasAtLeast_eq, decide_eq_true_eq, Nat.not_le] at part
    exact .skipping (Nat.sub_pos_of_lt part)

/-- Taking all frames with `drain` ends with a step that finds none. -/
theorem waiting_drain (maxFrame : Nat) (d : Deframer) : Waiting maxFrame (d.drain maxFrame).1 := by
  fun_induction drain maxFrame d with
  | case1 d d' f _ last frames hdrain ih =>
    rw [hdrain] at ih
    exact ih
  | case2 d d' hnext => exact waiting_of_nextFrom hnext

/-! ### The books -/

namespace Accounts

theorem empty (maxFrame : Nat) : Accounts maxFrame [] [] [] {} where
  arrived_eq := rfl
  given_eq := rfl
  whole := fun _ hp => absurd hp List.not_mem_nil
  fits := fun _ hp => absurd hp List.not_mem_nil
  closed := fun _ hp => absurd hp List.not_mem_nil
  owed := rfl

/-- What is fed lies in the buffer, and changes no parcel; `arrived` grows with it. -/
theorem feed {d : Deframer} (h : Accounts maxFrame parcels arrived given d)
    (bytes : List UInt8) : Accounts maxFrame parcels (arrived ++ bytes) given (d.feed bytes) :=
  { h with arrived_eq := by rw [h.arrived_eq, Deframer.feed, List.append_assoc] }

/-- While nothing is to be skipped no frame is waiting for bytes, as `skipping` is the sum of what
is missing. -/
theorem missing_eq_zero {buffer : List UInt8}
    (h : Accounts maxFrame parcels arrived given ⟨0, buffer⟩) : ∀ p ∈ parcels, p.missing = 0 := by
  intro p hp
  exact List.sum_eq_zero_iff_forall_eq_nat.mp h.owed p.missing (List.mem_map_of_mem hp)

/-- Before the last frame none is waiting for bytes, so the last one waits for all that are to be
skipped. -/
theorem older_missing {older : List Parcel} {last : Parcel} {d : Deframer}
    (h : Accounts maxFrame (older ++ [last]) arrived given d) :
    (older.map Parcel.missing).sum = 0 ∧ last.missing = d.skipping := by
  have holder : (older.map Parcel.missing).sum = 0 := by
    refine List.sum_eq_zero_iff_forall_eq_nat.mpr fun n hn => ?_
    obtain ⟨p, hp, rfl⟩ := List.mem_map.mp hn
    exact h.closed p (by rwa [List.dropLast_concat])
  have howed := h.owed
  rw [List.map_append, List.sum_append, holder, Nat.zero_add] at howed
  exact ⟨holder, by simpa using howed⟩

/-- The last frame, if it is waiting for bytes, is one that is skipped. Putting it back in front of
the buffer gives the books as they were before its header was read. -/
theorem reopen {older : List Parcel} {last : Parcel} {skipping : Nat} {buffer : List UInt8}
    (h : Accounts maxFrame (older ++ [last]) arrived given ⟨skipping, buffer⟩)
    (pos : 0 < skipping) :
    ¬last.header.Allowed maxFrame ∧
      Accounts maxFrame older arrived given ⟨0, last.bytes ++ buffer⟩ := by
  obtain ⟨holder, hlast⟩ := h.older_missing
  have hrefused : ¬last.header.Allowed maxFrame := by
    intro allowed
    -- A frame that is given out waits for nothing.
    have hzero := h.whole last (List.mem_append_right _ List.mem_cons_self) allowed
    exact Nat.ne_of_gt pos (hlast.symm.trans hzero)
  refine ⟨hrefused, ?_⟩
  constructor
  case arrived_eq =>
    rw [h.arrived_eq, List.flatMap_append, List.flatMap_singleton, List.append_assoc]
  case given_eq =>
    -- No frame was given out for it.
    have hnone := Parcel.frame?_of_refused hrefused
    rw [h.given_eq, List.filterMap_append, List.filterMap_cons_none hnone, List.filterMap_nil,
      List.append_nil]
  case whole => exact fun p hp => h.whole p (List.mem_append_left _ hp)
  case fits => exact fun p hp => h.fits p (List.mem_append_left _ hp)
  case closed =>
    intro p hp
    refine h.closed p ?_
    rw [List.dropLast_concat]
    exact List.dropLast_subset _ hp
  case owed => exact holder

/-- A parcel opened behind the others, while no frame is waiting for bytes. `whole` says that one
whose frame is given out is complete. -/
theorem concat {header : FrameHeader} {rest : List UInt8} (taken : List UInt8)
    (h : Accounts maxFrame parcels arrived given ⟨0, header.bytes ++ (taken ++ rest)⟩)
    (fits : taken.length ≤ header.length)
    (whole : header.Allowed maxFrame → taken.length = header.length) :
    Accounts maxFrame (parcels ++ [⟨header, taken⟩]) arrived
      (given ++ ((⟨header, taken⟩ : Parcel).frame? maxFrame).toList)
      ⟨header.length - taken.length, rest⟩ where
  arrived_eq := by
    rw [h.arrived_eq, List.flatMap_append, List.flatMap_singleton, Parcel.bytes]
    simp only [List.append_assoc]
  -- It makes a frame or none, and this is what was given on top.
  given_eq := by
    rw [h.given_eq, List.filterMap_append]
    cases hframe : (⟨header, taken⟩ : Parcel).frame? maxFrame with
    | none => rw [List.filterMap_cons_none hframe, List.filterMap_nil, Option.toList_none]
    | some f => rw [List.filterMap_cons_some hframe, List.filterMap_nil, Option.toList_some]
  -- A parcel that makes a frame is taken as a whole; of any other the rest is owed.
  whole := by
    intro p hp allowed
    rcases List.mem_append.mp hp with hp | hp
    · exact h.whole p hp allowed
    · obtain rfl := List.mem_singleton.mp hp
      exact Nat.sub_eq_zero_of_le (Nat.le_of_eq (whole allowed).symm)
  fits := by
    intro p hp
    rcases List.mem_append.mp hp with hp | hp
    · exact h.fits p hp
    · obtain rfl := List.mem_singleton.mp hp
      exact fits
  closed := by
    rw [List.dropLast_concat]
    exact h.missing_eq_zero
  owed := by
    rw [List.map_append, List.sum_append, h.owed]
    simp only [List.map_cons, List.map_nil, List.sum_singleton, Nat.zero_add, Parcel.missing]

theorem refuse {header : FrameHeader} {rest : List UInt8}
    (h : Accounts maxFrame parcels arrived given ⟨0, header.bytes ++ rest⟩)
    (refused : ¬header.Allowed maxFrame) :
    Accounts maxFrame (parcels ++ [⟨header, []⟩]) arrived given ⟨header.length, rest⟩ := by
  have hnone : (⟨header, []⟩ : Parcel).frame? maxFrame = none :=
    Parcel.frame?_of_refused refused
  have hconcat := h.concat [] (Nat.zero_le _) fun allowed => absurd allowed refused
  rwa [hnone, Option.toList_none, List.append_nil] at hconcat

/-- A frame that is given out is taken off as a whole: `concat` with all of its payload. -/
theorem give {header : FrameHeader} {rest : List UInt8}
    (h : Accounts maxFrame parcels arrived given ⟨0, header.bytes ++ rest⟩)
    (allowed : header.Allowed maxFrame) (whole : header.length ≤ rest.length) :
    Accounts maxFrame (parcels ++ [⟨header, rest.take header.length⟩]) arrived
      (given ++ [⟨.ofByte header.kind, rest.take header.length⟩])
      ⟨0, rest.drop header.length⟩ := by
  have hlength : (rest.take header.length).length = header.length := by
    rw [List.length_take, Nat.min_eq_left whole]
  have hframe : (⟨header, rest.take header.length⟩ : Parcel).frame? maxFrame =
      some ⟨.ofByte header.kind, rest.take header.length⟩ := Parcel.frame?_of_allowed allowed
  rw [← List.take_append_drop header.length rest] at h
  have hconcat := h.concat _ (Nat.le_of_eq hlength) fun _ => hlength
  rwa [hframe, Option.toList_some, hlength, Nat.sub_self] at hconcat

/-- Bytes of a skipped payload go to the frame that waits for them, which is the last one
(`older_missing`). -/
theorem skip {skipping n : Nat} {buffer : List UInt8}
    (h : Accounts maxFrame parcels arrived given ⟨skipping, buffer⟩) (hskipping : n ≤ skipping)
    (hbuffer : n ≤ buffer.length) :
    ∃ parcels', Accounts maxFrame parcels' arrived given ⟨skipping - n, buffer.drop n⟩ := by
  rcases Nat.eq_zero_or_pos skipping with rfl | pos
  · -- there is nothing to skip
    obtain rfl : n = 0 := Nat.le_zero.mp hskipping
    exact ⟨parcels, h⟩
  · rcases parcels.eq_nil_or_concat' with rfl | ⟨older, last, rfl⟩
    · -- nothing was read, so nothing is owed
      exact absurd h.owed (Nat.ne_of_lt pos)
    · obtain ⟨refused, hopen⟩ := h.reopen pos
      have hmissing : last.header.length - last.taken.length = skipping := h.older_missing.2
      have hgrown : (last.taken ++ buffer.take n).length = last.taken.length + n := by
        rw [List.length_append, List.length_take, Nat.min_eq_left hbuffer]
      -- The last frame is taken off once more, with more bytes of its payload.
      have hbytes : last.bytes ++ buffer =
          last.header.bytes ++ ((last.taken ++ buffer.take n) ++ buffer.drop n) := by
        simp only [Parcel.bytes, List.append_assoc, List.take_append_drop]
      rw [hbytes] at hopen
      have hconcat := hopen.concat _ (by omega) fun allowed => absurd allowed refused
      have hnone : (⟨last.header, last.taken ++ buffer.take n⟩ : Parcel).frame? maxFrame = none :=
        Parcel.frame?_of_refused refused
      have hleft : last.header.length - (last.taken ++ buffer.take n).length = skipping - n := by
        omega
      rw [hnone, Option.toList_none, List.append_nil, hleft] at hconcat
      exact ⟨_, hconcat⟩

/-- **A step keeps the books,** whether it finds a frame or not. By the branches of
`Deframer.nextFrom`: bytes that are skipped are `skip`, a header that is refused is `refuse`, a
frame that is complete is `give`. -/
theorem nextFrom {skipping : Nat} {buffer : List UInt8} {d' : Deframer} {found : Option LogFrame}
    (h : Accounts maxFrame parcels arrived given ⟨skipping, buffer⟩)
    (hnext : Deframer.nextFrom maxFrame skipping buffer = (d', found)) :
    ∃ parcels', Accounts maxFrame parcels' arrived (given ++ found.toList) d' := by
  -- Along the frames that are skipped; the books at each header are those the skipping left.
  revert parcels
  fun_induction Deframer.nextFrom maxFrame skipping buffer with
  | case1 skipping buffer enough kind r₁ r₂ r₃ a b c e rest heq length accepted whole =>
    intro parcels h
    rw [hasAtLeast_eq, decide_eq_true_eq] at enough whole
    cases hnext
    obtain ⟨parcels', h'⟩ := h.skip (Nat.le_refl _) enough
    rw [Nat.sub_self, heq] at h'
    change Accounts maxFrame parcels' arrived given
      ⟨0, FrameHeader.bytes ⟨kind, r₁, r₂, r₃, a, b, c, e⟩ ++ rest⟩ at h'
    exact ⟨_, h'.give (accepts_iff.mp accepted) whole⟩
  | case2 skipping buffer enough kind r₁ r₂ r₃ a b c e rest heq length accepted part =>
    intro parcels h
    rw [hasAtLeast_eq, decide_eq_true_eq] at enough
    cases hnext
    obtain ⟨parcels', h'⟩ := h.skip (Nat.le_refl _) enough
    rw [Nat.sub_self, heq] at h'
    exact ⟨parcels', by rwa [Option.toList_none, List.append_nil]⟩
  | case3 skipping buffer enough kind r₁ r₂ r₃ a b c e rest heq length refused ih =>
    intro parcels h
    rw [hasAtLeast_eq, decide_eq_true_eq] at enough
    obtain ⟨parcels', h'⟩ := h.skip (Nat.le_refl _) enough
    rw [Nat.sub_self, heq] at h'
    change Accounts maxFrame parcels' arrived given
      ⟨0, FrameHeader.bytes ⟨kind, r₁, r₂, r₃, a, b, c, e⟩ ++ rest⟩ at h'
    exact ih hnext (h'.refuse (mt accepts_iff.mpr refused))
  | case4 skipping buffer enough noHeader =>
    intro parcels h
    rw [hasAtLeast_eq, decide_eq_true_eq] at enough
    cases hnext
    obtain ⟨parcels', h'⟩ := h.skip (Nat.le_refl _) enough
    rw [Nat.sub_self] at h'
    exact ⟨parcels', by rwa [Option.toList_none, List.append_nil]⟩
  | case5 skipping buffer part =>
    intro parcels h
    -- All that arrived is skipped, and more is owed.
    rw [hasAtLeast_eq, decide_eq_true_eq, Nat.not_le] at part
    cases hnext
    obtain ⟨parcels', h'⟩ := h.skip (Nat.le_of_lt part) (Nat.le_refl _)
    rw [List.drop_length] at h'
    exact ⟨parcels', by rwa [Option.toList_none, List.append_nil]⟩

/-- **Any calls keep the books.** The induction is on the calls, with the deframer and its books
general. -/
theorem play {d : Deframer} (h : Accounts maxFrame parcels arrived given d) (calls : List Call) :
    ∃ parcels', Accounts maxFrame parcels' (arrived ++ fed calls)
      (given ++ (d.play maxFrame calls).2) (d.play maxFrame calls).1 := by
  -- On the calls, for whatever parcels there were before.
  induction calls generalizing d parcels arrived given with
  | nil => exact ⟨parcels, by simpa only [fed, Deframer.play, List.append_nil]⟩
  | cons call rest ih =>
    cases call with
    | feed bytes =>
      obtain ⟨parcels', h'⟩ := ih (h.feed bytes)
      rw [List.append_assoc] at h'
      exact ⟨parcels', h'⟩
    | next =>
      obtain ⟨parcels₁, h₁⟩ := h.nextFrom (Prod.eta (d.next maxFrame)).symm
      obtain ⟨parcels', h'⟩ := ih h₁
      rw [List.append_assoc] at h'
      exact ⟨parcels', h'⟩

/-! ### What the books say -/

/-- The bytes that arrived are those of the frames given out, those that went with skipped frames,
and those that are held. -/
theorem length_arrived {d : Deframer} (h : Accounts maxFrame parcels arrived given d) :
    arrived.length = (given.map fun f => 8 + f.payload.length).sum +
      (Parcel.discarded maxFrame parcels).length + d.buffer.length := by
  rw [h.arrived_eq, List.length_append, Parcel.length_flatMap_bytes maxFrame, ← h.given_eq]

/-- What the headers of skipped frames declared is what went with them and what is still owed. -/
theorem size_skipped {d : Deframer} (h : Accounts maxFrame parcels arrived given d) :
    ((Parcel.skipped maxFrame parcels).map Parcel.size).sum =
      (Parcel.discarded maxFrame parcels).length + d.skipping := by
  rw [Parcel.sum_size_skipped h.whole h.fits, h.owed]

end Accounts

/-- **What a deframer holds, and where the rest has gone.** Whatever bytes arrive, in whatever
portions and with frames asked for at any time in between: a step that finds no frame leaves a
number of bytes to skip, a part of a header, or an allowed header with a part of its payload, so
once all frames are taken at most `maxFrame + 7` bytes are held. And at any time the bytes that
arrived are those of the frames given out, those discarded with skipped frames, and those held,
where the sizes that the skipped frames declared exceed what was discarded by exactly what is still
to be skipped. -/
theorem play_accounts (maxFrame : Nat) (calls : List Call) :
    (∀ d, (({} : Deframer).play maxFrame calls).1.next maxFrame = (d, none) →
      Waiting maxFrame d) ∧
    Waiting maxFrame ((({} : Deframer).play maxFrame calls).1.drain maxFrame).1 ∧
    ((({} : Deframer).play maxFrame calls).1.drain maxFrame).1.buffer.length ≤ maxFrame + 7 ∧
    ∃ parcels,
      Accounts maxFrame parcels (fed calls) (({} : Deframer).play maxFrame calls).2
        (({} : Deframer).play maxFrame calls).1 ∧
      (fed calls).length =
        ((({} : Deframer).play maxFrame calls).2.map fun f => 8 + f.payload.length).sum +
          (Parcel.discarded maxFrame parcels).length +
          (({} : Deframer).play maxFrame calls).1.buffer.length ∧
      ((Parcel.skipped maxFrame parcels).map Parcel.size).sum =
        (Parcel.discarded maxFrame parcels).length +
          (({} : Deframer).play maxFrame calls).1.skipping := by
  obtain ⟨parcels, hbooks⟩ := (Accounts.empty maxFrame).play calls
  have hdrained := waiting_drain maxFrame (({} : Deframer).play maxFrame calls).1
  -- The buffer is short when no frame can be found, and the ledger is kept by every call.
  refine ⟨fun d hnext => waiting_of_nextFrom hnext, hdrained, hdrained.length_le, parcels, hbooks,
    hbooks.length_arrived, hbooks.size_skipped⟩

/-- A frame of one byte, and a header behind it that declares the longest length there is: of its
payload three bytes arrive, and nothing is held but the number of those that do not. -/
theorem play_accounts_longest :
    let calls : List Call := [.feed [1, 0, 0, 0, 0, 0, 0, 1, 97, 2, 0, 0], .next,
      .feed [0, 255, 255, 255, 255, 0, 0, 0], .next]
    ({} : Deframer).play 4 calls = (⟨0xfffffffc, []⟩, [⟨.stdout, [97]⟩]) ∧
      (⟨0xfffffffc, []⟩ : Deframer).next 4 = (⟨0xfffffffc, []⟩, none) ∧
      Waiting 4 ⟨0xfffffffc, []⟩ ∧
      ∃ parcels, Accounts 4 parcels (fed calls) [⟨.stdout, [97]⟩] ⟨0xfffffffc, []⟩ := by
  intro calls
  -- The first frame is given; the header of the second declares more than will ever come.
  have hfirst : nextFrom 4 0 [1, 0, 0, 0, 0, 0, 0, 1, 97, 2, 0, 0] =
      (⟨0, [2, 0, 0]⟩, some ⟨.stdout, [97]⟩) := by
    rw [nextFrom_header, if_pos (by decide), if_pos (by decide)]
    rfl
  have hsecond : nextFrom 4 0 [2, 0, 0, 0, 255, 255, 255, 255, 0, 0, 0] =
      (⟨0xfffffffc, []⟩, none) := by
    rw [nextFrom_header, if_neg (by decide), nextFrom_of_lt (by decide)]
    rfl
  have hplay : ({} : Deframer).play 4 calls = (⟨0xfffffffc, []⟩, [⟨.stdout, [97]⟩]) := by
    simp only [calls, play, next, feed, List.nil_append, hfirst, List.cons_append, hsecond]
    rfl
  have hnext : (⟨0xfffffffc, []⟩ : Deframer).next 4 = (⟨0xfffffffc, []⟩, none) :=
    nextFrom_of_lt (by decide)
  obtain ⟨hwaiting, -, -, parcels, hbooks, -⟩ := play_accounts 4 calls
  rw [hplay] at hwaiting hbooks
  exact ⟨hplay, hnext, hwaiting _ hnext, parcels, hbooks⟩

end Deframer

end Lookout
