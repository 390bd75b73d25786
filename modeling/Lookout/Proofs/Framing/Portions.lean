import Lookout.Proofs.Framing.Step

/-!
# Frames do not depend on the portions

A byte stream may be cut anywhere, within a header or a payload, and between its portions frames may
be asked for at any time, also in vain. None of this shows: `Deframer.drain_play` says that the
frames are those of the stream in one piece, and that the same is left in the end.

* `Deframer.Call` — what is done to a deframer: bytes arrive, or a frame is asked for;
* `Deframer.play` — what comes of a list of calls, and `Deframer.fed` — the bytes that they bring;
* `Deframer.drain_feed_next` — asking for a frame early only gives it out early.
-/

namespace Lookout.Deframer

variable {maxFrame : Nat}

/-- What is done to a deframer. -/
inductive Call where
  | feed (bytes : List UInt8)
  | next

/-- What is left after some calls, and the frames that they gave out. -/
def play (maxFrame : Nat) (d : Deframer) : List Call → Deframer × List LogFrame
  | [] => (d, [])
  | .feed bytes :: rest => (d.feed bytes).play maxFrame rest
  | .next :: rest =>
    let (d', found) := d.next maxFrame
    let (last, frames) := d'.play maxFrame rest
    (last, found.toList ++ frames)

/-- The bytes that some calls bring. -/
def fed : List Call → List UInt8
  | [] => []
  | .feed bytes :: rest => bytes ++ fed rest
  | .next :: rest => fed rest

/-- **Asking early.** Whether `next` is called before more bytes arrive or after, all in all the
same frames are given out and the same is left. By the two lemmas about `feed` behind a step,
`next_feed_of_some` and `next_feed_of_none`. -/
theorem drain_feed_next (d : Deframer) (more : List UInt8) :
    (d.feed more).drain maxFrame =
      ((((d.next maxFrame).1.feed more).drain maxFrame).1,
        (d.next maxFrame).2.toList ++ (((d.next maxFrame).1.feed more).drain maxFrame).2) := by
  rcases hnext : d.next maxFrame with ⟨d', _ | f⟩
  · -- nothing was found, and the step that will find something is the same
    rw [Option.toList_none, List.nil_append]
    exact drain_congr (next_feed_of_none more hnext).symm
  · rw [Option.toList_some, List.singleton_append]
    exact drain_of_some (next_feed_of_some more hnext)

/-- **The portions do not count.** Whatever a deframer has seen before: bytes that arrive in any
portions, empty ones included, while frames are asked for at any time in between, give the frames
and leave the state that the same bytes do in one piece. The induction is on the calls; a portion is
nothing to show, and a call of `next` is `drain_feed_next`. -/
theorem drain_play (maxFrame : Nat) (d : Deframer) (calls : List Call) :
    (((d.play maxFrame calls).1.drain maxFrame).1,
        (d.play maxFrame calls).2 ++ ((d.play maxFrame calls).1.drain maxFrame).2) =
      (d.feed (fed calls)).drain maxFrame := by
  -- The state is any that calls have led to, so the induction is on the calls that follow.
  induction calls generalizing d with
  | nil => rw [fed, feed_nil, play, List.nil_append]
  | cons call rest ih =>
    cases call with
    | feed bytes => rw [play, fed, ih, feed_feed]
    | next =>
      -- What was found early stands in front of what the rest of the calls find.
      rw [fed, drain_feed_next, ← ih]
      simp only [play, List.append_assoc]

end Lookout.Deframer
