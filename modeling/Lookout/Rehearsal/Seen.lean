import Lookout.Protocol.Envelope

/-!
# What a client sees

A client sees messages and, at a socket, answers to its signs of life and the end of the connection.
What it sees at one instant is put in an order that does not depend on which task went on first:
`inOrder` sorts by time, then by kind, then by container, and leaves all else as it came.
-/

namespace Lookout.Rehearsal

/-- Something that a client sees. -/
inductive Seen where
  | message (e : Envelope)
  | pong (bytes : List UInt8)
  | closed

namespace Seen

/-- The place among what is seen at one instant: replies, errors and signals first, then metrics,
events, lines and samples. -/
def rank : Seen → Nat
  | message e =>
    match e.type? with
    | some .metrics => 1
    | some .containerEvent => 2
    | some .logLine => 3
    | some .containerStats => 4
    | _ => 0
  | _ => 0

/-- The container that a line or a sample is about. -/
def container : Seen → String
  | message e =>
    match e.type?, e.payload with
    | some .logLine, some (.object members) | some .containerStats, some (.object members) =>
      match Json.Members.get? members "container_id" with
      | some (.string id) => id
      | _ => ""
    | _, _ => ""
  | _ => ""

/-- Whether something stays before another thing when both are put in order. -/
def precedes (a b : Nat × Seen) : Bool :=
  if a.1 ≠ b.1 then a.1 < b.1
  else if a.2.rank ≠ b.2.rank then a.2.rank < b.2.rank
  else !(b.2.container < a.2.container)

end Seen

def inOrder (seen : List (Nat × Seen)) : List (Nat × Seen) := seen.mergeSort Seen.precedes

end Lookout.Rehearsal
