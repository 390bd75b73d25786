/-!
# Cancellation

Whatever can be cancelled has a token, and tokens form a tree: cancelling one cancels all below it,
those that are made later included. A token is its place in the tree, so the tree need not be kept;
what is kept is which tokens were cancelled.

* `Token.child` — a token below another;
* `Cancellations.isCancelled` — whether a token or one above it was cancelled.
-/

namespace Lookout

/-- The place of a token in the tree: the numbers of its ancestors and itself, the token's own
first. -/
structure Token where
  /-- The numbers on the way to the root. -/
  path : List Nat
  deriving DecidableEq

namespace Token

/-- The token of the agent itself, which all others are below. -/
def root : Token := ⟨[]⟩

/-- The token below this one that has a number. -/
def child (t : Token) (n : Nat) : Token := ⟨n :: t.path⟩

/-- Whether this token is the other or below it. -/
def isWithin (t other : Token) : Bool := other.path.isSuffixOf t.path

@[simp] theorem isWithin_self (t : Token) : t.isWithin t = true := by
  simp [isWithin]

theorem isWithin_child {t other : Token} (n : Nat) (h : t.isWithin other = true) :
    (t.child n).isWithin other = true := by
  -- The path of a child ends with that of its parent.
  simp only [isWithin, child, List.isSuffixOf_iff_suffix] at *
  exact h.trans (List.suffix_cons n t.path)

end Token

/-- The tokens that were cancelled. -/
structure Cancellations where
  tokens : List Token := []
  deriving DecidableEq

namespace Cancellations

/-- A token is cancelled once more if it was cancelled already, which makes no difference. -/
def cancel (c : Cancellations) (t : Token) : Cancellations := ⟨t :: c.tokens⟩

/-- Whether a token or one above it was cancelled. -/
def isCancelled (c : Cancellations) (t : Token) : Bool :=
  -- A token that is made later is covered too, since only its place in the tree is asked for.
  c.tokens.any fun other => t.isWithin other

end Cancellations

end Lookout
