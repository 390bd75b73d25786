import Lookout.Agent.World

/-!
# Which tokens cancel which

The tokens of a connection form a tree of three levels below the agent's: its session, its
subscriptions, their readers. Cancelling one of them cancels those below it and no other; in
particular nothing that is cancelled for one connection is cancelled for another.

* `Token.isWithin_iff` — being below as a relation between the two paths;
* `Token.session_unique` — no token is below two sessions;
* `World.isCancelled_cancel` — what a cancellation cancels.

All the lemmas below are about paths. A token's path lists its numbers from the lowest level up, so
that a token is below another if the path of the other is a suffix of its own, and the lengths of
paths are the levels.
-/

namespace Lookout

namespace Token

/-- `isWithin` is the order of suffixes: `t` is below `other` if its path ends in the path of
`other`. All that follows is read off the paths. -/
theorem isWithin_iff {t other : Token} : t.isWithin other = true ↔ other.path <:+ t.path := by
  rw [isWithin, List.isSuffixOf_iff_suffix]

/-- All tokens are below `Token.root`, the agent's own, so a shutdown cancels all of them. -/
@[simp] theorem isWithin_root (t : Token) : t.isWithin .root = true :=
  isWithin_iff.mpr List.nil_suffix

/-- Being below is transitive, as `<:+` is. -/
theorem isWithin_trans {t other third : Token} (h : t.isWithin other = true)
    (h' : other.isWithin third = true) : t.isWithin third = true :=
  isWithin_iff.mpr ((isWithin_iff.mp h').trans (isWithin_iff.mp h))

/-- No token is below one with a longer path. Levels are told apart this way, without a look at the
numbers on the paths. -/
theorem isWithin_eq_false {t other : Token} (h : t.path.length < other.path.length) :
    t.isWithin other = false := by
  -- The path of a token below another is no shorter.
  rw [Bool.eq_false_iff]
  intro hwithin
  exact absurd (isWithin_iff.mp hwithin).length_le (Nat.not_le.mpr h)

/-- **No token is below two sessions.** The last number on the path of a `sessionToken` is its
connection, so two of them with a common `t` below are the same. -/
theorem session_unique {t : Token} {conn other : ConnId}
    (h : t.isWithin (sessionToken conn) = true) (h' : t.isWithin (sessionToken other) = true) :
    conn = other := by
  -- Both are the last number of one path.
  have hlast := (isWithin_iff.mp h).getLast (List.cons_ne_nil conn [])
  have hlast' := (isWithin_iff.mp h').getLast (List.cons_ne_nil other [])
  exact hlast.trans hlast'.symm

end Token

/-! ### The tokens of a connection -/

variable (conn : ConnId) (generation other : Nat)

/-- The agent's token is not below that of a session, so a session that ends does not stop the
agent. -/
@[simp] theorem root_isWithin_session : Token.root.isWithin (sessionToken conn) = false := rfl

@[simp] theorem root_isWithin_subscription :
    Token.root.isWithin (subscriptionToken conn generation) = false := rfl

@[simp] theorem root_isWithin_reader :
    Token.root.isWithin (readerToken conn generation) = false := rfl

/-- A session that ends cancels its subscriptions: `subscriptionToken conn generation` is one step
below `sessionToken conn`. -/
@[simp] theorem subscription_isWithin_session :
    (subscriptionToken conn generation).isWithin (sessionToken conn) = true :=
  Token.isWithin_child generation (Token.isWithin_self _)

/-- A subscription that ends cancels its reader, whose `readerToken` is one step below. -/
@[simp] theorem reader_isWithin_subscription :
    (readerToken conn generation).isWithin (subscriptionToken conn generation) = true :=
  Token.isWithin_child 0 (Token.isWithin_self _)

/-- A session that ends cancels the readers of its subscriptions, by `isWithin_trans` through the
subscription. -/
@[simp] theorem reader_isWithin_session :
    (readerToken conn generation).isWithin (sessionToken conn) = true :=
  Token.isWithin_trans (reader_isWithin_subscription conn generation)
    (subscription_isWithin_session conn generation)

/-- A subscription that ends does not end its session: `isWithin` goes one way only. -/
@[simp] theorem session_isWithin_subscription :
    (sessionToken conn).isWithin (subscriptionToken conn generation) = false :=
  Token.isWithin_eq_false (Nat.lt_add_one 1)

@[simp] theorem session_isWithin_reader :
    (sessionToken conn).isWithin (readerToken conn generation) = false :=
  Token.isWithin_eq_false (Nat.lt_add_of_pos_right Nat.two_pos)

@[simp] theorem subscription_isWithin_reader :
    (subscriptionToken conn generation).isWithin (readerToken conn other) = false :=
  Token.isWithin_eq_false (Nat.lt_add_one 2)

/-- Two subscriptions of a session have tokens side by side: cancelling one leaves the other alone.
Both paths have two numbers, so one is a suffix of the other only if they are equal. -/
@[simp] theorem subscription_isWithin_subscription :
    (subscriptionToken conn generation).isWithin (subscriptionToken conn other) =
      decide (generation = other) := by
  by_cases h : generation = other
  · subst h
    rw [Token.isWithin_self, decide_eq_true rfl]
  · -- paths of one length are below each other only if they are the same
    rw [decide_eq_false h, Bool.eq_false_iff]
    intro hwithin
    have heq := (Token.isWithin_iff.mp hwithin).eq_of_length rfl
    exact h (List.cons.inj heq).1.symm

namespace World

/-- What is cancelled after `cancel t` was cancelled before it, or is below `t`. -/
@[simp] theorem isCancelled_cancel (w : World) (t other : Token) :
    (w.cancel t).isCancelled other = (other.isWithin t || w.isCancelled other) := rfl

/-- What a client does to its own records cancels nothing: `modify` leaves the field `cancelled`
alone. -/
@[simp] theorem isCancelled_modify (w : World) (conn : ConnId) (f : Client → Client) (t : Token) :
    (w.modify conn f).isCancelled t = w.isCancelled t := rfl

/-- What is below a cancelled token is cancelled. Cancellation is looked up along the path and not
stored for each token, so the lemma is `isWithin_trans` with what was cancelled in the middle. -/
theorem isCancelled_of_isWithin {w : World} {t other : Token} (h : t.isWithin other = true)
    (hc : w.isCancelled other = true) : w.isCancelled t = true := by
  simp only [isCancelled, Cancellations.isCancelled, List.any_eq_true] at hc ⊢
  obtain ⟨above, hmem, habove⟩ := hc
  exact ⟨above, hmem, Token.isWithin_trans h habove⟩

end World

end Lookout
