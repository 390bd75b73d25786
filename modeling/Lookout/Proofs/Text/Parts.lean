import Mathlib.Data.List.TakeDrop
import Mathlib.Data.List.TakeWhile

/-!
# The first of a character

A text with some character in it has a part before the first one and a part behind it, and no other
two parts with the character between them are such that the first part is free of it. Cutting the
text there gives these parts (`span_append_cons`), and a text without the character stays whole
(`span_of_notMem`).
-/

namespace Lookout.Text

variable {α : Type} [BEq α] [LawfulBEq α] {before before' rest rest' text : List α} {a : α}

/-- Each element differs from one that is not among them; the form in which `span` asks. -/
theorem bne_of_notMem (free : a ∉ text) : ∀ b ∈ text, (b != a) = true :=
  fun _ hb => bne_iff_ne.mpr fun heq => free (heq ▸ hb)

/-- A list is cut by `span` at the first element `a`. -/
theorem span_append_cons (first : a ∉ before) :
    (before ++ a :: rest).span (· != a) = (before, a :: rest) := by
  rw [List.span_eq_takeWhile_dropWhile, List.takeWhile_append_of_pos (bne_of_notMem first),
    List.dropWhile_append_of_pos (bne_of_notMem first), List.takeWhile_cons_of_neg (by simp),
    List.dropWhile_cons_of_neg (by simp), List.append_nil]

/-- If there is no `a`, nothing is cut off. -/
theorem span_of_notMem (free : a ∉ text) : text.span (· != a) = (text, []) := by
  rw [List.span_eq_takeWhile_dropWhile, List.takeWhile_eq_self_iff.mpr (bne_of_notMem free),
    List.dropWhile_eq_nil_iff.mpr (bne_of_notMem free)]

/-- **The parts are determined** by the text: the first `a` is in one place only. -/
theorem parts_unique (first : a ∉ before) (first' : a ∉ before')
    (same : before ++ a :: rest = before' ++ a :: rest') : before = before' ∧ rest = rest' := by
  have hspan := congrArg (List.span (· != a)) same
  rw [span_append_cons first, span_append_cons first'] at hspan
  obtain ⟨hbefore, hrest⟩ := Prod.mk.inj hspan
  exact ⟨hbefore, (List.cons.inj hrest).2⟩

end Lookout.Text
