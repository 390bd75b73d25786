import Lookout.Container.Log
import Lookout.Proofs.Text.Parts
import Lookout.Proofs.Text.Utf8
import Mathlib.Data.List.DropRight

/-!
# Lines keep their text

The text of a frame is what its bytes spell without the newlines behind it (`Stripped`), and there
is only one such text. A line takes it apart at the first space, if something stands before it
(`splitWord_cases`): nothing is lost but that space, and so the line gives the text back. Hence two
lines are the same only if the texts are.

Newlines behind a payload are bytes of ASCII. Whatever they follow is over when they come, even a
character that is cut off, so they stand behind the text too and are taken away with the others.

* `Stripped` — a text without the newlines behind it, with `stripped_iff`;
* `LogFrame.splitWord_cases` — the two ways in which a text is taken apart;
* `LogFrame.Keeps` — what a line tells of the text;
* `LogFrame.line_keeps` — every line does, and no two texts share one.
-/

namespace Lookout

/-! ### Newlines behind a text -/

/-- What is left of a text without the newlines behind it. -/
def Stripped (whole text : List Char) : Prop :=
  (∃ n, whole = text ++ List.replicate n '\n') ∧ text.getLast? ≠ some '\n'

/-- Newlines at the end are cut off by `rdropWhile`, as many as there are. -/
theorem rdropWhile_append_replicate (text : List Char) (n : Nat) :
    (text ++ List.replicate n '\n').rdropWhile (· == '\n') = text.rdropWhile (· == '\n') := by
  induction n with
  | zero => rw [List.replicate_zero, List.append_nil]
  | succ n ih =>
    rw [List.replicate_succ', ← List.append_assoc, List.rdropWhile_concat_pos _ _ _ rfl, ih]

/-- **Only one text is left** without the newlines: `Stripped` determines it. -/
theorem stripped_iff {whole text : List Char} :
    Stripped whole text ↔ text = whole.rdropWhile (· == '\n') := by
  -- A text and newlines are cut to the text; and what is cut off are only newlines.
  constructor
  · rintro ⟨⟨n, rfl⟩, hlast⟩
    rw [rdropWhile_append_replicate]
    refine (List.rdropWhile_eq_self_iff.mpr fun hne hnewline => hlast ?_).symm
    rw [List.getLast?_eq_some_getLast hne, beq_iff_eq.mp hnewline]
  · rintro rfl
    have hparts := List.rdropWhile_append_rtakeWhile (p := (· == '\n')) (l := whole)
    have hnewlines : whole.rtakeWhile (· == '\n') =
        List.replicate (whole.rtakeWhile (· == '\n')).length '\n' :=
      List.eq_replicate_of_mem fun c hc => by simpa using List.mem_rtakeWhile_imp hc
    refine ⟨⟨(whole.rtakeWhile (· == '\n')).length, ?_⟩, fun hlast => ?_⟩
    · rw [← hnewlines]
      exact hparts.symm
    · have hne : whole.rdropWhile (· == '\n') ≠ [] := by
        rintro hnil
        rw [hnil] at hlast
        cases hlast
      have hnewline := List.rdropWhile_last_not (p := (· == '\n')) (l := whole) hne
      rw [List.getLast?_eq_some_getLast hne] at hlast
      exact hnewline (beq_iff_eq.mpr (Option.some.inj hlast))

namespace LogFrame

/-! ### The first word -/

/-- **A text is whole, or it is taken apart at its first space.** An empty first word counts as
none, so a text that begins with a space is whole. -/
theorem splitWord_cases (text : List Char) :
    ((' ' ∉ text ∨ text.head? = some ' ') ∧ splitWord text = ([], text)) ∨
      ∃ word rest, word ≠ [] ∧ ' ' ∉ word ∧ text = word ++ ' ' :: rest ∧
        splitWord text = (word, rest) := by
  -- Up to the first space, if there is one and something before it.
  by_cases hspace : ' ' ∈ text
  · obtain ⟨word, rest, rfl, hword⟩ := List.eq_append_cons_of_mem hspace
    cases word with
    | nil =>
      left
      refine ⟨Or.inr rfl, ?_⟩
      simp only [splitWord, Text.span_append_cons hword]
    | cons c cs =>
      right
      refine ⟨c :: cs, rest, nofun, hword, rfl, ?_⟩
      simp only [splitWord, Text.span_append_cons hword]
  · left
    refine ⟨Or.inl hspace, ?_⟩
    simp only [splitWord, Text.span_of_notMem hspace]

/-! ### Lines -/

/-- **What a line tells of the text of its frame,** which is what the payload spells without the
newlines behind it. -/
structure Keeps (f : LogFrame) (line : LogLine) : Prop where
  text : Stripped (Utf8.decodeLossy f.payload) f.text
  /-- A payload that is well-formed spells its own text. -/
  own : ∀ text, f.payload = Utf8.encode text → Utf8.decodeLossy f.payload = text
  word : ' ' ∉ line.timestamp.toList
  untimed_iff : line.timestamp = "" ↔ ' ' ∉ f.text ∨ f.text.head? = some ' '
  untimed : line.timestamp = "" → line.message.toList = f.text
  timed : line.timestamp ≠ "" → line.timestamp.toList ++ ' ' :: line.message.toList = f.text
  last : line.message.toList.getLast? ≠ some '\n'

/-- The text of a frame is its payload without newlines at the end, after lossy decoding. -/
theorem stripped_text (f : LogFrame) : Stripped (Utf8.decodeLossy f.payload) f.text :=
  stripped_iff.mpr rfl

/-- **A line keeps what the frame says.** The two cases are those of `splitWord_cases`: without a
first word the line has no time and the whole text as its message; with one the word is the time,
and the text can be put together again. -/
theorem keeps_line (f : LogFrame) (containerId : String) : f.Keeps (f.line containerId) := by
  have hlast : f.text.getLast? ≠ some '\n' := f.stripped_text.2
  -- A payload that is UTF-8 is decoded to the text that it encodes.
  have hown : ∀ text, f.payload = Utf8.encode text → Utf8.decodeLossy f.payload = text := by
    intro text hpayload
    rw [hpayload, Utf8.decodeLossy_encode]
  rcases splitWord_cases f.text with ⟨hwhole, hsplit⟩ | ⟨word, rest, hne, hword, htext, hsplit⟩
  · have hline : f.line containerId = ⟨containerId, "", f.stream, String.ofList f.text⟩ := by
      rw [line, hsplit]
    rw [hline]
    exact
      { text := f.stripped_text
        own := hown
        word := nofun
        untimed_iff := iff_of_true rfl hwhole
        untimed := fun _ => String.toList_ofList
        timed := fun h => absurd rfl h
        last := by rwa [String.toList_ofList] }
  · have hline : f.line containerId =
        ⟨containerId, String.ofList word, f.stream, String.ofList rest⟩ := by
      rw [line, hsplit]
    -- The text was taken apart, so its first word is not empty and a space stands behind it.
    have htimed : String.ofList word ≠ "" := fun hempty => hne (by
      rw [← String.toList_ofList (l := word), hempty]
      rfl)
    have hspace : ¬(' ' ∉ f.text ∨ f.text.head? = some ' ') := by
      rw [htext]
      rintro (hfree | hfirst)
      · exact hfree (List.mem_append_right word List.mem_cons_self)
      · rw [List.head?_append_of_ne_nil word hne] at hfirst
        exact hword (List.mem_of_mem_head? hfirst)
    have hrest : rest.getLast? ≠ some '\n' := fun hnewline => hlast (by
      rw [htext, List.getLast?_append, List.getLast?_cons, hnewline]
      rfl)
    rw [hline]
    exact
      { text := f.stripped_text
        own := hown
        word := by rwa [String.toList_ofList]
        untimed_iff := iff_of_false htimed hspace
        untimed := fun h => absurd h htimed
        timed := fun _ => by rw [String.toList_ofList, String.toList_ofList, htext]
        last := by rwa [String.toList_ofList] }

/-- A line gives the text of its frame back, whatever container it names; by `keeps_line` for both
frames. -/
theorem text_eq_of_line {f f' : LogFrame} {containerId containerId' : String}
    (same : f.line containerId = f'.line containerId') : f.text = f'.text := by
  have hkeeps := f.keeps_line containerId
  have hkeeps' := f'.keeps_line containerId'
  rw [← same] at hkeeps'
  by_cases htime : (f.line containerId).timestamp = ""
  · exact (hkeeps.untimed htime).symm.trans (hkeeps'.untimed htime)
  · exact (hkeeps.timed htime).symm.trans (hkeeps'.timed htime)

theorem text_append_newlines (f : LogFrame) (n : Nat) :
    text { f with payload := f.payload ++ List.replicate n 0x0A } = f.text := by
  change (Utf8.decodeLossy (f.payload ++ List.replicate n 0x0A)).rdropWhile (· == '\n') =
    (Utf8.decodeLossy f.payload).rdropWhile (· == '\n')
  rw [Utf8.decodeLossy_append_replicate f.payload n (by decide)]
  exact rdropWhile_append_replicate _ n

/-- **Lines keep their text.** Each tells the text of its frame, up to the newlines behind it and
the space behind its first word (`keeps_line`). So of the frames of a stream whose payloads are
well-formed, two have the same line only if their texts are the same up to newlines at the end, and
newlines behind a payload, well-formed or not, never change its line. -/
theorem line_keeps (f : LogFrame) (containerId : String) :
    f.Keeps (f.line containerId) ∧
      (∀ (f' : LogFrame) (text text' : List Char), f.payload = Utf8.encode text →
        f'.payload = Utf8.encode text' → f.line containerId = f'.line containerId →
          ∃ n n', text ++ List.replicate n '\n' = text' ++ List.replicate n' '\n') ∧
      ∀ n, line { f with payload := f.payload ++ List.replicate n 0x0A } containerId =
        f.line containerId := by
  refine ⟨f.keeps_line containerId, ?_, ?_⟩
  · intro f' text text' hpayload hpayload' same
    have htext := text_eq_of_line same
    obtain ⟨⟨n, hwhole⟩, -⟩ := f.stripped_text
    obtain ⟨⟨n', hwhole'⟩, -⟩ := f'.stripped_text
    rw [hpayload, Utf8.decodeLossy_encode] at hwhole
    rw [hpayload', Utf8.decodeLossy_encode] at hwhole'
    -- Each gets as many newlines as the other one has.
    refine ⟨n', n, ?_⟩
    rw [hwhole, hwhole', htext, List.append_assoc, List.append_assoc,
      List.replicate_append_replicate, List.replicate_append_replicate, Nat.add_comm]
  · intro n
    rw [line, line, text_append_newlines]

end LogFrame

end Lookout
