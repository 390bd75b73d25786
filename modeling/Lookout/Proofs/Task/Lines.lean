import Lookout.Task.StatsReader
import Mathlib.Data.List.TakeDrop
import Mathlib.Data.List.TakeWhile

/-!
# The samples in the lines of a byte stream

What a reader of samples is to find in a byte stream can be said without a reader. The bytes are
split at the line feeds; what stands behind the last one counts as a line if the byte stream ends by
itself, and does not if it fails. Each line is blank, holds a sample, or is neither of both, and the
samples that count are those before the first line which is neither.

A reader that goes on by one line does what this says of the first line of its buffer, whatever
bytes are still to come (`StatsReader.outlook_of_step`). Since they are not known yet, a line that
has grown too long must be too long whatever follows (`samplesOf_of_long`).

* `StatsLine.isBlank`, `StatsLine.sample?`, `StatsLine.isReadable` — what a line is;
* `linesOf`, `samplesOf` — the lines of a byte stream, and the samples that count;
* `samplesOf_filter` — blank lines do not count;
* `StatsReader.outlook_of_step` — what one step of a reader does.
-/

namespace Lookout

/-! ### What a line is -/

namespace StatsLine

/-- The characters of a line, if it is not too long and spells a text. A carriage return at its end
counts for its length alone. -/
def text? (line : List UInt8) : Option (List Char) :=
  if line.length ≤ maxLine then Utf8.decode? (withoutReturn line) else none

/-- Whether the line is text of nothing but whitespace. A reader skips such a line. -/
def isBlank (line : List UInt8) : Bool := (text? line).any (·.all Text.isBlank)

/-- The sample that a line holds, if it is not blank. -/
def sample? (line : List UInt8) : Option StatsSample :=
  if (text? line).any (fun text => !text.all Text.isBlank) then
    (StatsSample.ofBytes (withoutReturn line)).toOption
  else none

/-- Whether a reader goes on behind a line. -/
def isReadable (line : List UInt8) : Bool := isBlank line || (sample? line).isSome

variable {line : List UInt8}

/-- A blank line holds no sample, as the JSON parser needs at least one character that is not
blank. -/
theorem sample?_of_blank (blank : isBlank line = true) : sample? line = none := by
  rw [sample?]
  rw [isBlank] at blank
  cases text : text? line with
  | none => rfl
  | some text' =>
    rw [text, Option.any_some] at blank
    rw [Option.any_some, blank]
    rfl

/-- A line that is too long is not text at all, so that it is neither blank nor a sample. -/
theorem not_isReadable_of_long (long : maxLine < line.length) : isReadable line = false := by
  have htext : text? line = none := if_neg (Nat.not_le.mpr long)
  rw [isReadable, isBlank, sample?, htext]
  rfl

end StatsLine

/-- **What a reader makes of a line:** it skips one that `isBlank`, stores the sample of a readable
one (`sample?`), and stops at any other. The line is short enough here; one that is too long is
refused before it is read. -/
theorem StatsReader.readLine_eq {line : List UInt8} (short : line.length ≤ maxLine)
    (r : StatsReader) : readLine (withoutReturn line) r =
      if StatsLine.isBlank line then .skip r
      else (StatsLine.sample? line).elim .stop fun s => .store s r := by
  have htext : StatsLine.text? line = Utf8.decode? (withoutReturn line) := if_pos short
  rw [readLine, lineMeaning, StatsLine.isBlank, StatsLine.sample?, htext]
  -- A reader asks whether the line is blank before it looks for a sample.
  cases Utf8.decode? (withoutReturn line) with
  | none => rfl
  | some text =>
    dsimp only
    rw [Option.any_some, Option.any_some]
    cases text.all Text.isBlank with
    | true => rfl
    | false =>
      rw [if_neg Bool.false_ne_true, if_neg Bool.false_ne_true, Bool.not_false, if_pos rfl]
      cases StatsSample.ofBytes (withoutReturn line) <;> rfl

/-! ### The samples that count -/

/-- **The samples in some lines,** as far as all lines are readable. -/
def samplesOf (lines : List (List UInt8)) : List StatsSample :=
  (lines.takeWhile StatsLine.isReadable).filterMap StatsLine.sample?

@[simp] theorem samplesOf_nil : samplesOf [] = [] := rfl

section

variable {line : List UInt8} (lines : List (List UInt8))

theorem samplesOf_of_blank (blank : StatsLine.isBlank line = true) :
    samplesOf (line :: lines) = samplesOf lines := by
  rw [samplesOf, List.takeWhile_cons_of_pos (by rw [StatsLine.isReadable, blank, Bool.true_or]),
    List.filterMap_cons_none (StatsLine.sample?_of_blank blank), samplesOf]

/-- A line with a sample brings that one, in front of those of the lines behind it. -/
theorem samplesOf_of_sample {s : StatsSample} (sample : StatsLine.sample? line = some s) :
    samplesOf (line :: lines) = s :: samplesOf lines := by
  rw [samplesOf, List.takeWhile_cons_of_pos
    (by rw [StatsLine.isReadable, sample, Option.isSome_some, Bool.or_true]),
    List.filterMap_cons_some sample, samplesOf]

theorem samplesOf_of_unreadable (unreadable : StatsLine.isReadable line = false) :
    samplesOf (line :: lines) = [] := by
  rw [samplesOf, List.takeWhile_cons_of_neg (by rw [unreadable]; exact Bool.false_ne_true),
    List.filterMap_nil]

/-- **Blank lines do not count,** wherever they are: to leave them out changes nothing of
`samplesOf`. -/
theorem samplesOf_filter :
    samplesOf (lines.filter fun line => !StatsLine.isBlank line) = samplesOf lines := by
  induction lines with
  | nil => rfl
  | cons line rest ih =>
    cases blank : StatsLine.isBlank line with
    | true =>
      rw [List.filter_cons_of_neg (by rw [blank]; exact Bool.false_ne_true), ih,
        samplesOf_of_blank rest blank]
    | false =>
      rw [List.filter_cons_of_pos (by rw [blank]; rfl)]
      -- The line stays on both sides, and they end with it if it is not readable.
      cases sample : StatsLine.sample? line with
      | some s => rw [samplesOf_of_sample _ sample, samplesOf_of_sample _ sample, ih]
      | none =>
        have hunreadable : StatsLine.isReadable line = false := by
          rw [StatsLine.isReadable, blank, sample]
          rfl
        rw [samplesOf_of_unreadable _ hunreadable, samplesOf_of_unreadable _ hunreadable]

end

/-! ### The lines of a byte stream -/

/-- **The lines of a byte stream.** What stands behind the last line feed is one too, unless it is
nothing or the byte stream fails. -/
def linesOf (bytes : List UInt8) (fails : Bool) : List (List UInt8) :=
  let parts := bytes.splitOn 0x0A
  if fails = true ∨ parts.getLast? = some [] then parts.dropLast else parts

section

variable {text : List UInt8} (fails : Bool)

theorem linesOf_append_cons (free : 0x0A ∉ text) (rest : List UInt8) :
    linesOf (text ++ 0x0A :: rest) fails = text :: linesOf rest fails := by
  have hne : rest.splitOn 0x0A ≠ [] := List.splitOn_ne_nil _ _
  rw [linesOf, List.splitOn_append_cons_self_of_not_mem free, List.getLast?_cons_of_ne_nil hne,
    List.dropLast_cons_of_ne_nil hne, linesOf]
  split <;> rfl

/-- Bytes without a line feed are a last line, unless there are none or the stream fails. -/
theorem linesOf_of_free (free : 0x0A ∉ text) :
    linesOf text fails = if fails = true ∨ text = [] then [] else [text] := by
  simp only [linesOf, List.splitOn_eq_singleton free, List.getLast?_singleton,
    List.dropLast_singleton, Option.some.injEq]

/-- A line that has grown too long stays so, whatever follows, so it brings no sample and ends them
all. -/
theorem samplesOf_of_long (free : 0x0A ∉ text) (long : maxLine < text.length)
    (more : List UInt8) : samplesOf (linesOf (text ++ more) fails) = [] := by
  -- Whatever follows, the line only gets longer.
  have hlonger : ∀ more : List UInt8, maxLine < (text ++ more).length := fun more => by
    rw [List.length_append]
    exact Nat.lt_add_right _ long
  by_cases hmore : 0x0A ∈ more
  · -- it is the first line that ends
    obtain ⟨front, rest, rfl, hfront⟩ := List.eq_append_cons_of_mem hmore
    rw [← List.append_assoc, linesOf_append_cons fails (List.not_mem_append free hfront)]
    exact samplesOf_of_unreadable _ (StatsLine.not_isReadable_of_long (hlonger front))
  · -- it is the only one, or none
    rw [linesOf_of_free fails (List.not_mem_append free hmore)]
    split
    · rfl
    · exact samplesOf_of_unreadable _ (StatsLine.not_isReadable_of_long (hlonger more))

end

/-- All that there can be at the start of what has arrived: a line, a line that is too long, or the
beginning of one. -/
theorem nextLine_cases (max : Nat) (buffer : List UInt8) :
    (∃ text rest, buffer = text ++ 0x0A :: rest ∧ 0x0A ∉ text ∧ text.length ≤ max ∧
        nextLine max buffer = .line (withoutReturn text) rest) ∨
      (∃ text rest, buffer = text ++ rest ∧ 0x0A ∉ text ∧ max < text.length ∧
        nextLine max buffer = .tooLong) ∨
      (0x0A ∉ buffer ∧ buffer.length ≤ max ∧ nextLine max buffer = .incomplete) := by
  have hfree : 0x0A ∉ buffer.takeWhile (· != 0x0A) := fun hmem => by
    simpa using List.mem_takeWhile_imp hmem
  have hbuffer := List.takeWhile_append_dropWhile (p := (· != 0x0A)) (l := buffer)
  unfold nextLine
  rw [List.span_eq_takeWhile_dropWhile]
  generalize buffer.takeWhile (· != 0x0A) = text at hfree hbuffer
  -- What is left either begins with the first line feed, or is nothing.
  cases hdrop : buffer.dropWhile (· != 0x0A) with
  | nil =>
    rw [hdrop, List.append_nil] at hbuffer
    subst hbuffer
    dsimp only
    split
    · next hshort => exact Or.inr (Or.inr ⟨hfree, hshort, rfl⟩)
    · next hlong =>
      exact Or.inr (Or.inl ⟨text, [], (List.append_nil text).symm, hfree, Nat.lt_of_not_le hlong,
        rfl⟩)
  | cons b rest =>
    obtain rfl : b = 0x0A := by
      have hhead := List.head?_dropWhile_not (· != 0x0A) buffer
      rw [hdrop] at hhead
      simpa using hhead
    rw [hdrop] at hbuffer
    dsimp only
    split
    · next hshort => exact Or.inl ⟨text, rest, hbuffer.symm, hfree, hshort, rfl⟩
    · next hlong =>
      exact Or.inr (Or.inl ⟨text, 0x0A :: rest, hbuffer.symm, hfree, Nat.lt_of_not_le hlong, rfl⟩)

/-! ### One step of a reader -/

namespace StatsReader

/-- The samples that are to come, if these bytes are and the byte stream fails or not. -/
def outlook (r : StatsReader) (more : List UInt8) (fails : Bool) : List StatsSample :=
  samplesOf (linesOf (r.buffer ++ more) fails)

/-- **What one step does** to the samples that are to come. -/
inductive Steps (r : StatsReader) (more : List UInt8) (fails : Bool) : Step → Prop where
  | wait (asks : r.isReady = false) : Steps r more fails .wait
  | skip (r' : StatsReader) (shrinks : r'.buffer.length < r.buffer.length)
    (ended : r'.ended = r.ended) (outlook : r.outlook more fails = r'.outlook more fails) :
    Steps r more fails (.skip r')
  | store (s : StatsSample) (r' : StatsReader) (shrinks : r'.buffer.length < r.buffer.length)
    (ended : r'.ended = r.ended) (outlook : r.outlook more fails = s :: r'.outlook more fails) :
    Steps r more fails (.store s r')
  | stop (outlook : r.outlook more fails = []) : Steps r more fails .stop

variable {r r' : StatsReader} {more : List UInt8} {fails : Bool}

/-- The first line is read, and what is left of the bytes has the other lines. -/
theorem steps_readLine {line : List UInt8} (short : line.length ≤ maxLine)
    (shrinks : r'.buffer.length < r.buffer.length) (ended : r'.ended = r.ended)
    (lines : linesOf (r.buffer ++ more) fails = line :: linesOf (r'.buffer ++ more) fails) :
    Steps r more fails (readLine (withoutReturn line) r') := by
  rw [readLine_eq short]
  split
  -- A blank line is skipped, and nothing is lost by that.
  · next blank =>
    refine .skip r' shrinks ended ?_
    rw [outlook, lines, samplesOf_of_blank _ blank, outlook]
  · next blank =>
    cases sample : StatsLine.sample? line with
    -- The first sample of the outlook is the one that is stored.
    | some s =>
      refine .store s r' shrinks ended ?_
      rw [outlook, lines, samplesOf_of_sample _ sample, outlook]
    -- The line is neither blank nor a sample, so that no sample is left.
    | none =>
      refine .stop ?_
      rw [outlook, lines, samplesOf_of_unreadable]
      rw [StatsLine.isReadable, sample, Bool.eq_false_iff.mpr blank]
      rfl

/-- **A reader goes on as its bytes say,** whatever follows. When it has `ended`, that is seen the
end of the byte stream, nothing does. -/
theorem outlook_of_step (r : StatsReader) (more : List UInt8) (fails : Bool)
    (closed : r.ended = true → more = [] ∧ fails = false) : Steps r more fails r.step := by
  rw [step]
  rcases nextLine_cases maxLine r.buffer with ⟨text, rest, hbuffer, hfree, hshort, hnext⟩ |
    ⟨text, rest, hbuffer, hfree, hlong, hnext⟩ | ⟨hfree, hshort, hnext⟩
  · -- a line has ended
    rw [hnext]
    refine steps_readLine hshort ?_ rfl ?_
    · rw [hbuffer, List.length_append, List.length_cons]
      exact Nat.lt_add_left _ (Nat.lt_succ_self _)
    · rw [hbuffer, List.append_assoc, List.cons_append, linesOf_append_cons fails hfree]
  · -- a line is too long, and stays so
    rw [hnext]
    refine .stop ?_
    rw [outlook, hbuffer, List.append_assoc]
    exact samplesOf_of_long fails hfree hlong _
  · -- no line has ended: the reader asks, unless nothing is to come
    rw [hnext]
    dsimp only
    cases hended : r.ended with
    | false =>
      refine .wait ?_
      rw [isReady, hnext]
      exact hended
    | true =>
      obtain ⟨rfl, rfl⟩ := closed hended
      rw [Bool.not_true, if_neg Bool.false_ne_true]
      -- What is left is the last line, if anything is.
      have hlines : linesOf (r.buffer ++ []) false = if r.buffer = [] then [] else [r.buffer] := by
        rw [List.append_nil, linesOf_of_free false hfree]
        simp only [Bool.false_eq_true, false_or]
      split
      · -- there is nothing left, or nothing but a carriage return
        next hempty =>
        refine .stop ?_
        rw [outlook, hlines]
        split
        · rfl
        · next hne => rw [hempty.resolve_left hne, samplesOf_of_blank _ (by decide), samplesOf_nil]
      · next hrest =>
        obtain ⟨hne, -⟩ := not_or.mp hrest
        rw [if_neg hne] at hlines
        exact steps_readLine hshort (List.length_pos_iff.mpr hne) hended.symm hlines

end StatsReader

end Lookout
