import Lookout.Proofs.Json.Accepted
import Lookout.Proofs.Text.Decoding

/-!
# What a string spells

A string spells a text letter by letter (`IsStringOf`): a letter is a character as it is written, or
an escape that names one (`IsLetter`), and two escapes of four digits may name one character
together. A document is read as a text if and only if it is a string that spells it, with blanks
around it (`Document.read_eq_string_iff`).

In one direction each letter adds the bytes of its character to those that were spelled. In the
other one the reader does not know of letters: it goes by parts, which are escapes and single bytes
(`StringReader.Part`), and asks at the end whether all the bytes are UTF-8. What was read without a
flaw is a list of parts, and perhaps an escape that waits for its partner (`StringReader.Holds`).
Where the bytes of all parts together are those of a text, a character either comes from an escape,
or its bytes are parts that stand side by side, since the bytes of an escape do not begin in the
middle of a character (`exists_letters`).

* `IsLetter`, `IsStringOf` — letters, and the strings they make;
* `StringReader.foldlM_letters` — letters are read;
* `StringReader.Follows.pieces` — only parts are read without a flaw;
* `exists_letters` — the letters that parts make;
* `Document.read_eq_string_iff` — the documents that spell a text;
* `Decoder.decodeDocument_eq_ok_iff` — what is taken from one text only.
-/

namespace Lookout.Json

/-! ### Letters -/

/-- A hexadecimal digit of either case, and what it stands for. -/
def HexDigit (b : UInt8) (d : Nat) : Prop :=
  d < 16 ∧ (b.toNat = (Nat.digitChar d).toNat ∨ b.toNat = (Nat.digitChar d).toUpper.toNat)

instance (b : UInt8) (d : Nat) : Decidable (HexDigit b d) := inferInstanceAs (Decidable (_ ∧ _))

/-- An escape of four digits, and its code unit. -/
inductive IsUnit : List UInt8 → Nat → Prop where
  | digits {a b c d : UInt8} {w x y z : Nat} (ha : HexDigit a w) (hb : HexDigit b x)
      (hc : HexDigit c y) (hd : HexDigit d z) :
      IsUnit [0x5C, 0x75, a, b, c, d] (w * 0x1000 + x * 0x100 + y * 0x10 + z)

/-- **The code unit of the first half of a pair.** -/
def LeadSurrogate (u : Nat) : Prop := 0xD800 ≤ u ∧ u ≤ 0xDBFF

/-- The second half of a pair. -/
def TrailSurrogate (u : Nat) : Prop := 0xDC00 ≤ u ∧ u ≤ 0xDFFF

/-- The escapes of one letter, and the characters that they name. -/
def letterEscapes : List (UInt8 × Char) :=
  [(0x22, '"'), (0x5C, '\\'), (0x2F, '/'), (0x62, '\x08'), (0x66, '\x0c'), (0x6E, '\n'),
    (0x72, '\r'), (0x74, '\t')]

/-- **An escape, and the character that it names.** -/
inductive IsEscape : List UInt8 → Char → Prop where
  | letter {b : UInt8} {c : Char} (h : (b, c) ∈ letterEscapes) : IsEscape [0x5C, b] c
  | unit {written : List UInt8} {c : Char} (h : IsUnit written c.toNat) : IsEscape written c
  | pair {first second : List UInt8} {lead trail : Nat} {c : Char} (hfirst : IsUnit first lead)
      (hsecond : IsUnit second trail) (hlead : LeadSurrogate lead) (htrail : TrailSurrogate trail)
      (hc : c.toNat = 0x10000 + (lead - 0xD800) * 0x400 + (trail - 0xDC00)) :
      IsEscape (first ++ second) c

/-- **A letter of a string, and the character that it stands for.** -/
inductive IsLetter : List UInt8 → Char → Prop where
  | plain {c : Char} (quote : c ≠ '"') (backslash : c ≠ '\\') (control : ¬c.toNat < 0x20) :
      IsLetter (String.utf8EncodeChar c) c
  | escape {written : List UInt8} {c : Char} (h : IsEscape written c) : IsLetter written c

/-- **A string that spells a text.** -/
inductive IsStringOf : List UInt8 → List Char → Prop where
  | quoted {letters : List (List UInt8)} {text : List Char}
      (h : List.Forall₂ IsLetter letters text) :
      IsStringOf (0x22 :: (letters.flatten ++ [0x22])) text

/-! ### Letters are read -/

/-- A digit has the value that `hexDigit?` reads, and no other. -/
theorem hexDigit?_eq_some_iff {b : UInt8} {d : Nat} : hexDigit? b = some d ↔ HexDigit b d := by
  -- The sixteen digits in their two cases, by number.
  have htable : ∀ d < 16, (Nat.digitChar d).toNat = (if d < 10 then d + 48 else d + 87) ∧
      (Nat.digitChar d).toUpper.toNat = (if d < 10 then d + 48 else d + 55) := by decide
  unfold hexDigit? HexDigit
  simp only [UInt8.le_iff_toNat_le, UInt8.reduceToNat]
  constructor
  · intro h
    have hd : d < 16 := by split_ifs at h <;> cases h <;> omega
    obtain ⟨hsmall, hcapital⟩ := htable d hd
    rw [hsmall, hcapital]
    split_ifs at h <;> cases h <;> split_ifs <;> omega
  · rintro ⟨hd, h⟩
    obtain ⟨hsmall, hcapital⟩ := htable d hd
    rw [hsmall, hcapital] at h
    split_ifs at h ⊢ <;> (congr 1; omega)

namespace StringReader

theorem foldlM_isUnit {written : List UInt8} {u : Nat} (h : IsUnit written u) {r : StringReader}
    (hr : r.phase = .plain) : written.foldlM more? r = some (r.unit u) := by
  cases h with
  | @digits _ _ _ _ w x y z ha hb hc hd =>
    have hnumber : (((0 * 16 + w) * 16 + x) * 16 + y) * 16 + z =
        w * 0x1000 + x * 0x100 + y * 0x10 + z := by omega
    rw [foldlM_unit hr (hexDigit?_eq_some_iff.mpr ha) (hexDigit?_eq_some_iff.mpr hb)
      (hexDigit?_eq_some_iff.mpr hc) (hexDigit?_eq_some_iff.mpr hd), hnumber]

variable (bytes : List UInt8)

/-! The code units that are read where no surrogate waits. -/

theorem unit_scalar {c : Char} :
    unit { bytes } c.toNat = { bytes := (String.utf8EncodeChar c).reverse ++ bytes } := by
  have hvalid : c.toNat < 0xD800 ∨ (0xDFFF < c.toNat ∧ c.toNat < 0x110000) := c.valid
  have htrail : ¬(0xDC00 ≤ c.toNat ∧ c.toNat ≤ 0xDFFF) := by omega
  have hlead : ¬(0xD800 ≤ c.toNat ∧ c.toNat ≤ 0xDBFF) := by omega
  simp only [unit, if_neg htrail, if_neg hlead, pushScalar, push, Char.ofNat_toNat]

theorem unit_lead {u : Nat} (h : LeadSurrogate u) :
    unit { bytes } u = { bytes, lead := some u } := by
  have htrail : ¬(0xDC00 ≤ u ∧ u ≤ 0xDFFF) := by
    unfold LeadSurrogate at h
    omega
  have hlead : 0xD800 ≤ u ∧ u ≤ 0xDBFF := h
  simp only [unit, if_neg htrail, if_pos hlead]

/-- The other half of a pair: the two make one character, which is pushed as its bytes. -/
theorem unit_trail {lead trail : Nat} (h : TrailSurrogate trail) :
    unit { bytes, lead := some lead } trail =
      { bytes := (String.utf8EncodeChar (Char.ofNat
          ((lead - 0xD800) * 0x400 + (trail - 0xDC00) + 0x10000))).reverse ++ bytes } := by
  have htrail : 0xDC00 ≤ trail ∧ trail ≤ 0xDFFF := h
  simp only [unit, if_pos htrail, pushScalar, push]

/-- The byte that an escape of one letter stands for is its character, for each entry of
`letterEscapes`. -/
theorem exists_of_mem_letterEscapes {b : UInt8} {c : Char} (h : (b, c) ∈ letterEscapes) :
    ∃ e, simpleEscape? b = some e ∧ [e] = String.utf8EncodeChar c := by
  have htable : ∀ e ∈ letterEscapes,
      (simpleEscape? e.1).map ([·]) = some (String.utf8EncodeChar e.2) := by decide
  exact Option.map_eq_some_iff.mp (htable (b, c) h)

/-- **An escape pushes the character it stands for,** however it is written: as a letter, as one
unit, or as two halves of a pair. -/
theorem foldlM_isEscape {written : List UInt8} {c : Char} (h : IsEscape written c) :
    written.foldlM more? { bytes } =
      some { bytes := (String.utf8EncodeChar c).reverse ++ bytes } := by
  cases h with
  | letter h =>
    obtain ⟨e, he, hc⟩ := exists_of_mem_letterEscapes h
    rw [foldlM_letter rfl he, ← hc]
    rfl
  | unit h => rw [foldlM_isUnit h rfl, unit_scalar]
  | @pair first second lead trail c hfirst hsecond hlead htrail hc =>
    -- The two halves make the number of the character.
    have hnumber : (lead - 0xD800) * 0x400 + (trail - 0xDC00) + 0x10000 = c.toNat := by omega
    rw [List.foldlM_append, foldlM_isUnit hfirst rfl, unit_lead bytes hlead, Option.bind_eq_bind,
      Option.bind_some, foldlM_isUnit hsecond rfl, unit_trail bytes htrail, hnumber,
      Char.ofNat_toNat]

/-- **A letter is read** as the bytes of its character. -/
theorem foldlM_isLetter {written : List UInt8} {c : Char} (h : IsLetter written c) :
    written.foldlM more? { bytes } =
      some { bytes := (String.utf8EncodeChar c).reverse ++ bytes } := by
  cases h with
  | plain quote backslash control =>
    exact foldlM_plain bytes fun b hb => plain_of_mem quote backslash control hb
  | escape h => exact foldlM_isEscape bytes h

/-- **Letters are read** as the bytes of the text that they spell, one after the other. -/
theorem foldlM_letters {letters : List (List UInt8)} {text : List Char}
    (h : List.Forall₂ IsLetter letters text) :
    letters.flatten.foldlM more? { bytes } =
      some { bytes := (Utf8.encode text).reverse ++ bytes } := by
  induction h generalizing bytes with
  | nil => rfl
  | cons hfirst hrest ih =>
    rw [List.flatten_cons, List.foldlM_append, foldlM_isLetter bytes hfirst, Option.bind_eq_bind,
      Option.bind_some, ih, Utf8.encode_cons, List.reverse_append, List.append_assoc]

end StringReader

/-- **A string that spells a text is read** as that text. -/
theorem IsStringOf.done {written : List UInt8} {s : String} (h : IsStringOf written s.toList) :
    (written.foldl Reader.step ⟨[], .value⟩).Done [] (.string (.ofString s)) := by
  generalize htext : s.toList = text at h
  cases h with
  | @quoted letters _ h =>
    have hread := (Reader.foldl_quoted (StringReader.foldlM_letters [] h) rfl []).1
    have hspelling : (StringReader.unpaired
        { bytes := (Utf8.encode text).reverse ++ [] }).spelling none = .ofString s := by
      rw [Spelling.ofString, htext]
      simp [StringReader.unpaired, StringReader.spelling]
    rw [hread, hspelling]
    exact Reader.done_accept [] _

/-! ### Only parts are read -/

namespace StringReader

/-- A part of a string: one byte, which stands for itself, or an escape. -/
inductive Part where
  | byte (b : UInt8) (quote : b ≠ 0x22) (backslash : b ≠ 0x5C) (control : ¬b < 0x20)
  | escape (text : List UInt8) (c : Char) (h : IsEscape text c)

/-- How a part is written. -/
def Part.written : Part → List UInt8
  | byte b _ _ _ => [b]
  | escape text _ _ => text

/-- The bytes that a part spells. -/
def Part.spelled : Part → List UInt8
  | byte b _ _ _ => [b]
  | escape _ c _ => String.utf8EncodeChar c

/-- **A string up to some point, without a flaw:** its parts, and perhaps an escape that waits for
its partner. -/
inductive Holds : StringReader → List UInt8 → Prop where
  | paired (parts : List Part) :
      Holds { bytes := (parts.flatMap Part.spelled).reverse } (parts.flatMap Part.written)
  | waits (parts : List Part) {text : List UInt8} {u : Nat} (h : IsUnit text u)
      (lead : LeadSurrogate u) :
      Holds { bytes := (parts.flatMap Part.spelled).reverse, lead := some u }
        (parts.flatMap Part.written ++ text)

/-- **The reader follows a string,** or has found a flaw in it. -/
def Follows (r : StringReader) (seen : List UInt8) : Prop := r.Holds seen ∨ r.flaw.isSome

theorem Holds.concat (parts : List Part) (part : Part) :
    Holds { bytes := part.spelled.reverse ++ (parts.flatMap Part.spelled).reverse }
      (parts.flatMap Part.written ++ part.written) := by
  have h := Holds.paired (parts ++ [part])
  rwa [List.flatMap_append, List.flatMap_singleton, List.reverse_append, List.flatMap_append,
    List.flatMap_singleton] at h

/-- A fault that was found stays when a surrogate loses its partner: the first one counts. -/
theorem isSome_flaw_unpaired {r : StringReader} (h : r.flaw.isSome) : r.unpaired.flaw.isSome := by
  unfold unpaired
  split_ifs
  · exact Option.isSome_or.trans (Bool.or_true _)
  · exact h

/-- A part that is no escape of four digits: the escape that waits, if there is one, has lost its
partner. -/
theorem Follows.push {r : StringReader} {seen : List UInt8} (h : r.Follows seen) (part : Part) :
    (r.unpaired.push part.spelled).Follows (seen ++ part.written) := by
  rcases h with hholds | hflaw
  · cases hholds with
    | paired parts => exact Or.inl (.concat parts part)
    | waits => exact Or.inr rfl
  · exact Or.inr (isSome_flaw_unpaired hflaw)

theorem flaw_pushScalar (r : StringReader) (n : Nat) : (r.pushScalar n).flaw = r.flaw := rfl

/-- A code unit keeps a fault that was found before, whatever kind of unit it is. -/
theorem isSome_flaw_unit {r : StringReader} (h : r.flaw.isSome) (u : Nat) :
    (r.unit u).flaw.isSome := by
  have hmore : ∀ f : Fault, (r.flaw.or (some f)).isSome := fun f =>
    Option.isSome_or.trans (Bool.or_true _)
  -- Whatever becomes of the unit, a flaw is only added to.
  unfold unit
  dsimp only
  split
  · split_ifs
    · rwa [flaw_pushScalar]
    · exact hmore _
  · split_ifs
    · exact hmore _
    · exact h
    · rwa [flaw_pushScalar]

/-- Four hexadecimal digits make a number below `0x10000`. -/
theorem lt_of_isUnit {text : List UInt8} {u : Nat} (h : IsUnit text u) : u < 0x10000 := by
  obtain ⟨⟨hw, -⟩, ⟨hx, -⟩, ⟨hy, -⟩, ⟨hz, -⟩⟩ := h
  omega

/-- Where no surrogate waits, an escape of four digits names a character or is half of a pair; the
second half cannot come first. -/
theorem follows_unit_paired (parts : List Part) {text : List UInt8} {u : Nat}
    (hunit : IsUnit text u) :
    (StringReader.unit { bytes := (parts.flatMap Part.spelled).reverse } u).Follows
      (parts.flatMap Part.written ++ text) := by
  -- A second half without a first one is a fault; a first half waits; all else is a character.
  by_cases htrail : TrailSurrogate u
  · right
    have hno : 0xDC00 ≤ u ∧ u ≤ 0xDFFF := htrail
    simp only [StringReader.unit, if_pos hno]
    rfl
  · left
    by_cases hlead : LeadSurrogate u
    · rw [unit_lead _ hlead]
      exact .waits parts hunit hlead
    · have hlt := lt_of_isUnit hunit
      have hvalid : u.isValidChar := by
        unfold TrailSurrogate at htrail
        unfold LeadSurrogate at hlead
        unfold Nat.isValidChar
        omega
      obtain ⟨c, rfl⟩ := Utf8.exists_toNat_eq hvalid
      rw [unit_scalar]
      exact .concat parts (.escape text c (.unit hunit))

/-- Where a surrogate waits, the escape is its partner, or the two are a flaw. -/
theorem follows_unit_waits (parts : List Part) {first text : List UInt8} {lead u : Nat}
    (hfirst : IsUnit first lead) (hlead : LeadSurrogate lead) (hunit : IsUnit text u) :
    (StringReader.unit { bytes := (parts.flatMap Part.spelled).reverse, lead := some lead }
      u).Follows (parts.flatMap Part.written ++ first ++ text) := by
  -- A second half completes the pair; all else leaves the first half alone, which is a fault.
  by_cases htrail : TrailSurrogate u
  · left
    have hvalid : ((lead - 0xD800) * 0x400 + (u - 0xDC00) + 0x10000).isValidChar := by
      unfold TrailSurrogate at htrail
      unfold LeadSurrogate at hlead
      unfold Nat.isValidChar
      omega
    obtain ⟨c, hc⟩ := Utf8.exists_toNat_eq hvalid
    rw [unit_trail _ htrail, ← hc, Char.ofNat_toNat, List.append_assoc]
    exact .concat parts (.escape (first ++ text) c (.pair hfirst hunit hlead htrail (by omega)))
  · right
    have hno : ¬(0xDC00 ≤ u ∧ u ≤ 0xDFFF) := htrail
    simp only [StringReader.unit, if_neg hno]
    rfl

/-- **An escape of four digits** is followed, or it is a flaw. -/
theorem Follows.unit {r : StringReader} {seen text : List UInt8} {u : Nat} (h : r.Follows seen)
    (hunit : IsUnit text u) : (r.unit u).Follows (seen ++ text) := by
  rcases h with hholds | hflaw
  · cases hholds with
    | paired parts => exact follows_unit_paired parts hunit
    | waits parts hfirst hlead => exact follows_unit_waits parts hfirst hlead hunit
  · exact Or.inr (isSome_flaw_unit hflaw u)

theorem exists_hexDigit {b : UInt8} (h : IsHexDigit b) : ∃ d, HexDigit b d :=
  (exists_of_isHexDigit h).imp fun _ => hexDigit?_eq_some_iff.mp

/-- **A piece more of a string:** a byte, an escape of one letter, or one of four digits, each of
them a part. -/
theorem Follows.piece {r : StringReader} {seen piece : List UInt8} (h : r.Follows seen)
    (hr : r.phase = .plain) (hpiece : IsPiece piece) :
    ∃ r', piece.foldlM more? r = some r' ∧ r'.phase = .plain ∧ r'.Follows (seen ++ piece) := by
  cases hpiece with
  -- A byte that stands for itself.
  | @plain b quote backslash control =>
    exact ⟨_, foldlM_byte hr quote backslash control, rfl, h.push (.byte b quote backslash control)⟩
  -- An escape of one letter.
  | @escape b letter =>
    obtain ⟨⟨_, c⟩, hc, rfl⟩ : ∃ e ∈ letterEscapes, e.1 = b := List.mem_map.mp letter
    obtain ⟨e, he, hbytes⟩ := exists_of_mem_letterEscapes hc
    have hpush := h.push (.escape _ c (.letter hc))
    rw [Part.spelled, ← hbytes] at hpush
    exact ⟨_, foldlM_letter hr he, rfl, hpush⟩
  -- A unit of four digits.
  | unit ha hb hc hd =>
    obtain ⟨w, hw⟩ := exists_hexDigit ha
    obtain ⟨x, hx⟩ := exists_hexDigit hb
    obtain ⟨y, hy⟩ := exists_hexDigit hc
    obtain ⟨z, hz⟩ := exists_hexDigit hd
    have hunit : IsUnit _ _ := .digits hw hx hy hz
    exact ⟨_, foldlM_isUnit hunit hr, phase_unit _ _, h.unit hunit⟩

/-- `Follows.piece` for any number of pieces, one after the other. -/
theorem Follows.pieces {r : StringReader} {seen : List UInt8} {pieces : List (List UInt8)}
    (h : r.Follows seen) (hr : r.phase = .plain) (hpieces : ∀ piece ∈ pieces, IsPiece piece) :
    ∃ r', pieces.flatten.foldlM more? r = some r' ∧ r'.phase = .plain ∧
      r'.Follows (seen ++ pieces.flatten) := by
  -- The induction is on the pieces, with what was read before them general.
  induction pieces generalizing r seen with
  | nil => exact ⟨r, rfl, hr, by rwa [List.flatten_nil, List.append_nil]⟩
  | cons piece rest ih =>
    obtain ⟨hpiece, hrest⟩ := List.forall_mem_cons.mp hpieces
    obtain ⟨r₁, hfirst, hr₁, h₁⟩ := h.piece hr hpiece
    obtain ⟨r', hothers, hr', h'⟩ := ih h₁ hr₁ hrest
    refine ⟨r', ?_, hr', ?_⟩
    · rw [List.flatten_cons, List.foldlM_append, hfirst]
      exact hothers
    · rwa [List.flatten_cons, ← List.append_assoc]

end StringReader

/-! ### Parts make letters -/

open StringReader (Part)

/-- Bytes that begin no character are parts of their own, since the spelling of an escape begins
with one that does. -/
theorem exists_parts_of_continuation {bytes rest : List UInt8} {parts : List Part}
    (h : parts.flatMap Part.spelled = bytes ++ rest) (inner : ∀ b ∈ bytes, ¬b.IsUTF8FirstByte) :
    ∃ others : List Part, parts.flatMap Part.written = bytes ++ others.flatMap Part.written ∧
      others.flatMap Part.spelled = rest := by
  induction bytes generalizing parts with
  | nil => exact ⟨parts, rfl, h⟩
  | cons b bytes ih =>
    obtain ⟨hb, hbytes⟩ := List.forall_mem_cons.mp inner
    cases parts with
    | nil => cases h
    | cons part parts =>
      rw [List.flatMap_cons] at h
      cases part with
      | byte b' =>
        obtain ⟨rfl, hrest⟩ := List.cons.inj h
        obtain ⟨others, hwritten, hspelled⟩ := ih hrest hbytes
        refine ⟨others, ?_, hspelled⟩
        rw [List.flatMap_cons, hwritten]
        rfl
      | escape text c hc =>
        -- An escape spells a whole character.
        obtain ⟨first, inner, hchar⟩ :=
          List.exists_cons_of_ne_nil (String.utf8EncodeChar_ne_nil (c := c))
        rw [Part.spelled, hchar] at h
        obtain ⟨rfl, -⟩ := List.cons.inj h
        exact absurd (Utf8.isUTF8FirstByte_iff hchar).1 hb

/-- A character stands for itself if its first byte does. -/
theorem isLetter_of_first {c : Char} {b : UInt8} {inner : List UInt8}
    (h : String.utf8EncodeChar c = b :: inner) (quote : b ≠ 0x22) (backslash : b ≠ 0x5C)
    (control : ¬b < 0x20) : IsLetter (b :: inner) c := by
  rw [← h]
  refine .plain ?_ ?_ fun hlt => ?_
  · rintro rfl
    exact quote (List.cons.inj h).1.symm
  · rintro rfl
    exact backslash (List.cons.inj h).1.symm
  · rw [Utf8.utf8EncodeChar_of_ascii (Nat.lt_trans hlt (by decide))] at h
    rw [← (List.cons.inj h).1, UInt8.lt_iff_toNat_lt,
      Utf8.toNat_ofNat (Nat.lt_trans hlt (by decide))] at control
    exact control hlt

theorem StringReader.Part.spelled_ne_nil (part : Part) : part.spelled ≠ [] := by
  cases part with
  | byte => exact List.cons_ne_nil _ _
  | escape => exact String.utf8EncodeChar_ne_nil

/-- **Parts that spell a text** are its letters. The induction is on the text: the parts that spell
its first character are one escape, or the bytes of the character
(`exists_parts_of_continuation`). -/
theorem exists_letters {parts : List Part} {text : List Char}
    (h : parts.flatMap Part.spelled = Utf8.encode text) :
    ∃ letters, List.Forall₂ IsLetter letters text ∧
      letters.flatten = parts.flatMap Part.written := by
  -- On the text: the parts that begin it are either one escape or as many bytes as its first
  -- character has.
  induction text generalizing parts with
  | nil =>
    cases parts with
    | nil => exact ⟨[], .nil, rfl⟩
    | cons part parts => exact absurd (List.append_eq_nil_iff.mp h).1 part.spelled_ne_nil
  | cons c text ih =>
    cases parts with
    | nil => exact absurd (List.append_eq_nil_iff.mp h.symm).1 String.utf8EncodeChar_ne_nil
    | cons part parts =>
      rw [List.flatMap_cons] at h
      cases part with
      | byte b quote backslash control =>
        obtain ⟨first, inner, hchar⟩ :=
          List.exists_cons_of_ne_nil (String.utf8EncodeChar_ne_nil (c := c))
        rw [Utf8.encode_cons, hchar] at h
        obtain ⟨rfl, hinner⟩ := List.cons.inj h
        obtain ⟨others, hwritten, hspelled⟩ :=
          exists_parts_of_continuation hinner (Utf8.isUTF8FirstByte_iff hchar).2
        obtain ⟨letters, hletters, hflatten⟩ := ih hspelled
        refine ⟨(b :: inner) :: letters,
          .cons (isLetter_of_first hchar quote backslash control) hletters, ?_⟩
        rw [List.flatten_cons, hflatten, List.flatMap_cons, hwritten]
        rfl
      | escape written d hd =>
        obtain ⟨text', heq, hrest⟩ := Utf8.append_eq_encode.mp h
        obtain ⟨rfl, rfl⟩ := List.cons.inj heq
        obtain ⟨letters, hletters, hflatten⟩ := ih hrest
        refine ⟨written :: letters, .cons (.escape hd) hletters, ?_⟩
        rw [List.flatten_cons, hflatten]
        rfl

/-! ### Documents -/

/-- A string is the only value whose tree is one. -/
theorem IsValue.isString_of_treeOf {text : List UInt8} {s : Spelling} (h : IsValue text)
    (htree : treeOf text = .string s) : IsString text := by
  -- No other constructor of the grammar comes to a string.
  cases h with
  | null | true | false => cases htree
  | number h =>
    obtain ⟨r, hend, hread⟩ := h.exists_numeral
    have hnumeral : treeOf text = .numeral r.numeral := by
      rw [treeOf, Document.read, hread [], (Reader.done_numeral hend []).finish]
      rfl
    cases hnumeral.symm.trans htree
  | string h => exact h
  | emptyArray h => cases (treeOf_of_accept (Reader.foldl_emptyArray [] h)).symm.trans htree
  | array nonempty laid values =>
    have hread := Reader.foldl_array [] laid (fun i hi => (values i hi).reads) nonempty
    cases (treeOf_of_accept hread).symm.trans htree
  | emptyObject h => cases (treeOf_of_accept (Reader.foldl_emptyObject [] h)).symm.trans htree
  | object nonempty laid values =>
    have hread := Reader.foldl_object [] laid (fun m hm => (values m hm).reads) nonempty
    cases (treeOf_of_accept hread).symm.trans htree

/-- **The spelling of a text,** as far as its meaning goes, is `ofString` of it. -/
theorem Spelling.text_eq_ok_iff {s : Spelling} {text : String} :
    s.text = .ok text ↔ s = ofString text := by
  refine ⟨fun h => ?_, fun h => h ▸ text_ofString text⟩
  obtain ⟨bytes, flaw, stop⟩ := s
  unfold Spelling.text at h
  split at h
  · cases h
  · cases h
  -- Without a fault the bytes decode to the text, and so they are its own.
  · next hflaw hstop =>
    dsimp only at hflaw hstop
    split at h
    · next cs hcs =>
      obtain rfl := Except.ok.inj h
      have hbytes : bytes = Utf8.encode cs := Utf8.decode?_eq_some_iff.mp hcs
      rw [hflaw, hstop, ofString, String.toList_ofList, hbytes]
    · cases h

/-- A string without a flaw spells what its letters make. -/
theorem StringReader.Follows.isStringOf {r : StringReader} {seen : List UInt8} {s : String}
    (h : r.Follows seen) (hspelling : r.unpaired.spelling none = .ofString s) :
    IsStringOf (0x22 :: (seen ++ [0x22])) s.toList := by
  have hflaw : r.unpaired.flaw = none := congrArg Spelling.flaw hspelling
  -- A fault that was found would be in the spelling.
  rcases h with hholds | hsome
  · cases hholds with
    | paired parts =>
      have hbytes : (parts.flatMap Part.spelled).reverse.reverse = Utf8.encode s.toList :=
        congrArg Spelling.bytes hspelling
      rw [List.reverse_reverse] at hbytes
      obtain ⟨letters, hletters, hflatten⟩ := exists_letters hbytes
      rw [← hflatten]
      exact .quoted hletters
    | waits => cases hflaw
  · have hnever := isSome_flaw_unpaired hsome
    rw [hflaw] at hnever
    cases hnever

/-- **A string that is read as a text** spells it: its pieces are followed to their parts, and these
are letters. -/
theorem IsString.isStringOf {written : List UInt8} {s : String} (h : IsString written)
    (htree : treeOf written = .string (.ofString s)) : IsStringOf written s.toList := by
  cases h with
  | quoted hpieces =>
    have hstart : StringReader.Follows {} [] := Or.inl (.paired [])
    obtain ⟨r, hfold, hr, hfollows⟩ := hstart.pieces rfl hpieces
    have hread := treeOf_of_accept (Reader.foldl_quoted hfold hr []).1
    exact hfollows.isStringOf (Node.string.inj (hread.symm.trans htree))

/-- **A document that is one string,** with blanks around it. -/
def IsStringDocument (bytes : List UInt8) (text : List Char) : Prop :=
  ∃ lead written trail, Blanks lead ∧ IsStringOf written text ∧ Blanks trail ∧
    bytes = lead ++ (written ++ trail)

/-- **The documents whose tree spells a text** are the strings that spell it, with blanks around
them. -/
theorem Document.read_eq_string_iff {bytes : List UInt8} {s : String} :
    read bytes = ⟨.string (.ofString s), false⟩ ↔ IsStringDocument bytes s.toList := by
  constructor
  -- A text that can be skipped is that of a value with blanks around it.
  · intro h
    have hskip : (read bytes).root.skip = .ok () := by
      rw [h]
      rfl
    obtain ⟨pad, value, after, hpad, hvalue, hafter, rfl, -⟩ :=
      isText_of_read hskip (congrArg Document.trailing h)
    have htree : treeOf value = .string (.ofString s) := by
      rw [read_of_done hpad (hvalue.reads.done []) hafter] at h
      exact congrArg Document.root h
    exact ⟨pad, value, after, hpad, (hvalue.isString_of_treeOf htree).isStringOf htree, hafter, rfl⟩
  · rintro ⟨pad, written, after, hpad, hwritten, hafter, rfl⟩
    exact read_of_done hpad hwritten.done hafter

namespace Decoder

/-- **`Decoder.text` takes a text from the tree that spells it** and from no other. -/
theorem text_eq_ok_iff {p : Place} {n : Node} {s : String} :
    text p n = .ok s ↔ n = .string (.ofString s) := by
  constructor
  · intro h
    unfold text at h
    split at h
    · rw [Spelling.text_eq_ok_iff.mp (fromText_eq_ok h)]
    · exact absurd h wrongType_ne_ok
  · rintro rfl
    rw [text, Spelling.text_ofString]
    rfl

section

variable {α : Type} {decode : Decoder α} {a : α} {s : String}
  (h : ∀ p n, decode p n = .ok a ↔ n = .string (.ofString s))

include h

/-- **What is taken from one tree only,** that of a text, is taken from the documents that spell the
text. -/
theorem decodeDocument_eq_ok_iff {bytes : List UInt8} :
    decode.decodeDocument (.read bytes) = .ok a ↔ IsStringDocument bytes s.toList := by
  rw [← Document.read_eq_string_iff, decodeDocument]
  constructor
  -- What was decoded is a string, and nothing trails it.
  · intro hok
    obtain ⟨a', ha', hok⟩ := bind_eq_ok hok
    split_ifs at hok with htrailing
    obtain rfl := Except.ok.inj hok
    have hroot := (h _ _).mp ha'
    rw [Bool.not_eq_true] at htrailing
    rw [← hroot, ← htrailing]
  · intro hread
    rw [hread, (h _ _).mpr rfl]
    rfl

/-- What is taken from the tree of one text only is taken from that text as a value. -/
theorem decodeValue_eq_ok_iff {v : Value} : decode.decodeValue v = .ok a ↔ v = .string s := by
  rw [decodeValue, h]
  cases v with
  | string s' =>
    rw [Node.ofValue, Node.string.injEq, Value.string.injEq]
    refine ⟨fun heq => ?_, congrArg Spelling.ofString⟩
    have hbytes : Utf8.encode s'.toList = Utf8.encode s.toList := congrArg Spelling.bytes heq
    exact String.toList_inj.mp (Utf8.encode_injective hbytes)
  | null | bool | number | array | object => exact iff_of_false nofun nofun

end

end Decoder

end Lookout.Json
