import Lookout.Proofs.Json.Parsing
import Lookout.Proofs.Json.Tree

/-!
# Nothing but values is read

A text that is read to its end without a break is the text of a value. What was read so far is told
with the state of the reader (`Reader.Spells`): the containers that are open with all their elements
up to the last comma, and the part of a scalar. One byte either continues it or breaks the tree
(`Reader.Spells.step`), and a tree that is broken stays so (`Reader.Broken`), since nothing is read
after a break. Which tree belongs to the text does not matter here, only that it can be skipped.

Together with `IsValue.reads` this tells which texts are read: those of values, with blanks around
them (`Document.read_iff`). What is used of a tree could have been skipped as well
(`Decoder.Whole`), so a tree with used members and skipped ones only has no break anywhere.

* `NumeralPhase.Spells`, `StringPhase.Spells` — a scalar up to some point;
* `Front` — the containers that are open, and what was read of them;
* `Reader.Spells` — a text up to some point, and `Reader.Spells.step` — one byte more;
* `Document.read_iff` — the texts that are read;
* `ObjectText.exists_of_read` — the members of an object that was read;
* `Decoder.Whole` — what is used could be skipped.
-/

namespace Lookout.Json

/-! ### Numbers -/

/-- A byte that has the value of a digit is one, and the value is its distance from `0`. -/
theorem isDigit_of_digit? {b : UInt8} {d : Nat} (h : digit? b = some d) :
    IsDigit b ∧ d = b.toNat - 48 := by
  unfold digit? at h
  split at h
  · next hdigit => exact ⟨hdigit, (Option.some.inj h).symm⟩
  · cases h

/-- Only the digit `0` has the value zero. -/
theorem eq_zero_iff_of_digit? {b : UInt8} {d : Nat} (h : digit? b = some d) :
    d = 0 ↔ b = 0x30 := by
  obtain ⟨⟨hge, -⟩, rfl⟩ := isDigit_of_digit? h
  have hge' : 48 ≤ b.toNat := UInt8.le_iff_toNat_le.mp hge
  rw [← UInt8.toNat_inj]
  change b.toNat - 48 = 0 ↔ b.toNat = 48
  omega

theorem Digits.concat {digits : List UInt8} (h : Digits digits) {b : UInt8} (hb : IsDigit b) :
    Digits (digits ++ [b]) where
  ne_nil := List.append_ne_nil_of_right_ne_nil digits (List.cons_ne_nil b [])
  digit := List.forall_mem_append.mpr ⟨h.digit, List.forall_mem_singleton.mpr hb⟩

/-- **A number up to some point,** by the phase of its reader. -/
inductive NumeralPhase.Spells : NumeralPhase → List UInt8 → Prop where
  -- A lone minus is no number yet, nor is one that ends in a point, a mark or its sign.
  | sign : Spells .sign [0x2D]
  | zero {sign : List UInt8} (hsign : sign = [] ∨ sign = [0x2D]) : Spells .zero (sign ++ [0x30])
  | whole {sign digits : List UInt8} {first : UInt8} (hsign : sign = [] ∨ sign = [0x2D])
      (digit : IsDigit first) (ne_zero : first ≠ 0x30) (hdigits : ∀ b ∈ digits, IsDigit b) :
      Spells .whole (sign ++ first :: digits)
  | point {front : List UInt8} (hfront : IsInteger front) : Spells .point (front ++ [0x2E])
  | fraction {front digits : List UInt8} (hfront : IsInteger front) (hdigits : Digits digits) :
      Spells .fraction (front ++ 0x2E :: digits)
  | mark {front : List UInt8} {mark : UInt8} (hfront : IsDecimal front)
      (hmark : mark = 0x65 ∨ mark = 0x45) : Spells .mark (front ++ [mark])
  | markSign {front sign : List UInt8} {mark : UInt8} (hfront : IsDecimal front)
      (hmark : mark = 0x65 ∨ mark = 0x45) (hsign : sign = [0x2B] ∨ sign = [0x2D]) :
      Spells .markSign (front ++ mark :: sign)
  | exponent {front sign digits : List UInt8} {mark : UInt8} (hfront : IsDecimal front)
      (hmark : mark = 0x65 ∨ mark = 0x45) (hsign : sign = [] ∨ sign = [0x2B] ∨ sign = [0x2D])
      (hdigits : Digits digits) : Spells .exponent (front ++ mark :: (sign ++ digits))

namespace NumeralPhase.Spells

variable {phase : NumeralPhase} {seen : List UInt8}

theorem isInteger (h : phase.Spells seen) (hphase : phase = .zero ∨ phase = .whole) :
    IsInteger seen := by
  cases h with
  | zero hsign => exact .parts hsign .zero
  | whole hsign digit ne_zero hdigits => exact .parts hsign (.digits digit ne_zero hdigits)
  | _ => rcases hphase with hphase | hphase <;> cases hphase

theorem isDecimal (h : phase.Spells seen)
    (hphase : phase = .zero ∨ phase = .whole ∨ phase = .fraction) : IsDecimal seen := by
  by_cases hfraction : phase = .fraction
  · subst hfraction
    cases h with
    | fraction hfront hdigits => exact .parts hfront (.point hdigits)
  · have hinteger : IsInteger seen := h.isInteger (by tauto)
    have hdecimal : IsDecimal (seen ++ []) := .parts hinteger .absent
    rwa [List.append_nil] at hdecimal

/-- **A number that may end** is one, by what was read of it in each of the phases of `MayEnd`. -/
theorem isNumber (h : phase.Spells seen) (hend : phase.MayEnd) : IsNumber seen := by
  by_cases hexponent : phase = .exponent
  · subst hexponent
    cases h with
    | exponent hfront hmark hsign hdigits => exact .parts hfront (.marked hmark hsign hdigits)
  · have hdecimal : IsDecimal seen := h.isDecimal (by unfold NumeralPhase.MayEnd at hend; tauto)
    have hnumber : IsNumber (seen ++ []) := .parts hdecimal .absent
    rwa [List.append_nil] at hnumber

end NumeralPhase.Spells

namespace NumeralReader

variable {r r' : NumeralReader} {seen : List UInt8} {b : UInt8}

/-- A digit goes on with the part that the number is in, or begins the next one. -/
theorem spells_digit {d : Nat} (h : r.phase.Spells seen) (digit : digit? b = some d)
    (hstep : r.step b = .more r') : r'.phase.Spells (seen ++ [b]) := by
  obtain ⟨hb, -⟩ := isDigit_of_digit? digit
  -- One digit is already as many as are asked for.
  have hfirst : Digits [b] := ⟨List.cons_ne_nil b [], List.forall_mem_singleton.mpr hb⟩
  unfold step at hstep
  rw [digit] at hstep
  generalize r.phase = phase at h hstep
  cases h with
  | sign =>
    cases hstep
    rw [phase_digit]
    have hminus : ([0x2D] : List UInt8) = [] ∨ ([0x2D] : List UInt8) = [0x2D] := Or.inr rfl
    -- A zero stands alone; any other digit may be followed by more.
    by_cases hd : d = 0
    · rw [if_pos hd, (eq_zero_iff_of_digit? digit).mp hd]
      exact .zero hminus
    · rw [if_neg hd]
      exact .whole hminus hb (fun hzero => hd ((eq_zero_iff_of_digit? digit).mpr hzero)) nofun
  | zero => cases hstep
  | whole hsign hdigit ne_zero hdigits =>
    cases hstep
    rw [phase_digit, List.append_assoc]
    have hall := List.forall_mem_append.mpr ⟨hdigits, List.forall_mem_singleton.mpr hb⟩
    exact .whole hsign hdigit ne_zero hall
  | point hfront =>
    cases hstep
    rw [phase_digit, List.append_assoc]
    exact .fraction hfront hfirst
  | fraction hfront hdigits =>
    cases hstep
    rw [phase_digit, List.append_assoc]
    exact .fraction hfront (hdigits.concat hb)
  -- Behind the mark of the exponent any digit may stand, a zero as well.
  | mark hfront hmark =>
    cases hstep
    rw [List.append_assoc]
    exact .exponent hfront hmark (Or.inl rfl) hfirst
  | markSign hfront hmark hsign =>
    cases hstep
    rw [List.append_assoc]
    exact .exponent hfront hmark (Or.inr hsign) hfirst
  | exponent hfront hmark hsign hdigits =>
    cases hstep
    rw [List.append_assoc, List.cons_append, List.append_assoc]
    exact .exponent hfront hmark hsign (hdigits.concat hb)

/-- Any other byte with which a number goes on is the point, the letter of the exponent or its
sign. -/
theorem spells_other (h : r.phase.Spells seen) (digit : digit? b = none)
    (hstep : r.step b = .more r') : r'.phase.Spells (seen ++ [b]) := by
  unfold step at hstep
  rw [digit] at hstep
  cases hphase : r.phase with
  -- In these phases only a digit can follow.
  | sign | point | markSign | exponent =>
    rw [hphase] at hstep
    cases hstep
  -- A point, a mark, or the end.
  | zero | whole =>
    simp only [hphase] at h hstep
    split_ifs at hstep with hpoint hmark
    · cases hstep
      rw [hpoint]
      exact .point (h.isInteger (by tauto))
    · cases hstep
      exact .mark (h.isDecimal (by tauto)) hmark
  | fraction =>
    simp only [hphase] at h hstep
    split_ifs at hstep with hmark
    cases hstep
    exact .mark (h.isDecimal (by tauto)) hmark
  | mark =>
    simp only [hphase] at h hstep
    split_ifs at hstep with hplus hminus
    · cases hstep
      cases h with
      | mark hfront hmark =>
        rw [List.append_assoc, hplus]
        exact .markSign hfront hmark (Or.inl rfl)
    · cases hstep
      cases h with
      | mark hfront hmark =>
        rw [List.append_assoc, hminus]
        exact .markSign hfront hmark (Or.inr rfl)

/-- **One byte more of a number,** by whether it is a digit. -/
theorem spells_step (h : r.phase.Spells seen) (hstep : r.step b = .more r') :
    r'.phase.Spells (seen ++ [b]) := by
  cases digit : digit? b with
  | none => exact spells_other h digit hstep
  | some d => exact spells_digit h digit hstep

/-- **A number ends only where it may.** In the other phases a byte that does not continue it is a
fault. -/
theorem mayEnd_of_step (hstep : r.step b = .ended) : r.phase.MayEnd := by
  unfold step at hstep
  -- In the four phases in which a number may end there is nothing to show; the others end none.
  cases hphase : r.phase with
  | zero => exact Or.inl rfl
  | whole => exact Or.inr (Or.inl rfl)
  | fraction => exact Or.inr (Or.inr (Or.inl rfl))
  | exponent => exact Or.inr (Or.inr (Or.inr rfl))
  | sign | point | markSign =>
    rw [hphase] at hstep
    cases hdigit : digit? b with
    | none | some d =>
      rw [hdigit] at hstep
      cases hstep
  | mark =>
    rw [hphase] at hstep
    cases hdigit : digit? b with
    | none =>
      simp only [hdigit] at hstep
      split_ifs at hstep
    | some d =>
      rw [hdigit] at hstep
      cases hstep

end NumeralReader

/-! ### Strings -/

/-- **A string up to some point,** without its opening quote, by the phase of its reader. Nothing is
said of one in which an escape has lost its way, for it will not be read to its end. -/
inductive StringPhase.Spells : StringPhase → List UInt8 → Prop where
  | plain {pieces : List (List UInt8)} (hpieces : ∀ piece ∈ pieces, IsPiece piece) :
      Spells .plain pieces.flatten
  | escape {pieces : List (List UInt8)} (hpieces : ∀ piece ∈ pieces, IsPiece piece) :
      Spells .escape (pieces.flatten ++ [0x5C])
  | hex {pieces : List (List UInt8)} {digits : List UInt8} {left value : Nat}
      (hpieces : ∀ piece ∈ pieces, IsPiece piece) (hdigits : ∀ b ∈ digits, IsHexDigit b)
      (hleft : 0 < left) (hlength : digits.length + left = 4) :
      Spells (.hex left (some value)) (pieces.flatten ++ 0x5C :: 0x75 :: digits)
  | lost {left : Nat} {seen : List UInt8} : Spells (.hex left none) seen

theorem isHexDigit_of_hexDigit? {b : UInt8} {d : Nat} (h : hexDigit? b = some d) :
    IsHexDigit b := by
  unfold hexDigit? at h
  split_ifs at h with digit upper lower
  · exact Or.inl digit
  · exact Or.inr (Or.inl upper)
  · exact Or.inr (Or.inr lower)

namespace StringReader

variable {r r' : StringReader} {seen : List UInt8} {b : UInt8}

/-- One more piece of a string, with nothing begun: the reader is `plain` again. -/
theorem spells_piece {pieces : List (List UInt8)} (hpieces : ∀ piece ∈ pieces, IsPiece piece)
    {piece : List UInt8} (hpiece : IsPiece piece) :
    StringPhase.plain.Spells (pieces.flatten ++ piece) := by
  have hall := List.forall_mem_append.mpr ⟨hpieces, List.forall_mem_singleton.mpr hpiece⟩
  have hplain := StringPhase.Spells.plain hall
  rwa [List.flatten_append, List.flatten_singleton] at hplain

theorem mem_of_simpleEscape? {b e : UInt8} (h : simpleEscape? b = some e) :
    b ∈ [0x22, 0x5C, 0x2F, 0x62, 0x66, 0x6E, 0x72, 0x74] := by
  unfold simpleEscape? at h
  simp only [List.mem_cons, List.not_mem_nil]
  split_ifs at h <;> tauto

theorem spells_start (hr : r.phase = .plain) : r.phase.Spells [] := by
  have hplain : StringPhase.plain.Spells [].flatten := .plain nofun
  rwa [hr]

/-- **One byte more of a string,** by the phase that the reader is in: a piece is begun, goes on, or
is complete. -/
theorem spells_step (h : r.phase.Spells seen) (hstep : r.step b = .inl r') :
    r'.phase.Spells (seen ++ [b]) := by
  unfold step at hstep
  cases hphase : r.phase with
  | plain =>
    simp only [hphase] at h hstep
    cases h with
    | plain hpieces =>
      split_ifs at hstep with quote backslash control
      · cases hstep
        rw [backslash]
        exact .escape hpieces
      · cases hstep
        exact spells_piece hpieces (.plain quote backslash control)
  | escape =>
    simp only [hphase] at h hstep
    cases h with
    | escape hpieces =>
      split_ifs at hstep with unit
      · cases hstep
        rw [List.append_assoc, unit]
        exact .hex hpieces nofun (by decide) rfl
      · split at hstep
        · next e he =>
          cases hstep
          rw [List.append_assoc]
          exact spells_piece hpieces (.escape (mem_of_simpleEscape? he))
        · cases hstep
  | hex left value =>
    simp only [hphase] at h hstep
    -- The number of the escape, as far as it is one.
    cases hvalue : (do
      let v ← value
      let d ← hexDigit? b
      pure (v * 16 + d)) with
    | none =>
      rw [hvalue] at hstep
      split_ifs at hstep
      cases hstep
      exact .lost
    | some u =>
      rw [hvalue] at hstep
      obtain ⟨v, rfl, hdigit⟩ := Option.bind_eq_some_iff.mp hvalue
      obtain ⟨d, hd, -⟩ := Option.bind_eq_some_iff.mp hdigit
      have hb : IsHexDigit b := isHexDigit_of_hexDigit? hd
      cases h with
      | @hex pieces digits _ _ hpieces hdigits hleft hlength =>
        rw [List.append_assoc]
        split_ifs at hstep with more
        · cases hstep
          have hall := List.forall_mem_append.mpr ⟨hdigits, List.forall_mem_singleton.mpr hb⟩
          have hmore : (digits ++ [b]).length + (left - 1) = 4 := by
            rw [List.length_append, List.length_singleton]
            omega
          exact .hex hpieces hall (by omega) hmore
        · -- the fourth digit
          cases hstep
          rw [phase_unit]
          have hthree : digits.length = 3 := by omega
          obtain ⟨x, y, z, rfl⟩ := List.length_eq_three.mp hthree
          have hx : IsHexDigit x := hdigits x (by simp)
          have hy : IsHexDigit y := hdigits y (by simp)
          have hz : IsHexDigit z := hdigits z (by simp)
          exact spells_piece hpieces (.unit hx hy hz hb)

/-- **The end of a string.** Only a quote in the phase `plain` ends it without a break (`closed`),
so that what was seen is a list of pieces. -/
theorem isString_of_step (h : r.phase.Spells seen) {s : Spelling} (hstep : r.step b = .inr s)
    (closed : s.stop = none) : IsString (0x22 :: (seen ++ [b])) := by
  unfold step at hstep
  cases hphase : r.phase with
  -- Only a quote ends a string without a fault.
  | plain =>
    simp only [hphase] at h hstep
    split_ifs at hstep with quote
    · cases h with
      | plain hpieces =>
        rw [quote]
        exact .quoted hpieces
    · cases hstep
      cases closed
  -- In an escape a string only ends by a fault.
  | escape =>
    simp only [hphase] at hstep
    split_ifs at hstep
    split at hstep
    · cases hstep
    · cases hstep
      cases closed
  | hex left value =>
    simp only [hphase] at hstep
    split_ifs at hstep
    split at hstep
    · cases hstep
    · cases hstep
      cases closed

end StringReader

/-! ### Containers -/

/-- Elements of an array or an object, with a comma behind each. -/
def listed (elements : List (List UInt8)) : List UInt8 := elements.flatMap (· ++ [0x2C])

/-- One more element, with its comma, comes last in `listed`. -/
theorem listed_concat (elements : List (List UInt8)) (last : List UInt8) :
    listed (elements ++ [last]) = listed elements ++ (last ++ [0x2C]) := by
  rw [listed, List.flatMap_append, List.flatMap_singleton]
  rfl

/-- **Elements with commas between them** are those with a comma behind each and the last one
without. The grammar speaks of the former, and a reader that is half way has seen the latter. -/
theorem intercalate_concat (elements : List (List UInt8)) (last : List UInt8) :
    [0x2C].intercalate (elements ++ [last]) = listed elements ++ last := by
  induction elements with
  | nil => exact List.intercalate_singleton
  | cons e rest ih =>
    have hlisted : listed (e :: rest) = (e ++ [0x2C]) ++ listed rest := List.flatMap_cons
    obtain ⟨next, others, hnext⟩ : ∃ next others, rest ++ [last] = next :: others :=
      List.exists_cons_of_ne_nil (by simp)
    rw [List.cons_append, hnext, List.intercalate_cons_cons, ← hnext, ih, hlisted,
      List.append_assoc (e ++ [0x2C])]

/-- An item that is laid out properly and has a value. -/
structure ItemText.IsItem (i : ItemText) : Prop where
  laid : i.Laid
  isValue : IsValue i.value

/-- A member that is laid out properly and has a value. -/
structure MemberText.IsMember (m : MemberText) : Prop where
  laid : m.Laid
  isValue : IsValue m.item.value

/-- **What was read before a value or a key** that is to come, without the blanks before it. -/
inductive Front : Reader → List UInt8 → Prop where
  -- The innermost container comes last, and what was read of it ends with a comma, a bracket or a
  -- colon.
  | outermost : Front ⟨[], .value⟩ []
  | item {stack : List Open} {done : List Node} {front pad : List UInt8} {items : List ItemText}
      (h : Front ⟨stack, .value⟩ front) (hpad : Blanks pad) (hitems : ∀ i ∈ items, i.IsItem)
      (hlength : items.length = done.length) :
      Front ⟨.array done :: stack, .value⟩
        (front ++ (pad ++ 0x5B :: listed (items.map ItemText.bytes)))
  | key {stack : List Open} {done : List (Spelling × Node)} {front pad : List UInt8}
      {members : List MemberText} (h : Front ⟨stack, .value⟩ front) (hpad : Blanks pad)
      (hmembers : ∀ m ∈ members, m.IsMember) (hlength : members.length = done.length) :
      Front ⟨stack, .key done⟩ (front ++ (pad ++ 0x7B :: listed (members.map MemberText.bytes)))
  | member {stack : List Open} {done : List (Spelling × Node)} {s : Spelling}
      {front before key between : List UInt8} (h : Front ⟨stack, .key done⟩ front)
      (hbefore : Blanks before) (hkey : IsString key) (hbetween : Blanks between) :
      Front ⟨.member done s :: stack, .value⟩
        (front ++ (before ++ (key ++ (between ++ [0x3A]))))

/-- The text of an object, without blanks around it. -/
def IsObject (text : List UInt8) : Prop :=
  ∃ (pad : List UInt8) (members : List MemberText), Blanks pad ∧ (∀ m ∈ members, m.IsMember) ∧
    text = 0x7B :: (pad ++ ([0x2C].intercalate (members.map MemberText.bytes) ++ [0x7D]))

namespace Reader

/-- **A text up to some point,** by the state of its reader. -/
inductive Spells : Reader → List UInt8 → Prop where
  /-- A value or a key is to come, and so far there are blanks. -/
  | awaits {r : Reader} {front pad : List UInt8} (h : Front r front) (hpad : Blanks pad) :
      Spells r (front ++ pad)
  | word {stack : List Open} {n : Node} {front pad seen rest : List UInt8}
      (h : Front ⟨stack, .value⟩ front) (hpad : Blanks pad) (hword : IsValue (seen ++ rest))
      (hrest : rest ≠ []) (hnode : ∀ members stop, n ≠ .object members stop) :
      Spells ⟨stack, .word rest n⟩ (front ++ (pad ++ seen))
  | numeral {stack : List Open} {r : NumeralReader} {front pad seen : List UInt8}
      (h : Front ⟨stack, .value⟩ front) (hpad : Blanks pad) (hnumber : r.phase.Spells seen) :
      Spells ⟨stack, .numeral r⟩ (front ++ (pad ++ seen))
  | string {stack : List Open} {r : StringReader} {front pad seen : List UInt8}
      (h : Front ⟨stack, .value⟩ front) (hpad : Blanks pad) (hstring : r.phase.Spells seen) :
      Spells ⟨stack, .string r⟩ (front ++ (pad ++ 0x22 :: seen))
  | afterItem {stack : List Open} {done : List Node} {n : Node} {front : List UInt8}
      {last : ItemText} (h : Front ⟨.array done :: stack, .value⟩ front) (hlast : last.IsItem) :
      Spells ⟨stack, .afterItem (n :: done)⟩ (front ++ last.bytes)
  | inKey {stack : List Open} {done : List (Spelling × Node)} {r : StringReader}
      {front pad seen : List UInt8} (h : Front ⟨stack, .key done⟩ front) (hpad : Blanks pad)
      (hstring : r.phase.Spells seen) :
      Spells ⟨stack, .inKey done r⟩ (front ++ (pad ++ 0x22 :: seen))
  | colon {stack : List Open} {done : List (Spelling × Node)} {s : Spelling}
      {front before key between : List UInt8} (h : Front ⟨stack, .key done⟩ front)
      (hbefore : Blanks before) (hkey : IsString key) (hbetween : Blanks between) :
      Spells ⟨stack, .colon done s⟩ (front ++ (before ++ (key ++ between)))
  | afterMember {stack : List Open} {done : List (Spelling × Node)} {m : Spelling × Node}
      {front : List UInt8} {last : MemberText} (h : Front ⟨stack, .key done⟩ front)
      (hlast : last.IsMember) : Spells ⟨stack, .afterMember (m :: done)⟩ (front ++ last.bytes)
  | complete {n : Node} {pad value after : List UInt8} (hpad : Blanks pad) (hvalue : IsValue value)
      (hafter : Blanks after) (hnode : ∀ members stop, n = .object members stop → IsObject value) :
      Spells ⟨[], .complete n false⟩ (pad ++ (value ++ after))

/-- **A tree that is broken for good:** it is settled and cannot be skipped, or something stands
behind it. -/
def Broken (r : Reader) : Prop :=
  (∃ n, r = ⟨[], .settled ⟨n, false⟩⟩ ∧ n.skip ≠ .ok ()) ∨ ∃ n, r = ⟨[], .complete n true⟩

variable {stack : List Open} {n : Node} {text front pad value : List UInt8} {b : UInt8}

theorem Broken.step {r : Reader} (h : r.Broken) (b : UInt8) : (r.step b).Broken := by
  obtain ⟨n, rfl, hn⟩ | ⟨n, rfl⟩ := h
  · exact Or.inl ⟨n, rfl, hn⟩
  · exact Or.inr ⟨n, rfl⟩

theorem skip_close_ne (h : n.skip ≠ .ok ()) : (Open.close stack n).skip ≠ .ok () := by
  induction stack generalizing n with
  | nil => exact h
  | cons first rest ih =>
    cases first with
    | array items =>
      refine ih fun hskip => h ?_
      exact (Node.skip_array_iff.mp hskip).1 n (by simp)
    | member members key =>
      refine ih fun hskip => h ?_
      exact ((Node.skip_object_iff.mp hskip).1 (key, n) (by simp)).2

theorem broken_settle (h : n.skip ≠ .ok ()) : (settle stack n).Broken :=
  Or.inl ⟨_, rfl, skip_close_ne h⟩

theorem skip_array_ne (items : List Node) (b : Break) : (Node.array items (some b)).skip ≠ .ok () :=
  fun h => nomatch (Node.skip_array_iff.mp h).2

theorem skip_object_ne (members : List (Spelling × Node)) (b : Break) :
    (Node.object members (some b)).skip ≠ .ok () :=
  fun h => nomatch (Node.skip_object_iff.mp h).2

theorem skip_broken_ne (b : Break) : (Node.broken b).skip ≠ .ok () := nofun

/-- A value is put where it belongs: behind the front, as an element, as a member, or as the
outermost one. -/
theorem spells_accept (h : Front ⟨stack, .value⟩ front) (hpad : Blanks pad)
    (hvalue : IsValue value) (hnode : ∀ members stop, n = .object members stop → IsObject value) :
    (accept stack n).Spells (front ++ (pad ++ value)) := by
  -- The value stands alone, in an array, or behind a key.
  rcases stack with - | ⟨done | ⟨done, s⟩, stack⟩
  · cases h
    have hcomplete := Spells.complete hpad hvalue .nil hnode
    rwa [List.append_nil] at hcomplete
  · have hitem : ItemText.IsItem ⟨pad, value, []⟩ := ⟨⟨hpad, .nil⟩, hvalue⟩
    have hafter := Spells.afterItem (n := n) h hitem
    rwa [ItemText.bytes, List.append_nil] at hafter
  · cases h with
    | @member _ _ _ front before key between hfront hbefore hkey hbetween =>
      let last : MemberText := ⟨before, key, between, ⟨pad, value, []⟩⟩
      have hmember : last.IsMember := ⟨⟨hbefore, hkey, hbetween, hpad, .nil⟩, hvalue⟩
      have hbytes : front ++ (before ++ (key ++ (between ++ [0x3A]))) ++ (pad ++ value) =
          front ++ last.bytes := by
        simp only [last, MemberText.bytes, ItemText.bytes, List.append_assoc, List.cons_append,
          List.nil_append, List.append_nil]
      rw [hbytes]
      exact .afterMember hfront hmember

/-- **The reader goes on with a text,** or has found its tree broken. -/
def Goes (r : Reader) (text : List UInt8) : Prop := r.Spells text ∨ r.Broken

/-- After an element there are blanks, a comma or the end of the array; all else breaks it. -/
theorem goes_afterItem {done : List Node} {last : ItemText}
    (h : Front ⟨.array done :: stack, .value⟩ front) (hlast : last.IsItem) :
    (stepAfterItem stack (n :: done) b).Goes (front ++ last.bytes ++ [b]) := by
  unfold stepAfterItem
  split_ifs with blank comma close
  -- A blank belongs to what stands behind the element.
  · left
    let last' : ItemText := { last with after := last.after ++ [b] }
    have hitem : last'.IsItem :=
      ⟨⟨hlast.laid.before, hlast.laid.after.concat blank⟩, hlast.isValue⟩
    have hbytes : front ++ last.bytes ++ [b] = front ++ last'.bytes := by
      simp only [last', ItemText.bytes, List.append_assoc]
    rw [hbytes]
    exact .afterItem h hitem
  -- A comma puts the element among those that are done.
  · left
    cases h with
    | @item _ _ front pad items h hpad hitems hlength =>
      have hall := List.forall_mem_append.mpr ⟨hitems, List.forall_mem_singleton.mpr hlast⟩
      have hmore : (items ++ [last]).length = (n :: done).length := by simp [hlength]
      have hbytes :
          front ++ (pad ++ 0x5B :: listed (items.map ItemText.bytes)) ++ last.bytes ++ [b] =
            front ++ (pad ++ 0x5B :: listed ((items ++ [last]).map ItemText.bytes)) ++ [] := by
        simp only [List.map_append, List.map_cons, List.map_nil, listed_concat, comma,
          List.append_assoc, List.cons_append, List.append_nil]
      rw [hbytes]
      exact .awaits (.item h hpad hall hmore) .nil
  · left
    cases h with
    | @item _ _ front pad items h hpad hitems hlength =>
      have hall := List.forall_mem_append.mpr ⟨hitems, List.forall_mem_singleton.mpr hlast⟩
      -- A bracket closes the array, which then is a value in what was open before it.
      let elements := (items ++ [last]).map ItemText.bytes
      let array := 0x5B :: ([0x2C].intercalate elements ++ [0x5D])
      have hvalue : IsValue array :=
        .array (by simp) (fun i hi => (hall i hi).laid) fun i hi => (hall i hi).isValue
      have hbytes :
          front ++ (pad ++ 0x5B :: listed (items.map ItemText.bytes)) ++ last.bytes ++ [b] =
            front ++ (pad ++ array) := by
        simp only [array, elements, List.map_append, List.map_cons, List.map_nil,
          intercalate_concat, close, List.append_assoc, List.cons_append]
      rw [hbytes]
      exact spells_accept h hpad hvalue (by rintro _ _ ⟨⟩)
  · exact Or.inr (broken_settle (skip_array_ne _ _))

/-- After a member there are blanks, a comma or the end of the object; all else breaks it. -/
theorem goes_afterMember {done : List (Spelling × Node)} {m : Spelling × Node} {last : MemberText}
    (h : Front ⟨stack, .key done⟩ front) (hlast : last.IsMember) :
    (stepAfterMember stack (m :: done) b).Goes (front ++ last.bytes ++ [b]) := by
  unfold stepAfterMember
  split_ifs with blank comma close
  -- A blank belongs to what stands behind the value.
  · left
    let last' : MemberText :=
      { last with item := { last.item with after := last.item.after ++ [b] } }
    have hitem : last'.item.Laid :=
      ⟨hlast.laid.item.before, hlast.laid.item.after.concat blank⟩
    have hmember : last'.IsMember :=
      ⟨⟨hlast.laid.before, hlast.laid.key, hlast.laid.between, hitem⟩, hlast.isValue⟩
    have hbytes : front ++ last.bytes ++ [b] = front ++ last'.bytes := by
      simp only [last', MemberText.bytes, ItemText.bytes, List.append_assoc, List.cons_append]
    rw [hbytes]
    exact .afterMember h hmember
  -- A comma puts the member among those that are done.
  · left
    cases h with
    | @key _ _ front pad members h hpad hmembers hlength =>
      have hall := List.forall_mem_append.mpr ⟨hmembers, List.forall_mem_singleton.mpr hlast⟩
      have hmore : (members ++ [last]).length = (m :: done).length := by simp [hlength]
      have hbytes :
          front ++ (pad ++ 0x7B :: listed (members.map MemberText.bytes)) ++ last.bytes ++ [b] =
            front ++ (pad ++ 0x7B :: listed ((members ++ [last]).map MemberText.bytes)) ++ [] := by
        simp only [List.map_append, List.map_cons, List.map_nil, listed_concat, comma,
          List.append_assoc, List.cons_append, List.append_nil]
      rw [hbytes]
      exact .awaits (.key h hpad hall hmore) .nil
  · left
    cases h with
    | @key _ _ front pad members h hpad hmembers hlength =>
      have hall := List.forall_mem_append.mpr ⟨hmembers, List.forall_mem_singleton.mpr hlast⟩
      -- A brace closes the object, which then is a value in what was open before it.
      let elements := (members ++ [last]).map MemberText.bytes
      let object := 0x7B :: ([0x2C].intercalate elements ++ [0x7D])
      have hvalue : IsValue object :=
        .object (by simp) (fun m hm => (hall m hm).laid) fun m hm => (hall m hm).isValue
      have hobject : IsObject object := ⟨[], _, .nil, hall, rfl⟩
      have hbytes :
          front ++ (pad ++ 0x7B :: listed (members.map MemberText.bytes)) ++ last.bytes ++ [b] =
            front ++ (pad ++ object) := by
        simp only [object, elements, List.map_append, List.map_cons, List.map_nil,
          intercalate_concat, close, List.append_assoc, List.cons_append]
      rw [hbytes]
      exact spells_accept h hpad hvalue fun _ _ _ => hobject
  · exact Or.inr (broken_settle (skip_object_ne _ _))

/-- After the outermost value there are only blanks. All else is trailing, which is told apart from
a break. -/
theorem goes_complete (hpad : Blanks pad) (hvalue : IsValue value) {after : List UInt8}
    (hafter : Blanks after)
    (hnode : ∀ members stop, n = .object members stop → IsObject value) :
    (stepComplete n false b).Goes (pad ++ (value ++ after) ++ [b]) := by
  unfold stepComplete
  cases blank : isBlank b with
  | false => exact Or.inr (Or.inr ⟨n, rfl⟩)
  | true =>
    left
    have hbytes : pad ++ (value ++ after) ++ [b] = pad ++ (value ++ (after ++ [b])) := by
      simp only [List.append_assoc]
    rw [hbytes]
    exact .complete hpad hvalue (hafter.concat blank) hnode

/-- A value that was over before the byte, by the place that it stands in: `goes_afterItem`,
`goes_afterMember` and `goes_complete`. -/
theorem goes_after (h : (accept stack n).Spells text) :
    (stepAfter (accept stack n) b).Goes (text ++ [b]) := by
  rcases stack with - | ⟨done | ⟨done, s⟩, stack⟩
  · cases h with
    | awaits h => cases h
    | complete hpad hvalue hafter hnode => exact goes_complete hpad hvalue hafter hnode
  · cases h with
    | awaits h => cases h
    | afterItem h hlast => exact goes_afterItem h hlast
  · cases h with
    | awaits h => cases h
    | afterMember h hlast => exact goes_afterMember h hlast

/-! ### One byte -/

/-- The first digit of a number without a sign: a zero stands alone, any other begins the whole
part. -/
theorem spells_firstDigit {d : Nat} (digit : digit? b = some d) :
    (if d = 0 then NumeralPhase.zero else NumeralPhase.whole).Spells [b] := by
  have hsign : ([] : List UInt8) = [] ∨ ([] : List UInt8) = [0x2D] := Or.inl rfl
  by_cases hd : d = 0
  · rw [if_pos hd, (eq_zero_iff_of_digit? digit).mp hd]
    exact .zero hsign
  · rw [if_neg hd]
    have hne : b ≠ 0x30 := fun hzero => hd ((eq_zero_iff_of_digit? digit).mpr hzero)
    exact .whole hsign (isDigit_of_digit? digit).1 hne nofun

/-- A closing bracket where a value is to come ends an empty array. -/
theorem goes_emptyArray (h : Front ⟨.array [] :: stack, .value⟩ front) (hpad : Blanks pad) :
    (accept stack (.array [] none)).Goes (front ++ pad ++ [0x5D]) := by
  left
  cases h with
  | @item _ _ front before items h hbefore hitems hlength =>
    obtain rfl : items = [] := List.length_eq_zero_iff.mp hlength
    have hbytes : front ++ (before ++ 0x5B :: listed ([].map ItemText.bytes)) ++ pad ++ [0x5D] =
        front ++ (before ++ 0x5B :: (pad ++ [0x5D])) := by
      simp only [listed, List.map_nil, List.flatMap_nil, List.append_assoc, List.cons_append,
        List.nil_append]
    rw [hbytes]
    exact spells_accept h hbefore (.emptyArray hpad) (by rintro _ _ ⟨⟩)

/-- An object may close at once, in place of its first key. -/
theorem goes_emptyObject (h : Front ⟨stack, .key []⟩ front) (hpad : Blanks pad) :
    (accept stack (.object [] none)).Goes (front ++ pad ++ [0x7D]) := by
  left
  cases h with
  | @key _ _ front before members h hbefore hmembers hlength =>
    obtain rfl : members = [] := List.length_eq_zero_iff.mp hlength
    have hobject : IsObject (0x7B :: (pad ++ [0x7D])) := ⟨pad, [], hpad, nofun, rfl⟩
    have hbytes : front ++ (before ++ 0x7B :: listed ([].map MemberText.bytes)) ++ pad ++ [0x7D] =
        front ++ (before ++ 0x7B :: (pad ++ [0x7D])) := by
      simp only [listed, List.map_nil, List.flatMap_nil, List.append_assoc, List.cons_append,
        List.nil_append]
    rw [hbytes]
    exact spells_accept h hbefore (.emptyObject hpad) fun _ _ _ => hobject

/-- **A value starts:** with a blank that is passed over, or with the byte that tells its kind. A
bracket right after the one that opened it ends an empty array. -/
theorem goes_value (h : Front ⟨stack, .value⟩ front) (hpad : Blanks pad) :
    (startValue stack b).Goes (front ++ pad ++ [b]) := by
  -- In the order in which `startValue` looks at the byte: a blank, the first bytes of the kinds of
  -- values, and last a bracket that closes.
  unfold startValue
  split_ifs with blank quote brace bracket n t f minus close
  · left
    rw [List.append_assoc]
    exact .awaits h (hpad.concat blank)
  · left
    rw [List.append_assoc, quote]
    exact .string h hpad (StringReader.spells_start rfl)
  · left
    have hnone : ∀ m ∈ ([] : List MemberText), m.IsMember := nofun
    have hkey : Front ⟨stack, .key []⟩ (front ++ (pad ++ 0x7B :: listed [])) :=
      .key h hpad hnone rfl
    have hbytes : front ++ pad ++ [b] = front ++ (pad ++ 0x7B :: listed []) ++ [] := by
      simp only [brace, listed, List.flatMap_nil, List.append_assoc, List.append_nil]
    rw [hbytes]
    exact .awaits hkey .nil
  · left
    have hnone : ∀ i ∈ ([] : List ItemText), i.IsItem := nofun
    have hitem : Front ⟨.array [] :: stack, .value⟩ (front ++ (pad ++ 0x5B :: listed [])) :=
      .item h hpad hnone rfl
    have hbytes : front ++ pad ++ [b] = front ++ (pad ++ 0x5B :: listed []) ++ [] := by
      simp only [bracket, listed, List.flatMap_nil, List.append_assoc, List.append_nil]
    rw [hbytes]
    exact .awaits hitem .nil
  · left
    rw [List.append_assoc, n]
    exact .word h hpad .null (List.cons_ne_nil _ _) (by rintro _ _ ⟨⟩)
  · left
    rw [List.append_assoc, t]
    exact .word h hpad .true (List.cons_ne_nil _ _) (by rintro _ _ ⟨⟩)
  · left
    rw [List.append_assoc, f]
    exact .word h hpad .false (List.cons_ne_nil _ _) (by rintro _ _ ⟨⟩)
  · left
    rw [List.append_assoc, minus]
    exact .numeral h hpad .sign
  · rw [close]
    -- Only an array that was just opened is closed here.
    split
    · exact goes_emptyArray h hpad
    · exact Or.inr (broken_settle (skip_array_ne _ _))
    · exact Or.inr (broken_settle (skip_broken_ne _))
  · split
    · next d digit =>
      left
      rw [List.append_assoc]
      exact .numeral h hpad (spells_firstDigit digit)
    · exact Or.inr (broken_settle (skip_broken_ne _))

/-- A key starts with a quote. Before the first one the object may end. -/
theorem goes_key {done : List (Spelling × Node)} (h : Front ⟨stack, .key done⟩ front)
    (hpad : Blanks pad) : (stepKey stack done b).Goes (front ++ pad ++ [b]) := by
  unfold stepKey
  -- A brace may close only in front of the first key, so that nothing was read yet.
  split_ifs with blank quote close empty
  · left
    rw [List.append_assoc]
    exact .awaits h (hpad.concat blank)
  · left
    rw [List.append_assoc, quote]
    exact .inKey h hpad (StringReader.spells_start rfl)
  · rw [close]
    rw [List.isEmpty_iff.mp empty] at h
    exact goes_emptyObject h hpad
  · exact Or.inr (broken_settle (skip_object_ne _ _))
  · exact Or.inr (broken_settle (skip_object_ne _ _))

/-- Between a key and its value there are blanks and one colon. -/
theorem goes_colon {done : List (Spelling × Node)} {s : Spelling} {before key between : List UInt8}
    (h : Front ⟨stack, .key done⟩ front) (hbefore : Blanks before) (hkey : IsString key)
    (hbetween : Blanks between) :
    (stepColon stack done s b).Goes (front ++ (before ++ (key ++ between)) ++ [b]) := by
  unfold stepColon
  split_ifs with blank colon
  · left
    have hbytes : front ++ (before ++ (key ++ between)) ++ [b] =
        front ++ (before ++ (key ++ (between ++ [b]))) := by simp only [List.append_assoc]
    rw [hbytes]
    exact .colon h hbefore hkey (hbetween.concat blank)
  · left
    have hbytes : front ++ (before ++ (key ++ between)) ++ [b] =
        front ++ (before ++ (key ++ (between ++ [0x3A]))) ++ [] := by
      simp only [colon, List.append_assoc, List.append_nil]
    rw [hbytes]
    exact .awaits (.member h hbefore hkey hbetween) .nil
  · refine Or.inr (broken_settle fun hskip => ?_)
    -- The member whose colon is missing is broken, and so the object cannot be skipped.
    have hlast := (Node.skip_object_iff.mp hskip).1 (s, .broken Fault.colonExpected.break) (by simp)
    exact skip_broken_ne _ hlast.2

/-- The bytes of `null`, `true` and `false` are fixed. -/
theorem goes_word {seen rest : List UInt8} (h : Front ⟨stack, .value⟩ front) (hpad : Blanks pad)
    (hword : IsValue (seen ++ rest)) (hrest : rest ≠ [])
    (hnode : ∀ members stop, n ≠ .object members stop) :
    (step ⟨stack, .word rest n⟩ b).Goes (front ++ (pad ++ seen) ++ [b]) := by
  obtain ⟨expected, others, rfl⟩ := List.exists_cons_of_ne_nil hrest
  have hstep : step ⟨stack, .word (expected :: others) n⟩ b =
      if b ≠ expected then settle stack (.broken Fault.wordExpected.break)
      else if others.isEmpty then accept stack n else ⟨stack, .word others n⟩ := rfl
  rw [hstep, List.append_assoc, List.append_assoc]
  split_ifs with hne hlast
  · exact Or.inr (broken_settle (skip_broken_ne _))
  -- The last of them makes the value.
  · left
    rw [not_not.mp hne]
    rw [List.isEmpty_iff.mp hlast] at hword
    exact spells_accept h hpad hword fun members stop heq => absurd heq (hnode members stop)
  -- Others are to come.
  · left
    rw [not_not.mp hne]
    rw [List.append_cons] at hword
    exact .word h hpad hword (fun hnil => hlast (List.isEmpty_iff.mpr hnil)) hnode

/-- A number has no end of its own: it ends with the byte behind it, which is looked at again. -/
theorem goes_numeral {r : NumeralReader} {seen : List UInt8} (h : Front ⟨stack, .value⟩ front)
    (hpad : Blanks pad) (hnumber : r.phase.Spells seen) :
    (step ⟨stack, .numeral r⟩ b).Goes (front ++ (pad ++ seen) ++ [b]) := by
  cases hstep : r.step b with
  -- The byte is one of the number.
  | more r' =>
    have hmore : step ⟨stack, .numeral r⟩ b = ⟨stack, .numeral r'⟩ := by simp only [step, hstep]
    rw [hmore, List.append_assoc, List.append_assoc]
    exact Or.inl (.numeral h hpad (NumeralReader.spells_step hnumber hstep))
  -- The number was complete, and the byte comes after it.
  | ended =>
    have hended : step ⟨stack, .numeral r⟩ b = stepAfter (accept stack (.numeral r.numeral)) b := by
      simp only [step, hstep]
    have hvalue : IsValue seen := .number (hnumber.isNumber (NumeralReader.mayEnd_of_step hstep))
    rw [hended]
    exact goes_after (spells_accept h hpad hvalue (by rintro _ _ ⟨⟩))
  | invalid =>
    have hinvalid : step ⟨stack, .numeral r⟩ b =
        settle stack (.broken Fault.invalidNumber.break) := by simp only [step, hstep]
    rw [hinvalid]
    exact Or.inr (broken_settle (skip_broken_ne _))

/-- A string ends with its quote, or it is cut by a byte that may not stand in it. -/
theorem goes_string {r : StringReader} {seen : List UInt8} (h : Front ⟨stack, .value⟩ front)
    (hpad : Blanks pad) (hstring : r.phase.Spells seen) :
    (step ⟨stack, .string r⟩ b).Goes (front ++ (pad ++ 0x22 :: seen) ++ [b]) := by
  rw [List.append_assoc, List.append_assoc]
  -- The string goes on, or it has come to its end, closed or broken.
  cases hstep : r.step b with
  | inl r' =>
    rw [step_string stack hstep]
    exact Or.inl (.string h hpad (StringReader.spells_step hstring hstep))
  | inr s =>
    have hend : step ⟨stack, .string r⟩ b =
        if s.stop.isSome then settle stack (.string s) else accept stack (.string s) := by
      simp only [step, hstep]
    rw [hend]
    split_ifs with hstop
    · refine Or.inr (broken_settle fun hskip => ?_)
      rw [Spelling.skip_eq_ok_iff.mp hskip] at hstop
      cases hstop
    · have hclosed : s.stop = none := Option.not_isSome_iff_eq_none.mp hstop
      have hvalue : IsValue (0x22 :: (seen ++ [b])) :=
        .string (StringReader.isString_of_step hstring hstep hclosed)
      exact Or.inl (spells_accept h hpad hvalue (by rintro _ _ ⟨⟩))

/-- A key ends with its quote, after which a colon is to come, or is cut as a string is. -/
theorem goes_inKey {done : List (Spelling × Node)} {r : StringReader} {seen : List UInt8}
    (h : Front ⟨stack, .key done⟩ front) (hpad : Blanks pad) (hstring : r.phase.Spells seen) :
    (step ⟨stack, .inKey done r⟩ b).Goes (front ++ (pad ++ 0x22 :: seen) ++ [b]) := by
  rw [List.append_assoc, List.append_assoc]
  cases hstep : r.step b with
  | inl r' =>
    rw [step_inKey stack done hstep]
    exact Or.inl (.inKey h hpad (StringReader.spells_step hstring hstep))
  | inr s =>
    have hend : step ⟨stack, .inKey done r⟩ b =
        if s.stop.isSome then settle stack (.object ((s, .null) :: done).reverse none)
        else ⟨stack, .colon done s⟩ := by
      simp only [step, hstep]
    rw [hend]
    split_ifs with hstop
    · refine Or.inr (broken_settle fun hskip => ?_)
      -- A key that is broken is the last one of its object.
      have hlast := (Node.skip_object_iff.mp hskip).1 (s, .null) (by simp)
      rw [hlast.1] at hstop
      cases hstop
    · have hclosed : s.stop = none := Option.not_isSome_iff_eq_none.mp hstop
      have hkey : IsString (0x22 :: (seen ++ [b])) :=
        StringReader.isString_of_step hstring hstep hclosed
      have hbytes : pad ++ (0x22 :: seen ++ [b]) = pad ++ (0x22 :: (seen ++ [b]) ++ []) := by
        simp only [List.cons_append, List.append_nil]
      rw [hbytes]
      exact Or.inl (.colon h hpad hkey .nil)

/-- **One byte more.** The text goes on with it, or the tree is broken. One case for each
constructor of `Spells`, by the lemma of the same place. -/
theorem Spells.step {r : Reader} (h : r.Spells text) (b : UInt8) :
    (r.step b).Goes (text ++ [b]) := by
  cases h with
  -- Whether a value or a key is to come is told by what is open.
  | awaits h hpad =>
    cases h with
    | outermost => exact goes_value .outermost hpad
    | item h hpad' hitems hlength => exact goes_value (.item h hpad' hitems hlength) hpad
    | key h hpad' hmembers hlength => exact goes_key (.key h hpad' hmembers hlength) hpad
    | member h hbefore hkey hbetween => exact goes_value (.member h hbefore hkey hbetween) hpad
  | word h hpad hword hrest hnode => exact goes_word h hpad hword hrest hnode
  | numeral h hpad hnumber => exact goes_numeral h hpad hnumber
  | string h hpad hstring => exact goes_string h hpad hstring
  | afterItem h hlast => exact goes_afterItem h hlast
  | inKey h hpad hstring => exact goes_inKey h hpad hstring
  | colon h hbefore hkey hbetween => exact goes_colon h hbefore hkey hbetween
  | afterMember h hlast => exact goes_afterMember h hlast
  | complete hpad hvalue hafter hnode => exact goes_complete hpad hvalue hafter hnode

/-- **Any number of bytes more.** What is broken stays so (`Broken.step`), and what goes on is
`Spells.step`. -/
theorem Goes.foldl {r : Reader} (h : r.Goes text) (bytes : List UInt8) :
    (bytes.foldl Reader.step r).Goes (text ++ bytes) := by
  induction bytes generalizing r text with
  | nil => rwa [List.append_nil]
  | cons b rest ih =>
    have hstep : (r.step b).Goes (text ++ [b]) := by
      rcases h with h | h
      · exact h.step b
      · exact Or.inr (h.step b)
    have hrest := ih hstep
    rwa [List.append_assoc] at hrest

/-! ### The end -/

/-- A text that ends where a value is to come is not the text of a value, in whatever container it
is. -/
theorem skip_finishValue_ne : (finishValue stack).root.skip ≠ .ok () := by
  unfold finishValue
  split
  · exact skip_close_ne (skip_array_ne _ _)
  · exact skip_close_ne (skip_array_ne _ _)
  · exact skip_close_ne (skip_broken_ne _)

theorem skip_finish_key_ne (done : List (Spelling × Node)) :
    (finish ⟨stack, .key done⟩).root.skip ≠ .ok () := by
  cases done with
  | nil => exact skip_close_ne (skip_object_ne _ _)
  | cons m rest => exact skip_close_ne (skip_object_ne _ _)

theorem skip_finish_inKey_ne (done : List (Spelling × Node)) (r : StringReader) :
    (finish ⟨stack, .inKey done r⟩).root.skip ≠ .ok () := by
  refine skip_close_ne fun hskip => ?_
  have hlast := (Node.skip_object_iff.mp hskip).1 (r.spelling (some .endInString), .null) (by simp)
  cases hlast.1

theorem skip_finish_colon_ne (done : List (Spelling × Node)) (s : Spelling) :
    (finish ⟨stack, .colon done s⟩).root.skip ≠ .ok () := by
  refine skip_close_ne fun hskip => ?_
  have hlast := (Node.skip_object_iff.mp hskip).1 (s, .broken Fault.endInObject.break) (by simp)
  exact skip_broken_ne _ hlast.2

/-- **The text of a value,** with blanks around it; an object if the tree is one. -/
def IsText (root : Node) (text : List UInt8) : Prop :=
  ∃ pad value after, Blanks pad ∧ IsValue value ∧ Blanks after ∧ text = pad ++ (value ++ after) ∧
    ∀ members stop, root = .object members stop → IsObject value

/-- A number is the only thing that may end with the text, and only where it `MayEnd`. -/
theorem isText_finish_numeral {r : NumeralReader} {seen : List UInt8}
    (h : Front ⟨stack, .value⟩ front) (hpad : Blanks pad) (hnumber : r.phase.Spells seen)
    (hskip : (finish ⟨stack, .numeral r⟩).root.skip = .ok ()) :
    IsText (finish ⟨stack, .numeral r⟩).root (front ++ (pad ++ seen)) := by
  -- The end of the text ends the number, if nothing is open and the number may end.
  by_cases hcomplete : r.isComplete
  · simp only [finish, if_pos hcomplete] at hskip ⊢
    rcases stack with - | ⟨done | ⟨done, s⟩, stack⟩
    · cases h
      have hvalue : IsValue seen :=
        .number (hnumber.isNumber (NumeralReader.isComplete_iff.mp hcomplete))
      refine ⟨pad, seen, [], hpad, hvalue, .nil, ?_, by rintro _ _ ⟨⟩⟩
      rw [List.append_nil, List.nil_append]
    · exact absurd hskip (skip_close_ne (skip_array_ne _ _))
    · exact absurd hskip (skip_close_ne (skip_object_ne _ _))
  · simp only [finish, if_neg hcomplete] at hskip
    exact absurd hskip (skip_close_ne (skip_broken_ne _))

/-- **A text that ends without a break** is that of a value. By the constructors of `Spells`; all
but two of the places leave a break. -/
theorem Spells.isText {r : Reader} (h : r.Spells text) (hskip : r.finish.root.skip = .ok ()) :
    IsText r.finish.root text := by
  cases h with
  | awaits h hpad =>
    cases h with
    -- A value that was to come did not.
    | outermost | item | member => exact absurd hskip skip_finishValue_ne
    | key => exact absurd hskip (skip_finish_key_ne _)
  | word => exact absurd hskip (skip_close_ne (skip_broken_ne _))
  | numeral h hpad hnumber => exact isText_finish_numeral h hpad hnumber hskip
  | string => exact absurd hskip (skip_close_ne nofun)
  | afterItem => exact absurd hskip (skip_close_ne (skip_array_ne _ _))
  | inKey => exact absurd hskip (skip_finish_inKey_ne _ _)
  | colon => exact absurd hskip (skip_finish_colon_ne _ _)
  | afterMember => exact absurd hskip (skip_close_ne (skip_object_ne _ _))
  | complete hpad hvalue hafter hnode => exact ⟨_, _, _, hpad, hvalue, hafter, rfl, hnode⟩

end Reader

/-- **Only the text of a value is read** without a break and with nothing but blanks behind it. -/
theorem Document.isText_of_read {bytes : List UInt8} (hskip : (read bytes).root.skip = .ok ())
    (hwhole : (read bytes).trailing = false) : Reader.IsText (read bytes).root bytes := by
  have hstart : Reader.Goes ⟨[], .value⟩ [] := Or.inl (.awaits .outermost .nil)
  rcases hstart.foldl bytes with h | ⟨n, heq, hn⟩ | ⟨n, heq⟩
  · exact h.isText hskip
  · rw [read, heq] at hskip
    exact absurd hskip hn
  · rw [read, heq] at hwhole
    cases hwhole

/-- **A value with blanks around it** is a document, and nothing is trailing. -/
theorem Document.read_of_done {pad value after : List UInt8} {n : Node} (hpad : Blanks pad)
    (done : (value.foldl Reader.step ⟨[], .value⟩).Done [] n) (hafter : Blanks after) :
    read (pad ++ (value ++ after)) = ⟨n, false⟩ := by
  rw [read, List.foldl_append, Reader.foldl_blanks_value [] hpad, List.foldl_append]
  exact (done.blanks hafter).finish

/-- **The texts that are read** without a break and with nothing but blanks behind them are those of
values. -/
theorem Document.read_iff {bytes : List UInt8} :
    ((read bytes).root.skip = .ok () ∧ (read bytes).trailing = false) ↔
      ∃ pad value after, Blanks pad ∧ IsValue value ∧ Blanks after ∧
        bytes = pad ++ (value ++ after) := by
  constructor
  · rintro ⟨hskip, hwhole⟩
    obtain ⟨pad, value, after, hpad, hvalue, hafter, heq, -⟩ := isText_of_read hskip hwhole
    exact ⟨pad, value, after, hpad, hvalue, hafter, heq⟩
  · rintro ⟨pad, value, after, hpad, hvalue, hafter, rfl⟩
    rw [read_of_done hpad (hvalue.reads.done []) hafter]
    exact ⟨hvalue.reads.skip, rfl⟩

/-- **An object that is read has its members at hand:** it is the object that some `ObjectText`
stands for. -/
theorem ObjectText.exists_of_read {bytes : List UInt8} {members : List (Spelling × Node)}
    {stop : Option Break} (hroot : (Document.read bytes).root = .object members stop)
    (hskip : (Document.read bytes).root.skip = .ok ())
    (hwhole : (Document.read bytes).trailing = false) : ∃ o : ObjectText, o.bytes = bytes := by
  obtain ⟨lead, value, trail, hlead, -, htrail, rfl, hobject⟩ :=
    Document.isText_of_read hskip hwhole
  obtain ⟨pad, texts, hpad, htexts, rfl⟩ := hobject members stop hroot
  let all : List Member :=
    texts.attach.map fun m => ⟨m.1, (htexts m.1 m.2).laid, (htexts m.1 m.2).isValue⟩
  refine ⟨⟨lead, pad, all, trail, hlead, hpad, htrail⟩, ?_⟩
  have hall : all.map Member.bytes = texts.map MemberText.bytes := by
    simp [all, Member.bytes, Function.comp_def]
  simp [bytes, hall]

/-! ### What is used could be skipped -/

/-- A string with a text has no break in it, as `text` looks at the break first. -/
theorem Spelling.stop_of_text {s : Spelling} {text : String} (h : s.text = .ok text) :
    s.stop = none := by
  unfold Spelling.text at h
  split at h
  · cases h
  · cases h
  · next hstop => exact hstop

namespace Node

variable {room : Nat}

theorem forall_of_valueItems {items : List Node} {values : List Value}
    (h : valueItems room items = .ok values) : ∀ n ∈ items, ∃ v, n.value room = .ok v := by
  induction items generalizing values with
  | nil => exact nofun
  | cons n rest ih =>
    obtain ⟨v, hv, h⟩ := bind_eq_ok h
    obtain ⟨others, hothers, -⟩ := bind_eq_ok h
    exact List.forall_mem_cons.mpr ⟨⟨v, hv⟩, ih hothers⟩

/-- If an object has one, each of its members has, and each of its keys is whole. -/
theorem forall_of_valueMembers {members : List (Spelling × Node)} {values : Members}
    (h : valueMembers room members = .ok values) :
    ∀ m ∈ members, m.1.stop = none ∧ ∃ v, m.2.value room = .ok v := by
  induction members generalizing values with
  | nil => exact nofun
  | cons m rest ih =>
    obtain ⟨key, hkey, h⟩ := bind_eq_ok h
    obtain ⟨v, hv, h⟩ := bind_eq_ok h
    obtain ⟨others, hothers, -⟩ := bind_eq_ok h
    exact List.forall_mem_cons.mpr ⟨⟨Spelling.stop_of_text hkey, v, hv⟩, ih hothers⟩

/-- **A tree that has a value can be skipped.** The induction is on the tree; skipping asks of each
part only that it has no break. -/
theorem skip_of_value {n : Node} {v : Value} (h : n.value room = .ok v) : n.skip = .ok () := by
  -- On the tree, since the value of a container is made of those of its parts.
  induction n using Node.induction generalizing room v with
  | null | bool | numeral | number => rfl
  | string s =>
    obtain ⟨text, htext, -⟩ := map_eq_ok h
    exact Spelling.skip_eq_ok_iff.mpr (Spelling.stop_of_text htext)
  | broken b => cases h
  -- A container has a value if there is room for it, if its parts have, and if it is closed.
  | array items stop ih =>
    cases room with
    | zero => cases h
    | succ room =>
      obtain ⟨values, hvalues, h⟩ := bind_eq_ok h
      obtain ⟨⟨⟩, hstop, -⟩ := bind_eq_ok h
      refine skip_array_iff.mpr ⟨fun n hn => ?_, ?_⟩
      · obtain ⟨v, hv⟩ := forall_of_valueItems hvalues n hn
        exact ih n hn hv
      · exact Fault.check_map_eq_ok_iff.mp hstop
  | object members stop ih =>
    cases room with
    | zero => cases h
    | succ room =>
      obtain ⟨values, hvalues, h⟩ := bind_eq_ok h
      obtain ⟨⟨⟩, hstop, -⟩ := bind_eq_ok h
      refine skip_object_iff.mpr ⟨fun m hm => ?_, ?_⟩
      · obtain ⟨hkey, v, hv⟩ := forall_of_valueMembers hvalues m hm
        exact ⟨hkey, ih m hm hv⟩
      · exact Fault.check_map_eq_ok_iff.mp hstop

end Node

/-- What a decoder takes could be skipped as well. -/
def Decoder.Whole {α : Type} (decode : Decoder α) : Prop :=
  ∀ p n a, decode p n = .ok a → n.skip = .ok ()

namespace Decoder

/-- A value of another type gives nothing: `wrongType` is an error in any case. -/
theorem wrongType_ne_ok {α : Type} {expected : Expected} {n : Node} {a : α} :
    wrongType expected n ≠ .ok a := by
  unfold wrongType
  split <;> exact nofun

/-- A text that is used could be skipped: `text` is `Whole`. -/
theorem whole_text : text.Whole := by
  intro p n a h
  unfold text at h
  split at h
  · exact Spelling.skip_eq_ok_iff.mpr (Spelling.stop_of_text (fromText_eq_ok h))
  · exact absurd h wrongType_ne_ok

/-- A value that is used could be skipped, by `Node.skip_of_value`. -/
theorem whole_value : value.Whole := fun _ _ _ h => Node.skip_of_value (fromText_eq_ok h)

/-- A decoder that may find null is `Whole` if the one for all else is, as null can be skipped
too. -/
theorem whole_option {α : Type} {decode : Decoder α} (h : decode.Whole) :
    (option decode).Whole := by
  intro p n a ha
  unfold option at ha
  split at ha
  · rfl
  · obtain ⟨b, hb, -⟩ := map_eq_ok ha
    exact h p n b hb

end Decoder

end Lookout.Json
