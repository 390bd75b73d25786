import Lookout.Json.Printer
import Lookout.Json.Reader
import Lookout.Proofs.Text.Utf8
import Mathlib.Data.Nat.Digits.Defs
import Mathlib.Tactic.IntervalCases

/-!
# Reading strings and integers that were written

Inside a string the reader takes one written character after the other: an escape is read as the
character that it names, and the bytes of any other character as they are. An integer is read digit
by digit; since it fits a word, no digit is left out.

* `StringReader.foldlM_text` — what stands between the quotes;
* `Reader.foldl_string`, `Reader.foldl_key` — a string as a value and as a key;
* `Reader.foldl_digits` — the digits of a number.
-/

namespace Lookout.Json

/-! ### Strings -/

namespace StringReader

/-- The reader after a byte with which the string goes on. -/
def more? (r : StringReader) (b : UInt8) : Option StringReader := (r.step b).getLeft?

variable (bytes : List UInt8)

/-- A byte that stands for itself is pushed, if it is no quote, no backslash and no control. -/
theorem more?_plain {b : UInt8} (quote : b ≠ 0x22) (backslash : b ≠ 0x5C) (control : ¬b < 0x20) :
    more? { bytes } b = some { bytes := b :: bytes } := by
  simp only [more?, step, if_neg quote, if_neg backslash, if_neg control]
  rfl

/-- Bytes that stand for themselves are put in front of those before, in reverse. -/
theorem foldlM_plain {plain : List UInt8}
    (h : ∀ b ∈ plain, b ≠ 0x22 ∧ b ≠ 0x5C ∧ ¬b < 0x20) :
    plain.foldlM more? { bytes } = some { bytes := plain.reverse ++ bytes } := by
  induction plain generalizing bytes with
  | nil => rfl
  | cons b rest ih =>
    obtain ⟨quote, backslash, control⟩ := h b List.mem_cons_self
    rw [List.foldlM_cons, more?_plain bytes quote backslash control, Option.bind_eq_bind,
      Option.bind_some, ih _ fun b hb => h b (List.mem_cons_of_mem _ hb), List.reverse_cons,
      List.append_assoc]
    rfl

/-- The bytes of a character that is not escaped stand for themselves, each of them. -/
theorem plain_of_mem {c : Char} (quote : c ≠ '"') (backslash : c ≠ '\\') (control : ¬c.toNat < 0x20)
    {b : UInt8} (hb : b ∈ String.utf8EncodeChar c) : b ≠ 0x22 ∧ b ≠ 0x5C ∧ ¬b < 0x20 := by
  have hne : ∀ {d : Char}, c ≠ d → c.toNat ≠ d.toNat := fun hne heq => hne (Char.toNat_inj.mp heq)
  have hquote : c.toNat ≠ 0x22 := hne quote
  have hbackslash : c.toNat ≠ 0x5C := hne backslash
  simp only [ne_eq, ← UInt8.toNat_inj, UInt8.lt_iff_toNat_lt]
  by_cases h : c.toNat < 0x80
  · rw [Utf8.utf8EncodeChar_of_ascii h, List.mem_singleton] at hb
    rw [hb, Utf8.toNat_ofNat (Nat.lt_trans h (by decide))]
    exact ⟨hquote, hbackslash, control⟩
  · have hle := Utf8.le_of_mem_utf8EncodeChar (Nat.le_of_not_lt h) hb
    refine ⟨?_, ?_, ?_⟩ <;> simp <;> omega

theorem hexDigit?_hexDigit : ∀ d < 16, String.utf8EncodeChar (hexDigit d) =
      [UInt8.ofNat (hexDigit d).toNat] ∧
    hexDigit? (UInt8.ofNat (hexDigit d).toNat) = some d := by
  decide

theorem more?_hex {left value d : Nat} {b : UInt8} (digit : hexDigit? b = some d)
    (more : 1 < left) : more? { bytes, phase := .hex left (some value) } b =
      some { bytes, phase := .hex (left - 1) (some (value * 16 + d)) } := by
  simp only [more?, step, digit, if_pos more]
  rfl

/-- The last digit of a number that is no surrogate makes a character, which is pushed as its
bytes. -/
theorem more?_lastHex {value d : Nat} {b : UInt8} (digit : hexDigit? b = some d)
    (scalar : value * 16 + d < 0xD800) : more? { bytes, phase := .hex 1 (some value) } b =
      some { bytes := (String.utf8EncodeChar (Char.ofNat (value * 16 + d))).reverse ++ bytes } := by
  have htrail : ¬(0xDC00 ≤ value * 16 + d ∧ value * 16 + d ≤ 0xDFFF) := by omega
  have hlead : ¬(0xD800 ≤ value * 16 + d ∧ value * 16 + d ≤ 0xDBFF) := by omega
  simp only [more?, step, digit, Nat.lt_irrefl, if_false, Option.bind_eq_bind, Option.bind_some,
    Option.pure_def, unit, htrail, hlead]
  rfl

/-- A control character is written with the four digits of its number. -/
theorem foldlM_control {c : Char} (h : c.toNat < 0x20) :
    (Utf8.encode ['\\', 'u', '0', '0', hexDigit (c.toNat / 16), hexDigit (c.toNat % 16)]).foldlM
      more? { bytes } = some { bytes := (String.utf8EncodeChar c).reverse ++ bytes } := by
  obtain ⟨hfirst, hfirst'⟩ := hexDigit?_hexDigit (c.toNat / 16) (by omega)
  obtain ⟨hsecond, hsecond'⟩ := hexDigit?_hexDigit (c.toNat % 16) (by omega)
  have hnumber : (0 * 16 + c.toNat / 16) * 16 + c.toNat % 16 = c.toNat := by omega
  -- The backslash, the letter and the first two digits.
  have hstart : (Utf8.encode ['\\', 'u', '0', '0']).foldlM more? { bytes } =
      some { bytes, phase := .hex 2 (some 0) } := rfl
  have hbytes : Utf8.encode ['\\', 'u', '0', '0', hexDigit (c.toNat / 16),
      hexDigit (c.toNat % 16)] = Utf8.encode ['\\', 'u', '0', '0'] ++
        [UInt8.ofNat (hexDigit (c.toNat / 16)).toNat,
          UInt8.ofNat (hexDigit (c.toNat % 16)).toNat] := by
    simp only [Utf8.encode_cons, Utf8.encode_nil, hfirst, hsecond, List.append_assoc,
      List.append_nil]
    rfl
  rw [hbytes, List.foldlM_append, hstart, Option.bind_eq_bind, Option.bind_some, List.foldlM_cons,
    more?_hex bytes hfirst' (by decide), Option.bind_eq_bind, Option.bind_some, List.foldlM_cons,
    more?_lastHex bytes hsecond' (by omega), hnumber, Char.ofNat_toNat]
  rfl

/-- **A written character is read as that character,** be it escaped by a letter, by its number, or
not at all. -/
theorem foldlM_char (c : Char) : (Utf8.encode (escapeChar c)).foldlM more? { bytes } =
    some { bytes := (String.utf8EncodeChar c).reverse ++ bytes } := by
  unfold escapeChar
  split_ifs with quote backslash h₁ h₂ h₃ h₄ h₅ control
  · rw [quote]
    rfl
  · rw [backslash]
    rfl
  -- The control characters that have a letter of their own.
  · rw [h₁]
    rfl
  · rw [h₂]
    rfl
  · rw [h₃]
    rfl
  · rw [h₄]
    rfl
  · rw [h₅]
    rfl
  · exact foldlM_control bytes control
  · rw [Utf8.encode_cons, Utf8.encode_nil, List.append_nil]
    exact foldlM_plain bytes fun b hb => plain_of_mem quote backslash control hb

/-- **What stands between the quotes is read as the text.** The induction is on the text, with the
bytes before it general. -/
theorem foldlM_text (text : List Char) :
    (Utf8.encode (text.flatMap escapeChar)).foldlM more? { bytes } =
      some { bytes := (Utf8.encode text).reverse ++ bytes } := by
  induction text generalizing bytes with
  | nil => rfl
  | cons c rest ih =>
    rw [List.flatMap_cons, Utf8.encode_append, List.foldlM_append, foldlM_char,
      Option.bind_eq_bind, Option.bind_some, ih, Utf8.encode_cons, List.reverse_append,
      List.append_assoc]

end StringReader

namespace Reader

variable (stack : List Open)

/-- A string that is under way, in whatever place of the tree: `into` says how its reader stands
there. -/
theorem foldl_more {r r' : StringReader} {bytes : List UInt8}
    (h : bytes.foldlM StringReader.more? r = some r') (into : StringReader → Reader)
    (goes : ∀ r b r', r.step b = .inl r' → (into r).step b = into r') :
    bytes.foldl step (into r) = into r' := by
  induction bytes generalizing r with
  | nil => exact congrArg into (Option.some.inj h)
  | cons b rest ih =>
    rw [List.foldlM_cons] at h
    obtain ⟨r₁, hfirst, hrest⟩ := Option.bind_eq_some_iff.mp h
    rw [List.foldl_cons, goes r b r₁ (Sum.getLeft?_eq_some_iff.mp hfirst), ih hrest]

theorem step_string {r r' : StringReader} {b : UInt8} (h : r.step b = .inl r') :
    step ⟨stack, .string r⟩ b = ⟨stack, .string r'⟩ := by
  simp only [step, h]

theorem step_inKey (members : List (Spelling × Node)) {r r' : StringReader} {b : UInt8}
    (h : r.step b = .inl r') : step ⟨stack, .inKey members r⟩ b = ⟨stack, .inKey members r'⟩ := by
  simp only [step, h]

theorem step_quote (text : List Char) : StringReader.step
    { bytes := (Utf8.encode text).reverse ++ [] } 0x22 =
      .inr ⟨Utf8.encode text, none, none⟩ := by
  simp [StringReader.step, StringReader.unpaired, StringReader.spelling]

/-- **A string that is a value** is read as its text, and accepted with its closing quote. -/
theorem foldl_string (s : String) : (Utf8.encode (stringText s)).foldl step ⟨stack, .value⟩ =
    accept stack (.string (.ofString s)) := by
  have hbody := foldl_more (StringReader.foldlM_text [] s.toList) (fun r => ⟨stack, .string r⟩)
    fun _ _ _ h => step_string stack h
  have hquote : step ⟨stack, .string { bytes := (Utf8.encode s.toList).reverse ++ [] }⟩ 0x22 =
      accept stack (.string (.ofString s)) := by
    simp only [step, step_quote]
    rfl
  rw [stringText, Utf8.encode_cons, Utf8.encode_append, List.foldl_append, List.foldl_append]
  have hopen : (String.utf8EncodeChar '"').foldl step ⟨stack, .value⟩ = ⟨stack, .string {}⟩ := rfl
  rw [hopen, hbody]
  exact hquote

/-- **A string that is a key** is read as its text, and a colon is to come behind it. -/
theorem foldl_key (members : List (Spelling × Node)) (s : String) :
    (Utf8.encode (stringText s)).foldl step ⟨stack, .key members⟩ =
      ⟨stack, .colon members (.ofString s)⟩ := by
  -- Between the quotes the reader is within the key.
  have hbody := foldl_more (StringReader.foldlM_text [] s.toList)
    (fun r => ⟨stack, .inKey members r⟩) fun _ _ _ h => step_inKey stack members h
  have hquote :
      step ⟨stack, .inKey members { bytes := (Utf8.encode s.toList).reverse ++ [] }⟩ 0x22 =
        ⟨stack, .colon members (.ofString s)⟩ := by
    simp only [step, step_quote]
    rfl
  have hopen : (String.utf8EncodeChar '"').foldl step ⟨stack, .key members⟩ =
      ⟨stack, .inKey members {}⟩ := rfl
  rw [stringText, Utf8.encode_cons, Utf8.encode_append, List.foldl_append, List.foldl_append,
    hopen, hbody]
  exact hquote

end Reader

/-! ### Integers -/

/-- A number of which an integer's digits were read. -/
def NumeralReader.whole (negative : Bool) (n : Nat) : NumeralReader :=
  { negative, digits := n, phase := if n = 0 then .zero else .whole }

/-- The numeral of an integer. -/
def Numeral.ofInt (i : Int) : Numeral := ⟨decide (i < 0), i.natAbs, 0, true⟩

theorem NumeralReader.isComplete_whole (negative : Bool) (n : Nat) :
    (whole negative n).isComplete = true := by
  unfold isComplete whole
  split <;> rfl

theorem NumeralReader.numeral_whole (negative : Bool) (n : Nat) :
    (whole negative n).numeral = ⟨negative, n, 0, true⟩ := by
  unfold numeral whole
  split <;> rfl

theorem digit?_digitChar : ∀ d < 10,
    Utf8.encode [Nat.digitChar d] = [UInt8.ofNat (d + 48)] ∧
      digit? (UInt8.ofNat (d + 48)) = some d := by
  decide

theorem NumeralReader.step_whole {negative : Bool} {n d : Nat} {b : UInt8} (pos : n ≠ 0)
    (fits : n * 10 + d < 0x10000000000000000) (digit : digit? b = some d) :
    (whole negative n).step b = .more (whole negative (n * 10 + d)) := by
  have hsum : n * 10 + d ≠ 0 := by omega
  simp only [step, whole, if_neg pos, if_neg hsum, digit, NumeralReader.digit]
  rw [if_neg (by simp; omega)]
  rfl

namespace Reader

variable (stack : List Open)

/-- **The digits of a number,** from where the first one is to come. By `Nat.toDigits` the last
digit comes off first, which is why the induction is on the number and not on the text. -/
theorem foldl_digits {negative : Bool} {start : Reader}
    (first : ∀ d < 10, start.step (UInt8.ofNat (d + 48)) = ⟨stack, .numeral (.whole negative d)⟩)
    {n : Nat} (fits : n < 0x10000000000000000) :
    (Utf8.encode (Nat.toDigits 10 n)).foldl step start =
      ⟨stack, .numeral (.whole negative n)⟩ := by
  -- On the number: all but the last digit are a smaller one.
  induction n using Nat.strong_induction_on with
  | _ n ih =>
    by_cases h : n < 10
    · rw [Nat.toDigits_of_lt_base h, (digit?_digitChar n h).1, List.foldl_cons, List.foldl_nil,
        first n h]
    · -- all digits but the last one are those of a tenth
      have hlt : n % 10 < 10 := Nat.mod_lt n (by decide)
      have hsplit : n / 10 * 10 + n % 10 = n := by omega
      have hstep : (NumeralReader.whole negative (n / 10)).step (UInt8.ofNat (n % 10 + 48)) =
          .more (.whole negative (n / 10 * 10 + n % 10)) :=
        NumeralReader.step_whole (by omega) (by omega) (digit?_digitChar (n % 10) hlt).2
      rw [Nat.toDigits_of_base_le (by decide) (Nat.le_of_not_lt h), Utf8.encode_append,
        List.foldl_append, ih (n / 10) (by omega) (by omega), (digit?_digitChar _ hlt).1,
        List.foldl_cons, List.foldl_nil]
      simp only [step, hstep, hsplit]

/-- **An integer,** up to where it may end: the reader holds its sign and its digits as one
number. -/
theorem foldl_integer (i : Integer) : (Utf8.encode (integerText i.val)).foldl step ⟨stack, .value⟩ =
    ⟨stack, .numeral (.whole (decide (i.val < 0)) i.val.natAbs)⟩ := by
  have hge := i.ge
  have hlt := i.lt
  have hfits : i.val.natAbs < 0x10000000000000000 := by omega
  rw [integerText, Utf8.encode_append, List.foldl_append]
  -- With a minus in front, or without.
  by_cases h : i.val < 0
  · rw [if_pos h, decide_eq_true h]
    have hsign : (Utf8.encode ['-']).foldl step ⟨stack, .value⟩ =
        ⟨stack, .numeral { negative := true, phase := .sign }⟩ := rfl
    rw [hsign]
    refine foldl_digits stack (fun d hd => ?_) hfits
    interval_cases d <;> rfl
  · rw [if_neg h, decide_eq_false h, Utf8.encode_nil, List.foldl_nil]
    refine foldl_digits stack (fun d hd => ?_) hfits
    interval_cases d <;> rfl

end Reader

end Lookout.Json
