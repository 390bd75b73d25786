import Lookout.Container.Id
import Mathlib.Computability.Language
import Mathlib.Data.String.Basic

/-!
# Names and what they are cut to

Whether a text is a name is asked in three steps, and the length is counted in bytes. The rules for
names are those of a regular language (`ContainerId.names`), in which characters are counted. The
two agree because a name has only characters of one byte.

Whatever a name begins with is a name again. So an identifier that is a name can be cut off anywhere
behind its first character, and the abbreviation of an identifier is a name if the identifier is one
(`ContainerId.shortId_mem_names`). Other identifiers are cut between two characters or not at all
(`shortId_cases`).

* `ContainerId.names` — the grammar of names, and `ContainerId.isName_iff` — it is what is asked;
* `ContainerId.Harmless` — what a name has no character of;
* `takeBytes_eq_some_iff` — cutting at a number of bytes;
* `shortId_cases`, `shortId_shortId` — abbreviating an identifier.
-/

namespace Lookout

theorem utf8ByteSize_eq (s : String) : s.utf8ByteSize = String.utf8Len s.toList := by
  rw [← String.utf8ByteSize_ofList, String.ofList_toList]

namespace ContainerId

/-! ### The grammar -/

/-- A name begins with one of these. -/
def LetterOrDigit (c : Char) : Prop :=
  ('A' ≤ c ∧ c ≤ 'Z') ∨ ('a' ≤ c ∧ c ≤ 'z') ∨ ('0' ≤ c ∧ c ≤ '9')

/-- What a name goes on with behind its first character. -/
def NameChar (c : Char) : Prop := LetterOrDigit c ∨ c = '_' ∨ c = '.' ∨ c = '-'

/-- The texts of one such character. -/
def oneOf (p : Char → Prop) : Language Char := fun text => ∃ c, p c ∧ text = [c]

/-- **The grammar of names:** `[A-Za-z0-9][A-Za-z0-9_.-]{0,127}`. -/
def names : Language Char := oneOf LetterOrDigit * (1 + oneOf NameChar) ^ 127

/-- A number of characters that may be left out: `(1 + oneOf p) ^ n` is all texts of at most `n`
characters with `p`. -/
theorem mem_pow_iff {p : Char → Prop} {n : Nat} {text : List Char} :
    text ∈ (1 + oneOf p) ^ n ↔ text.length ≤ n ∧ ∀ c ∈ text, p c := by
  -- On the number of places, in each of which a character or nothing stands.
  induction n generalizing text with
  | zero =>
    rw [pow_zero, Language.mem_one]
    constructor
    · rintro rfl
      exact ⟨Nat.le_refl 0, List.forall_mem_nil _⟩
    · exact fun h => List.eq_nil_of_length_eq_zero (Nat.le_zero.mp h.1)
  | succ n ih =>
    rw [pow_succ', Language.mem_mul]
    constructor
    · rintro ⟨first, hfirst, rest, hrest, rfl⟩
      obtain ⟨hlength, hall⟩ := ih.mp hrest
      rcases (Language.mem_add _ _ _).mp hfirst with hnone | ⟨c, hc, rfl⟩
      · obtain rfl := (Language.mem_one _).mp hnone
        exact ⟨Nat.le_succ_of_le hlength, hall⟩
      · exact ⟨Nat.succ_le_succ hlength, List.forall_mem_cons.mpr ⟨hc, hall⟩⟩
    · rintro ⟨hlength, hall⟩
      cases text with
      | nil => exact ⟨[], Or.inl rfl, [], ih.mpr ⟨Nat.zero_le n, hall⟩, rfl⟩
      | cons c rest =>
        obtain ⟨hc, hrest⟩ := List.forall_mem_cons.mp hall
        exact ⟨[c], Or.inr ⟨c, hc, rfl⟩, rest,
          ih.mpr ⟨Nat.le_of_succ_le_succ hlength, hrest⟩, rfl⟩

/-- **A name** is a letter or digit and up to 127 characters behind it: the language `names` in the
form in which proofs use it. -/
theorem mem_names_iff {text : List Char} : text ∈ names ↔
    ∃ c rest, text = c :: rest ∧ LetterOrDigit c ∧ rest.length ≤ 127 ∧ ∀ d ∈ rest, NameChar d := by
  rw [names, Language.mem_mul]
  constructor
  · rintro ⟨_, ⟨c, hc, rfl⟩, rest, hrest, rfl⟩
    exact ⟨c, rest, rfl, hc, mem_pow_iff.mp hrest⟩
  · rintro ⟨c, rest, rfl, hc, hrest⟩
    exact ⟨[c], ⟨c, hc, rfl⟩, rest, mem_pow_iff.mpr hrest, rfl⟩

/-! ### Characters -/

/-- `Char.isAlphanum` is this, in ASCII only. -/
theorem isAlphanum_iff {c : Char} : c.isAlphanum = true ↔ LetterOrDigit c := by
  have hranges : c.isAlphanum = (decide ('A' ≤ c ∧ c ≤ 'Z') ||
      (decide ('a' ≤ c) && decide (c ≤ 'z')) || (decide ('0' ≤ c) && decide (c ≤ '9'))) := rfl
  simp only [hranges, Bool.or_eq_true, Bool.and_eq_true, decide_eq_true_eq, LetterOrDigit,
    or_assoc]

/-- The check that runs, `isNameChar`, is the one that the language is made of. -/
theorem isNameChar_iff {c : Char} : isNameChar c = true ↔ NameChar c := by
  rw [isNameChar, NameChar, ← isAlphanum_iff]
  simp only [Bool.or_eq_true, beq_iff_eq]
  tauto

/-- What separates the parts of keys and paths, or ends a string. -/
def separators : List Char := [':', '/', '?', '#', '%', '"', '\\']

/-- **What a name has no character of:** separators, blanks, controls, and what is beyond ASCII. -/
structure Harmless (c : Char) : Prop where
  separates : c ∉ separators
  visible : 0x20 < c.toNat
  ascii : c.toNat < 0x7F

/-- **What may stand in a name is `Harmless`** wherever a name is put: it separates nothing, it is
visible, and it takes one byte. -/
theorem NameChar.harmless {c : Char} (h : NameChar c) : Harmless c := by
  -- Letters, digits and three signs, by their numbers.
  have hrange : (65 ≤ c.toNat ∧ c.toNat ≤ 90) ∨ (97 ≤ c.toNat ∧ c.toNat ≤ 122) ∨
      (48 ≤ c.toNat ∧ c.toNat ≤ 57) ∨ c.toNat = 95 ∨ c.toNat = 46 ∨ c.toNat = 45 := by
    rcases h with (⟨hge, hle⟩ | ⟨hge, hle⟩ | ⟨hge, hle⟩) | rfl | rfl | rfl
    · exact Or.inl ⟨hge, hle⟩
    · exact Or.inr (Or.inl ⟨hge, hle⟩)
    · exact Or.inr (Or.inr (Or.inl ⟨hge, hle⟩))
    all_goals decide
  -- None of the separators is among them.
  have hnone : ∀ c ∈ separators, ¬((65 ≤ c.toNat ∧ c.toNat ≤ 90) ∨ (97 ≤ c.toNat ∧ c.toNat ≤ 122) ∨
      (48 ≤ c.toNat ∧ c.toNat ≤ 57) ∨ c.toNat = 95 ∨ c.toNat = 46 ∨ c.toNat = 45) := by
    simp [separators]
  exact ⟨fun hc => hnone c hc hrange, by omega, by omega⟩

/-! ### Names -/

theorem utf8Len_eq_length {text : List Char} (h : ∀ c ∈ text, Harmless c) :
    String.utf8Len text = text.length := by
  induction text with
  | nil => rfl
  | cons c rest ih =>
    obtain ⟨hc, hrest⟩ := List.forall_mem_cons.mp h
    have hsize : c.utf8Size = 1 :=
      Char.utf8Size_eq_one_iff.mpr (UInt32.le_iff_toNat_le.mpr (Nat.le_of_lt hc.ascii))
    rw [String.utf8Len_cons, ih hrest, hsize, List.length_cons]

/-- Each character of a name may stand in one: those behind the first by the grammar, and the first
is a letter or digit. -/
theorem forall_nameChar {text : List Char} (h : text ∈ names) : ∀ c ∈ text, NameChar c := by
  obtain ⟨c, rest, rfl, hc, -, hrest⟩ := mem_names_iff.mp h
  exact List.forall_mem_cons.mpr ⟨Or.inl hc, hrest⟩

/-- Each character of a name is `Harmless`, by `NameChar.harmless`. -/
theorem harmless_of_mem_names {text : List Char} (h : text ∈ names) : ∀ c ∈ text, Harmless c :=
  fun c hc => (forall_nameChar h c hc).harmless

/-- **What `isName` asks of a text** is that it follows the grammar. -/
theorem isName_iff {s : String} : isName s = true ↔ s.toList ∈ names := by
  have hempty : s.isEmpty = s.toList.isEmpty := by
    rw [Bool.eq_iff_iff, String.isEmpty_iff, List.isEmpty_iff, String.toList_eq_nil_iff]
  rw [isName, utf8ByteSize_eq, hempty]
  generalize s.toList = text
  simp only [Bool.and_eq_true, decide_eq_true_eq, List.all_eq_true, isNameChar_iff]
  constructor
  -- The length is checked in bytes, which are as many as characters once all are harmless.
  · rintro ⟨⟨⟨-, hlength⟩, hfirst⟩, hall⟩
    rw [utf8Len_eq_length fun c hc => (hall c hc).harmless] at hlength
    cases text with
    | nil => cases hfirst
    | cons c rest =>
      exact mem_names_iff.mpr ⟨c, rest, rfl, isAlphanum_iff.mp hfirst,
        Nat.le_of_succ_le_succ hlength, (List.forall_mem_cons.mp hall).2⟩
  · intro h
    have hlength := utf8Len_eq_length (harmless_of_mem_names h)
    have hall := forall_nameChar h
    obtain ⟨c, rest, rfl, hc, hrest, -⟩ := mem_names_iff.mp h
    refine ⟨⟨⟨rfl, ?_⟩, isAlphanum_iff.mpr hc⟩, hall⟩
    rw [hlength]
    exact Nat.succ_le_succ hrest

/-- **What a name begins with** is a name, unless it is nothing at all: `names` only bounds the
length from above. -/
theorem mem_names_of_front {text front : List Char} (h : text ∈ names) (hfront : front <+: text)
    (nonempty : front ≠ []) : front ∈ names := by
  obtain ⟨c, rest, rfl, hc, hlength, hrest⟩ := mem_names_iff.mp h
  cases front with
  | nil => exact absurd rfl nonempty
  | cons d front =>
    obtain ⟨rfl, hbehind⟩ := List.cons_prefix_cons.mp hfront
    exact mem_names_iff.mpr ⟨d, front, rfl, hc, hbehind.length_le.trans hlength,
      fun e he => hrest e (hbehind.subset he)⟩

theorem utf8ByteSize_of_mem_names {s : String} (h : s.toList ∈ names) :
    s.utf8ByteSize = s.toList.length := by
  rw [utf8ByteSize_eq, utf8Len_eq_length (harmless_of_mem_names h)]

theorem text_injective : Function.Injective text := by
  rintro ⟨text, valid⟩ ⟨text', valid'⟩ heq
  obtain rfl : text = text' := heq
  rfl

/-- A text is accepted by `ofString` as the name that has it. -/
theorem ofString_eq_ok_iff {s : String} {id : ContainerId} : ofString s = .ok id ↔ id.text = s := by
  refine ⟨text_of_ofString, ?_⟩
  rintro rfl
  exact ofString_text id

/-- **The references** are the names: `ofString` accepts a text if and only if it follows the
grammar. -/
theorem exists_ofString_iff {s : String} :
    (∃ id, ofString s = .ok id) ↔ s.toList ∈ names := by
  rw [← isName_iff]
  constructor
  · rintro ⟨id, h⟩
    rw [← text_of_ofString h]
    exact id.valid
  · exact fun h => ⟨⟨s, h⟩, dif_pos h⟩

theorem mem_names (id : ContainerId) : id.text.toList ∈ names := isName_iff.mp id.valid

theorem harmless (id : ContainerId) : ∀ c ∈ id.text.toList, Harmless c :=
  harmless_of_mem_names id.mem_names

/-- **A reference holds no separator,** so keys and paths that are put together with it can be taken
apart. -/
theorem separator_notMem (id : ContainerId) {c : Char} (h : c ∈ separators) :
    c ∉ id.text.toList := fun hc => (id.harmless c hc).separates h

end ContainerId

/-! ### Abbreviation -/

/-- **Cutting at a number of bytes** with `takeBytes` gives what the text begins with, if any
beginning of it has so many bytes. -/
theorem takeBytes_eq_some_iff {n : Nat} {text front : List Char} :
    takeBytes n text = some front ↔ front <+: text ∧ String.utf8Len front = n := by
  fun_induction takeBytes n text generalizing front with
  | case1 text =>
    rw [Option.some_inj, String.utf8Len_eq_zero]
    exact ⟨fun h => h ▸ ⟨List.nil_prefix, rfl⟩, fun h => h.2.symm⟩
  | case2 n =>
    refine iff_of_false nofun ?_
    rintro ⟨hfront, hlen⟩
    rw [List.prefix_nil.mp hfront] at hlen
    cases hlen
  -- The first character is taken, and the rest has to take up the bytes that are left.
  | case3 n c rest fits ih =>
    have hpos := c.utf8Size_pos
    rw [Option.map_eq_some_iff]
    constructor
    · rintro ⟨behind, hbehind, rfl⟩
      obtain ⟨hfront, hlen⟩ := ih.mp hbehind
      refine ⟨List.cons_prefix_cons.mpr ⟨rfl, hfront⟩, ?_⟩
      rw [String.utf8Len_cons]
      omega
    · rintro ⟨hfront, hlen⟩
      cases front with
      | nil => cases hlen
      | cons d behind =>
        obtain ⟨rfl, hbehind⟩ := List.cons_prefix_cons.mp hfront
        rw [String.utf8Len_cons] at hlen
        exact ⟨behind, ih.mpr ⟨hbehind, by omega⟩, rfl⟩
  | case4 n c rest fits =>
    -- The first character alone is too long.
    refine iff_of_false nofun ?_
    rintro ⟨hfront, hlen⟩
    cases front with
    | nil => cases hlen
    | cons d behind =>
      obtain ⟨rfl, -⟩ := List.cons_prefix_cons.mp hfront
      rw [String.utf8Len_cons] at hlen
      omega

/-- An identifier is cut by `shortId` where twelve bytes of it end, if a character ends there. -/
theorem shortId_of_front {id : String} {front : List Char} (hfront : front <+: id.toList)
    (hlen : String.utf8Len front = shortIdLength) : shortId id = String.ofList front := by
  rw [shortId, takeBytes_eq_some_iff.mpr ⟨hfront, hlen⟩]

/-- An identifier is left whole by `shortId` if no character ends at its twelfth byte. -/
theorem shortId_of_no_front {id : String}
    (h : ∀ front, front <+: id.toList → String.utf8Len front ≠ shortIdLength) :
    shortId id = id := by
  have hnone : takeBytes shortIdLength id.toList = none :=
    Option.eq_none_iff_forall_ne_some.mpr fun front hfront =>
      h front (takeBytes_eq_some_iff.mp hfront).1 (takeBytes_eq_some_iff.mp hfront).2
  rw [shortId, hnone]

/-- **An abbreviated identifier** is what the identifier begins with, `shortIdLength` bytes long, or
the whole if there is no such beginning. -/
theorem shortId_cases (id : String) : (shortId id).toList <+: id.toList ∧
    ((shortId id).utf8ByteSize = shortIdLength ∨ (shortId id = id ∧
      ∀ front, front <+: id.toList → String.utf8Len front ≠ shortIdLength)) := by
  by_cases h : ∃ front, front <+: id.toList ∧ String.utf8Len front = shortIdLength
  · obtain ⟨front, hfront, hlen⟩ := h
    rw [shortId_of_front hfront hlen, String.toList_ofList, String.utf8ByteSize_ofList]
    exact ⟨hfront, Or.inl hlen⟩
  · have hnone : ∀ front, front <+: id.toList → String.utf8Len front ≠ shortIdLength :=
      fun front hfront hlen => h ⟨front, hfront, hlen⟩
    rw [shortId_of_no_front hnone]
    exact ⟨List.prefix_rfl, Or.inr ⟨rfl, hnone⟩⟩

/-- Abbreviating twice is abbreviating once: what is cut has twelve bytes, and what is left whole
stays so. -/
theorem shortId_shortId (id : String) : shortId (shortId id) = shortId id := by
  rcases (shortId_cases id).2 with hlen | ⟨hwhole, -⟩
  · rw [utf8ByteSize_eq] at hlen
    rw [shortId_of_front List.prefix_rfl hlen, String.ofList_toList]
  · rw [hwhole, hwhole]

namespace ContainerId

/-- **A name is cut to its first twelve characters.** It has as many bytes as characters, so that
every place is between two characters. -/
theorem shortId_of_mem_names {s : String} (h : s.toList ∈ names) :
    (shortId s).toList = s.toList.take shortIdLength := by
  have hlen : ∀ front, front <+: s.toList → String.utf8Len front = front.length :=
    fun front hfront =>
      utf8Len_eq_length fun c hc => harmless_of_mem_names h c (hfront.subset hc)
  by_cases hlong : shortIdLength ≤ s.toList.length
  · have htake := List.take_prefix shortIdLength s.toList
    rw [shortId_of_front htake ?_, String.toList_ofList]
    rw [hlen _ htake, List.length_take, min_eq_left hlong]
  · rw [shortId_of_no_front fun front hfront => ?_, List.take_of_length_le (by omega)]
    have hle := hfront.length_le
    rw [hlen front hfront]
    omega

/-- **The abbreviation of a name is a name,** as it is a front of one (`mem_names_of_front`). -/
theorem shortId_mem_names {s : String} (h : s.toList ∈ names) : (shortId s).toList ∈ names := by
  rw [shortId_of_mem_names h]
  refine mem_names_of_front h (List.take_prefix _ _) fun hnil => ?_
  obtain ⟨c, rest, heq, -⟩ := mem_names_iff.mp h
  rw [heq] at hnil
  cases hnil

end ContainerId

end Lookout
