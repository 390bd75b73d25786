import Lookout.Text.Utf8
import Mathlib.Data.List.Basic

/-!
# Reading what was written

A text that was written as UTF-8 is read as the same text. The reader goes from character to
character: between two of them no sequence is under way, and the bytes of the next one add it to
the pieces read (`Reader.foldl_char`). Which bytes these are, and what the reader makes of the first
one, depends on how many there are; the bits of all of them together are the number of the character
again.

* `Reader.foldl_char` — the bytes of one character;
* `decode?_encode` — the bytes of a text;
* `utf8EncodeChar_of_ascii`, `le_of_mem_utf8EncodeChar` — characters of one byte, and of several;
* `decodeLossy_append_replicate` — a byte of ASCII ends whatever stands before it.
-/

namespace Lookout.Utf8

/-- A byte made of a number below `256` has that number. -/
theorem toNat_ofNat {n : Nat} (h : n < 256) : (UInt8.ofNat n).toNat = n := by
  rw [UInt8.toNat_ofNat']
  exact Nat.mod_eq_of_lt h

/-- A character has the number it was made of, if there is a character of that number. -/
theorem toNat_charOfNat {n : Nat} (h : n.isValidChar) : (Char.ofNat n).toNat = n := by
  rw [Char.ofNat, dif_pos h]
  rfl

theorem utf8EncodeChar_of_ascii {c : Char} (h : c.toNat < 0x80) :
    String.utf8EncodeChar c = [UInt8.ofNat c.toNat] :=
  if_pos (Nat.le_of_lt_succ h)

/-- No byte of another character could be taken for an ASCII one: all of them are from `0x80` on. -/
theorem le_of_mem_utf8EncodeChar {c : Char} (h : 0x80 ≤ c.toNat) {b : UInt8}
    (hb : b ∈ String.utf8EncodeChar c) : 0x80 ≤ b.toNat := by
  have hval : c.val.toNat = c.toNat := rfl
  unfold String.utf8EncodeChar at hb
  simp only [hval] at hb
  -- Two, three and four bytes, each with its mark.
  split at hb
  · omega
  · split at hb
    · simp only [List.mem_cons, List.not_mem_nil, or_false] at hb
      rcases hb with rfl | rfl <;> (rw [toNat_ofNat (by omega)]; omega)
    · split at hb
      · simp only [List.mem_cons, List.not_mem_nil, or_false] at hb
        rcases hb with rfl | rfl | rfl <;> (rw [toNat_ofNat (by omega)]; omega)
      · simp only [List.mem_cons, List.not_mem_nil, or_false] at hb
        rcases hb with rfl | rfl | rfl | rfl <;> (rw [toNat_ofNat (by omega)]; omega)

/-! ### First bytes -/

/-- A byte below `0x80` is a character of its own. -/
theorem lead_one : ∀ n < 0x80, lead (UInt8.ofNat n) = .scalar (Char.ofNat n) := by
  intro n hn
  have hbyte := toNat_ofNat (Nat.lt_trans hn (by decide : 0x80 < 256))
  rw [lead, if_pos (by rw [UInt8.lt_iff_toNat_lt, hbyte]; exact hn), hbyte]

theorem lead_two : ∀ k < 32, 2 ≤ k → lead (UInt8.ofNat (k + 192)) = .opens ⟨1, 0x80, 0xBF, k⟩ := by
  decide

/-- A byte that announces two more. Overlong forms and surrogates are ruled out by the bounds of the
second byte. -/
theorem lead_three : ∀ k < 16, lead (UInt8.ofNat (k + 224)) =
    .opens ⟨2, if k = 0 then 0xA0 else 0x80, if k = 13 then 0x9F else 0xBF, k⟩ := by
  decide

/-- A byte that announces three more. Overlong forms and values beyond the last character are ruled
out by the bounds of the second byte. -/
theorem lead_four : ∀ k < 5, lead (UInt8.ofNat (k + 240)) =
    .opens ⟨3, if k = 0 then 0x90 else 0x80, if k = 4 then 0x8F else 0xBF, k⟩ := by
  decide

namespace Reader

/-! ### Characters -/

variable (done : List (Option Char))

/-- A byte that announces others is remembered as `Pending`. -/
theorem step_opens {b : UInt8} {p : Pending} (h : lead b = .opens p) :
    step ⟨done, none⟩ b = ⟨done, some p⟩ := by
  rw [step, start, h]

/-- A byte that continues the sequence under way; `low` and `high` bound its six bits. -/
theorem step_pending {more bits k : Nat} {low high : UInt8} (hk : k < 64)
    (hlow : low.toNat ≤ k + 128) (hhigh : k + 128 ≤ high.toNat) :
    step ⟨done, some ⟨more, low, high, bits⟩⟩ (UInt8.ofNat (k + 128)) =
      if more = 1 then ⟨some (Char.ofNat (bits * 64 + k)) :: done, none⟩
      else ⟨done, some ⟨more - 1, 0x80, 0xBF, bits * 64 + k⟩⟩ := by
  have hbyte : (UInt8.ofNat (k + 128)).toNat = k + 128 := toNat_ofNat (by omega)
  have hbounds : low ≤ UInt8.ofNat (k + 128) ∧ UInt8.ofNat (k + 128) ≤ high := by
    rw [UInt8.le_iff_toNat_le, UInt8.le_iff_toNat_le, hbyte]
    exact ⟨hlow, hhigh⟩
  have hbits : k + 128 - 0x80 = k := Nat.add_sub_cancel ..
  simp only [step, if_pos hbounds, hbyte, hbits]

theorem step_tail {more bits k : Nat} (hk : k < 64) :
    step ⟨done, some ⟨more, 0x80, 0xBF, bits⟩⟩ (UInt8.ofNat (k + 128)) =
      if more = 1 then ⟨some (Char.ofNat (bits * 64 + k)) :: done, none⟩
      else ⟨done, some ⟨more - 1, 0x80, 0xBF, bits * 64 + k⟩⟩ :=
  step_pending done hk (Nat.le_add_left 128 k) (Nat.le_of_lt_succ (Nat.add_lt_add_right hk 128))

/-- **The bytes of a character are read as that character** by `step`. By how many bytes it takes;
the bounds of the second byte are met since the character is one. -/
theorem foldl_char (c : Char) :
    (String.utf8EncodeChar c).foldl step ⟨done, none⟩ = ⟨some c :: done, none⟩ := by
  have hvalid : c.toNat < 0xD800 ∨ (0xDFFF < c.toNat ∧ c.toNat < 0x110000) := c.valid
  have hval : c.val.toNat = c.toNat := rfl
  -- Its number is put together from six bits of each byte that follows.
  have hchar : ∀ n, n = c.toNat → Char.ofNat n = c := by
    rintro n rfl
    exact Char.ofNat_toNat c
  generalize c.toNat = n at *
  unfold String.utf8EncodeChar
  simp only [hval]
  have hsix : ∀ m : Nat, m % 64 < 64 := fun m => Nat.mod_lt m (by decide)
  -- One byte, two, three or four, by the size of the number.
  split
  · next h =>
    have hlead := lead_one n (Nat.lt_succ_of_le h)
    rw [List.foldl_cons, List.foldl_nil, step, start, hlead, hchar n rfl]
  · split
    · have hfirst : n / 64 % 32 = n / 64 := by omega
      have hlead := lead_two (n / 64) (by omega) (by omega)
      have hbits : n / 64 * 64 + n % 64 = n := by omega
      simp only [List.foldl_cons, List.foldl_nil]
      rw [hfirst, step_opens done hlead, step_tail done (hsix n), if_pos rfl, hchar _ hbits]
    · split
      · have hfirst : n / 4096 % 16 = n / 4096 := by omega
        have hlead := lead_three (n / 4096) (by omega)
        have hbits : (n / 4096 * 64 + n / 64 % 64) * 64 + n % 64 = n := by omega
        simp only [List.foldl_cons, List.foldl_nil]
        rw [hfirst, step_opens done hlead, step_pending done (hsix _) ?_ ?_, if_neg (by decide),
          step_tail done (hsix n), if_pos rfl, hchar _ hbits]
        · split <;> (simp only [UInt8.reduceToNat]; omega)
        · split <;> (simp only [UInt8.reduceToNat]; omega)
      · have hfirst : n / 262144 % 8 = n / 262144 := by omega
        have hlead := lead_four (n / 262144) (by omega)
        have hbits : ((n / 262144 * 64 + n / 4096 % 64) * 64 + n / 64 % 64) * 64 + n % 64 = n := by
          omega
        simp only [List.foldl_cons, List.foldl_nil]
        rw [hfirst, step_opens done hlead, step_pending done (hsix _) ?_ ?_, if_neg (by decide),
          step_tail done (hsix _), if_neg (by decide), step_tail done (hsix n), if_pos rfl,
          hchar _ hbits]
        · split <;> (simp only [UInt8.reduceToNat]; omega)
        · split <;> (simp only [UInt8.reduceToNat]; omega)

/-- The pieces of a text are its characters, by `foldl_char` for each of them. -/
theorem foldl_encode (text : List Char) :
    (encode text).foldl step ⟨done, none⟩ = ⟨(text.map some).reverse ++ done, none⟩ := by
  induction text generalizing done with
  | nil => rfl
  | cons c rest ih =>
    rw [encode_cons, List.foldl_append, foldl_char, ih, List.map_cons, List.reverse_cons,
      List.append_assoc]
    rfl

end Reader

/-- A text that is encoded is read character by character, and nothing is lost. -/
theorem pieces_encode (text : List Char) : pieces (encode text) = text.map some := by
  have hread := Reader.foldl_encode [] text
  rw [List.append_nil] at hread
  rw [pieces, show ({} : Reader) = ⟨[], none⟩ from rfl, hread]
  exact List.reverse_reverse _

/-- **What was written is read:** `decode?` undoes `encode`. -/
theorem decode?_encode (text : List Char) : decode? (encode text) = some text := by
  rw [decode?, pieces_encode]
  simp

theorem encode_injective : Function.Injective encode := by
  intro text text' h
  have hread := decode?_encode text
  rw [h, decode?_encode] at hread
  exact (Option.some.inj hread).symm

/-- A text that is encoded is decoded as itself by `decodeLossy`, which has nothing to replace. -/
theorem decodeLossy_encode (text : List Char) : decodeLossy (encode text) = text := by
  rw [decodeLossy, pieces_encode, List.map_map]
  exact List.map_id' text

/-! ### ASCII -/

/-- A byte string without a byte beyond ASCII is the text of the characters with these numbers. -/
theorem encode_ofNat {bytes : List UInt8} (ascii : ∀ b ∈ bytes, b.toNat < 0x80) :
    encode (bytes.map fun b => Char.ofNat b.toNat) = bytes := by
  induction bytes with
  | nil => rfl
  | cons b rest ih =>
    have hb : b.toNat < 0x80 := ascii b List.mem_cons_self
    have hchar : (Char.ofNat b.toNat).toNat = b.toNat :=
      toNat_charOfNat (Or.inl (Nat.lt_trans hb (by decide)))
    rw [List.map_cons, encode_cons, utf8EncodeChar_of_ascii (hchar.symm ▸ hb), hchar,
      UInt8.ofNat_toNat, ih fun b hb => ascii b (List.mem_cons_of_mem _ hb)]
    rfl

/-- The bytes of a text are ASCII if and only if its characters are. -/
theorem encode_ascii_iff {text : List Char} :
    (∀ b ∈ encode text, b.toNat < 0x80) ↔ ∀ c ∈ text, c.toNat < 0x80 := by
  constructor
  -- A character that is not ASCII has bytes that are not.
  · intro ascii c hc
    by_contra h
    have hbeyond : 0x80 ≤ c.toNat := Nat.le_of_not_lt h
    obtain ⟨b, hb⟩ : ∃ b, b ∈ String.utf8EncodeChar c :=
      List.exists_mem_of_length_pos (String.length_utf8EncodeChar c ▸ Char.utf8Size_pos c)
    have hb' : b ∈ encode text := List.mem_flatMap.mpr ⟨c, hc, hb⟩
    exact absurd (ascii b hb') (Nat.not_lt.mpr (le_of_mem_utf8EncodeChar hbeyond hb))
  · intro ascii b hb
    obtain ⟨c, hc, hb⟩ := List.mem_flatMap.mp hb
    have hlt := ascii c hc
    rw [utf8EncodeChar_of_ascii hlt, List.mem_singleton] at hb
    rwa [hb, toNat_ofNat (Nat.lt_trans hlt (by decide))]

theorem mem_of_mem_encode {text : List Char} {c : Char} (ascii : c.toNat < 0x80)
    (h : UInt8.ofNat c.toNat ∈ encode text) : c ∈ text := by
  have hbyte : (UInt8.ofNat c.toNat).toNat = c.toNat := toNat_ofNat (Nat.lt_trans ascii (by decide))
  obtain ⟨c', hc', hb⟩ := List.mem_flatMap.mp h
  by_cases hascii : c'.toNat < 0x80
  · rw [utf8EncodeChar_of_ascii hascii, List.mem_singleton, ← UInt8.toNat_inj, hbyte,
      toNat_ofNat (Nat.lt_trans hascii (by decide))] at hb
    rwa [Char.toNat_inj.mp hb]
  · have hle := le_of_mem_utf8EncodeChar (Nat.le_of_not_lt hascii) hb
    exact absurd ascii (Nat.not_lt.mpr (hbyte ▸ hle))

/-! ### What a byte of ASCII ends -/

namespace Reader

/-- A sequence that is under way does not go on with a byte of ASCII. -/
def Beyond (r : Reader) : Prop := ∀ p ∈ r.pending, 0x80 ≤ p.low

/-- Bytes that go on with a sequence are not ASCII: the lower bound is from `0x80` on. -/
theorem beyond_lead {b : UInt8} {p : Pending} (h : lead b = .opens p) : 0x80 ≤ p.low := by
  have hnever : ∀ bound ∈ ([0x80, 0xA0, 0x90] : List UInt8), 0x80 ≤ bound := by simp
  unfold lead at h
  split_ifs at h <;> cases h <;> exact hnever _ (by simp)

/-- What a byte begins, when none was begun, can only go on with bytes that are not ASCII. -/
theorem beyond_start (done : List (Option Char)) (b : UInt8) : (start done b).Beyond := by
  unfold start
  intro p hp
  split at hp
  · cases hp
  · next p' hlead =>
    cases hp
    exact beyond_lead hlead
  · cases hp

/-- What a byte leaves begun can only go on with bytes that are not ASCII. -/
theorem Beyond.step {r : Reader} (b : UInt8) : (r.step b).Beyond := by
  unfold Reader.step
  split
  · exact beyond_start r.done b
  · next p _ =>
    -- The byte goes on with what was begun, which then goes on with continuations; or it begins
    -- anew.
    split
    · intro p' hp'
      dsimp only at hp'
      split at hp'
      · cases hp'
      · cases hp'
        exact UInt8.le_refl 0x80
    · exact beyond_start _ b

theorem beyond_foldl (bytes : List UInt8) {r : Reader} (h : r.Beyond) :
    (bytes.foldl Reader.step r).Beyond := by
  induction bytes generalizing r with
  | nil => exact h
  | cons b rest ih => exact ih (Beyond.step b)

/-- **A byte of ASCII is read as itself,** and what was under way before it is over, which is what
`finish` would make of it too. -/
theorem finish_step_ascii {r : Reader} (h : r.Beyond) {b : UInt8} (ascii : b < 0x80) :
    (r.step b).finish = r.finish ++ [some (Char.ofNat b.toNat)] := by
  have hlead : lead b = .scalar (Char.ofNat b.toNat) := if_pos ascii
  unfold Reader.step
  cases hpending : r.pending with
  | none => simp [start, hlead, finish, hpending]
  | some p =>
    have hlow : ¬(p.low ≤ b ∧ b ≤ p.high) := fun hin =>
      absurd (UInt8.lt_of_lt_of_le ascii (h p hpending)) (UInt8.not_lt.mpr hin.1)
    simp [hlow, start, hlead, finish, hpending]

end Reader

/-- **An ASCII byte at the end is read as its character,** whatever stands before it, since no
character that has begun can go on with it; so `pieces` has one piece more. -/
theorem pieces_append_ascii (bytes : List UInt8) {b : UInt8} (ascii : b < 0x80) :
    pieces (bytes ++ [b]) = pieces bytes ++ [some (Char.ofNat b.toNat)] := by
  have hbeyond : (bytes.foldl Reader.step {}).Beyond := Reader.beyond_foldl bytes nofun
  rw [pieces, List.foldl_append]
  exact Reader.finish_step_ascii hbeyond ascii

/-- **Bytes of ASCII behind any bytes** stand behind their text, also where these are cut off in the
middle of a sequence. -/
theorem decodeLossy_append_replicate (bytes : List UInt8) (n : Nat) {b : UInt8} (ascii : b < 0x80) :
    decodeLossy (bytes ++ List.replicate n b) =
      decodeLossy bytes ++ List.replicate n (Char.ofNat b.toNat) := by
  induction n with
  | zero => simp
  | succ n ih =>
    have hpieces := pieces_append_ascii (bytes ++ List.replicate n b) ascii
    rw [List.append_assoc, ← List.replicate_succ'] at hpieces
    have hmap := congrArg (List.map (·.getD '\uFFFD')) hpieces
    rw [List.map_append] at hmap
    change decodeLossy (bytes ++ List.replicate (n + 1) b) =
      decodeLossy (bytes ++ List.replicate n b) ++ [Char.ofNat b.toNat] at hmap
    rw [hmap, ih, List.append_assoc, ← List.replicate_succ']

end Lookout.Utf8
