import Lookout.Proofs.Text.Utf8
import Mathlib.Data.List.Induction

/-!
# Nothing but UTF-8 is read

A byte string that is read as a text is that text as it is written. What was read so far without an
ill-formed run is a text and the sequence that is under way (`Reader.Holds`). Of the sequence only
this matters, that whatever it goes on with makes it the bytes of a character (`Begun`). A first
byte promises it, by the bounds that it puts on the second one (`begun_of_lead`), and every further
byte hands on what was promised. An ill-formed run stays among the pieces, so a text is read to its
end without one.

* `Begun` — what a sequence under way promises;
* `Reader.Holds.step` — one byte more;
* `decode?_eq_some_iff` — the byte strings that are read as a text;
* `append_eq_encode` — the first character of a text that is written.
-/

namespace Lookout.Utf8

/-! ### Characters of several bytes -/

/-- Every number that may be one (`Nat.isValidChar`) is the number of a character. -/
theorem exists_toNat_eq {n : Nat} (h : n.isValidChar) : ∃ c : Char, c.toNat = n :=
  ⟨_, toNat_charOfNat h⟩

theorem utf8EncodeChar_two {k j : Nat} (hk : 2 ≤ k ∧ k < 32) (hj : j < 64) :
    String.utf8EncodeChar (Char.ofNat (k * 64 + j)) =
      [UInt8.ofNat (k + 192), UInt8.ofNat (j + 128)] := by
  have hval : (Char.ofNat (k * 64 + j)).val.toNat = k * 64 + j :=
    toNat_charOfNat (Or.inl (by omega))
  have hfirst : (k * 64 + j) / 64 % 32 = k := by omega
  have hsecond : (k * 64 + j) % 64 = j := by omega
  simp only [String.utf8EncodeChar, hval]
  rw [if_neg (by omega), if_pos (by omega), hfirst, hsecond]

/-- Two more bytes; neither an overlong form nor a surrogate. -/
theorem utf8EncodeChar_three {k j i : Nat} (hk : k < 16) (hj : j < 64) (hi : i < 64)
    (overlong : k = 0 → 32 ≤ j) (surrogate : k = 13 → j < 32) :
    String.utf8EncodeChar (Char.ofNat ((k * 64 + j) * 64 + i)) =
      [UInt8.ofNat (k + 224), UInt8.ofNat (j + 128), UInt8.ofNat (i + 128)] := by
  have hval : (Char.ofNat ((k * 64 + j) * 64 + i)).val.toNat = (k * 64 + j) * 64 + i := by
    refine toNat_charOfNat ?_
    unfold Nat.isValidChar
    omega
  have hfirst : ((k * 64 + j) * 64 + i) / 4096 % 16 = k := by omega
  have hsecond : ((k * 64 + j) * 64 + i) / 64 % 64 = j := by omega
  have hthird : ((k * 64 + j) * 64 + i) % 64 = i := by omega
  simp only [String.utf8EncodeChar, hval]
  rw [if_neg (by omega), if_neg (by omega), if_pos (by omega), hfirst, hsecond, hthird]

/-- Three more bytes; neither an overlong form nor beyond the last character. -/
theorem utf8EncodeChar_four {k j i l : Nat} (hk : k < 5) (hj : j < 64) (hi : i < 64) (hl : l < 64)
    (overlong : k = 0 → 16 ≤ j) (beyond : k = 4 → j < 16) :
    String.utf8EncodeChar (Char.ofNat (((k * 64 + j) * 64 + i) * 64 + l)) =
      [UInt8.ofNat (k + 240), UInt8.ofNat (j + 128), UInt8.ofNat (i + 128),
        UInt8.ofNat (l + 128)] := by
  -- The bounds of the second byte keep out what is written too long and what is no character.
  have hval : (Char.ofNat (((k * 64 + j) * 64 + i) * 64 + l)).val.toNat =
      ((k * 64 + j) * 64 + i) * 64 + l := by
    refine toNat_charOfNat ?_
    unfold Nat.isValidChar
    omega
  have hfirst : (((k * 64 + j) * 64 + i) * 64 + l) / 262144 % 8 = k := by omega
  have hsecond : (((k * 64 + j) * 64 + i) * 64 + l) / 4096 % 64 = j := by omega
  have hthird : (((k * 64 + j) * 64 + i) * 64 + l) / 64 % 64 = i := by omega
  have hfourth : (((k * 64 + j) * 64 + i) * 64 + l) % 64 = l := by omega
  simp only [String.utf8EncodeChar, hval]
  rw [if_neg (by omega), if_neg (by omega), if_neg (by omega), hfirst, hsecond, hthird, hfourth]

/-! ### Sequences under way -/

/-- **What a sequence under way promises:** whatever it goes on with, these bytes will have been the
first ones of a character. -/
def Begun (seen : List UInt8) (low high : UInt8) (bits : Nat) : Nat → Prop
  | 0 => False
  | 1 => ∀ b, low ≤ b → b ≤ high →
      seen ++ [b] = String.utf8EncodeChar (Char.ofNat (bits * 64 + (b.toNat - 0x80)))
  | more + 2 => ∀ b, low ≤ b → b ≤ high →
      Begun (seen ++ [b]) 0x80 0xBF (bits * 64 + (b.toNat - 0x80)) (more + 1)

/-- A character has begun whose other bytes are to come. -/
def Pending.Begun (p : Pending) (seen : List UInt8) : Prop :=
  Utf8.Begun seen p.low p.high p.bits p.more

/-- A byte as its six bits behind the mark of a continuation, with the bounds `low` and `high`
passed on to the bits. -/
theorem exists_of_continuation {low high b : UInt8} (hlow : low ≤ b) (hhigh : b ≤ high)
    (mark : 0x80 ≤ low) (wide : high ≤ 0xBF) :
    ∃ j < 64, b = UInt8.ofNat (j + 128) ∧ b.toNat - 0x80 = j ∧
      low.toNat ≤ j + 128 ∧ j + 128 ≤ high.toNat := by
  simp only [UInt8.le_iff_toNat_le, UInt8.reduceToNat] at *
  refine ⟨b.toNat - 128, by omega, ?_, rfl, by omega, by omega⟩
  rw [Nat.sub_add_cancel (by omega), UInt8.ofNat_toNat]

theorem begun_two {k : Nat} (hk : 2 ≤ k ∧ k < 32) :
    Begun [UInt8.ofNat (k + 192)] 0x80 0xBF k 1 := by
  intro b hlow hhigh
  obtain ⟨j, hj, rfl, hbits, -⟩ := exists_of_continuation hlow hhigh (by decide) (by decide)
  rw [hbits, utf8EncodeChar_two hk hj]
  rfl

/-- Two bytes are to follow. The first is bounded if the character would be written too long, or if
it would be half of a pair. -/
theorem begun_three {k : Nat} (hk : k < 16) {low high : UInt8} (mark : 0x80 ≤ low)
    (wide : high ≤ 0xBF) (overlong : k = 0 → 0xA0 ≤ low) (surrogate : k = 13 → high ≤ 0x9F) :
    Begun [UInt8.ofNat (k + 224)] low high k 2 := by
  intro b hlow hhigh b' hlow' hhigh'
  obtain ⟨j, hj, rfl, hbits, hge, hle⟩ := exists_of_continuation hlow hhigh mark wide
  obtain ⟨i, hi, rfl, hbits', -⟩ := exists_of_continuation hlow' hhigh' (by decide) (by decide)
  simp only [UInt8.le_iff_toNat_le, UInt8.reduceToNat] at overlong surrogate
  rw [hbits, hbits', utf8EncodeChar_three hk hj hi (fun h => ?_) fun h => ?_]
  · rfl
  · have := overlong h
    omega
  · have := surrogate h
    omega

/-- Three bytes are to follow, and the first is bounded at both ends of what there is. -/
theorem begun_four {k : Nat} (hk : k < 5) {low high : UInt8} (mark : 0x80 ≤ low)
    (wide : high ≤ 0xBF) (overlong : k = 0 → 0x90 ≤ low) (beyond : k = 4 → high ≤ 0x8F) :
    Begun [UInt8.ofNat (k + 240)] low high k 3 := by
  intro b hlow hhigh b' hlow' hhigh' b'' hlow'' hhigh''
  obtain ⟨j, hj, rfl, hbits, hge, hle⟩ := exists_of_continuation hlow hhigh mark wide
  obtain ⟨i, hi, rfl, hbits', -⟩ := exists_of_continuation hlow' hhigh' (by decide) (by decide)
  obtain ⟨l, hl, rfl, hbits'', -⟩ := exists_of_continuation hlow'' hhigh'' (by decide) (by decide)
  simp only [UInt8.le_iff_toNat_le, UInt8.reduceToNat] at overlong beyond
  rw [hbits, hbits', hbits'', utf8EncodeChar_four hk hj hi hl (fun h => ?_) fun h => ?_]
  · rfl
  · have := overlong h
    omega
  · have := beyond h
    omega

/-- **A first byte keeps to the promise** of `Begun`, by the bounds that it puts on the second
one. -/
theorem begun_of_lead {b : UInt8} {p : Pending} (h : lead b = .opens p) : p.Begun [b] := by
  -- The bits that a first byte carries.
  have hbyte : ∀ n, n ≤ b.toNat → b = UInt8.ofNat (b.toNat - n + n) := fun n hn => by
    rw [Nat.sub_add_cancel hn, UInt8.ofNat_toNat]
  unfold lead at h
  simp only [UInt8.lt_iff_toNat_lt, UInt8.reduceToNat] at h
  -- Seven ranges of first bytes. Where the second byte has bounds of its own, these keep off
  -- overlong forms, surrogates and what is beyond the last character.
  split_ifs at h with h₁ h₂ two overlong surrogate three overlong' four beyond
  · cases h
    have hbegun := begun_two (k := b.toNat - 192) (by omega)
    rwa [← hbyte 192 (by omega)] at hbegun
  · cases h
    rw [overlong]
    exact begun_three (k := 0) (by decide) (by decide) (by decide) (fun _ => by decide) nofun
  · cases h
    rw [surrogate]
    exact begun_three (k := 13) (by decide) (by decide) (by decide) nofun fun _ => by decide
  · cases h
    have hzero : b.toNat ≠ 224 := fun heq => overlong (UInt8.toNat_inj.mp heq)
    have hlast : b.toNat ≠ 237 := fun heq => surrogate (UInt8.toNat_inj.mp heq)
    have hbegun : Begun [UInt8.ofNat (b.toNat - 224 + 224)] 0x80 0xBF (b.toNat - 224) 2 :=
      begun_three (by omega) (by decide) (by decide) (by omega) (by omega)
    rwa [← hbyte 224 (by omega)] at hbegun
  · cases h
    rw [overlong']
    exact begun_four (k := 0) (by decide) (by decide) (by decide) (fun _ => by decide) nofun
  · cases h
    have hzero : b.toNat ≠ 240 := fun heq => overlong' (UInt8.toNat_inj.mp heq)
    have hbegun : Begun [UInt8.ofNat (b.toNat - 240 + 240)] 0x80 0xBF (b.toNat - 240) 3 :=
      begun_four (by omega) (by decide) (by decide) (by omega) (by omega)
    rwa [← hbyte 240 (by omega)] at hbegun
  · cases h
    rw [beyond]
    exact begun_four (k := 4) (by decide) (by decide) (by decide) nofun fun _ => by decide

/-- A byte that is a character of its own is its encoding: `lead` says which character. -/
theorem utf8EncodeChar_of_lead {b : UInt8} {c : Char} (h : lead b = .scalar c) :
    String.utf8EncodeChar c = [b] := by
  unfold lead at h
  split_ifs at h with ascii
  cases h
  have hlt : b.toNat < 0x80 := ascii
  have hchar : (Char.ofNat b.toNat).toNat = b.toNat :=
    toNat_charOfNat (Or.inl (Nat.lt_trans hlt (by decide)))
  rw [utf8EncodeChar_of_ascii (hchar.symm ▸ hlt), hchar, UInt8.ofNat_toNat]

/-! ### Texts -/

namespace Reader

/-- **What was read of a byte string** without an ill-formed run: a text, and the sequence that is
under way. -/
inductive Holds : Reader → List UInt8 → Prop where
  | between (text : List Char) : Holds ⟨(text.map some).reverse, none⟩ (encode text)
  | within (text : List Char) {p : Pending} {seen : List UInt8} (h : p.Begun seen) :
      Holds ⟨(text.map some).reverse, some p⟩ (encode text ++ seen)

theorem Holds.concat (text : List Char) (c : Char) :
    Holds ⟨some c :: (text.map some).reverse, none⟩ (encode text ++ String.utf8EncodeChar c) := by
  have h := Holds.between (text ++ [c])
  rwa [List.map_append, List.reverse_append, encode_append, encode_cons, encode_nil,
    List.append_nil] at h

theorem none_mem_start {done : List (Option Char)} (h : none ∈ done) (b : UInt8) :
    none ∈ (start done b).done := by
  unfold start
  split
  · exact List.mem_cons_of_mem _ h
  · exact h
  · exact List.mem_cons_of_mem _ h

theorem none_mem_step {r : Reader} (h : none ∈ r.done) (b : UInt8) : none ∈ (r.step b).done := by
  unfold step
  split
  · exact none_mem_start h b
  · split
    · dsimp only
      split
      · exact List.mem_cons_of_mem _ h
      · exact h
    · exact none_mem_start (List.mem_cons_of_mem _ h) b

/-- **One byte more.** By whether a character was begun and the byte goes on with it; if it does
not, what was begun is an ill-formed run. -/
theorem Holds.step {r : Reader} {bytes : List UInt8} (h : r.Holds bytes) (b : UInt8) :
    (r.step b).Holds (bytes ++ [b]) ∨ none ∈ (r.step b).done := by
  cases h with
  -- A character of one byte, the first byte of a longer one, or none.
  | between text =>
    simp only [Reader.step, start]
    split
    · next c hlead =>
      rw [← utf8EncodeChar_of_lead hlead]
      exact Or.inl (.concat text c)
    · next p hlead => exact Or.inl (.within text (begun_of_lead hlead))
    · exact Or.inr List.mem_cons_self
  -- A byte that goes on, or one that does not.
  | @within text p seen begun =>
    simp only [Reader.step]
    split
    · next hbounds =>
      left
      obtain ⟨more, low, high, bits⟩ := p
      rw [List.append_assoc]
      rcases more with - | - | more
      · exact absurd begun not_false
      · rw [if_pos rfl, begun b hbounds.1 hbounds.2]
        exact .concat text _
      · rw [if_neg (by simp)]
        exact .within text (begun b hbounds.1 hbounds.2)
    · exact Or.inr (none_mem_start List.mem_cons_self b)

/-- **What was read is a text, or something of it was not understood,** after any bytes, by
`Holds.step` for each; what was not understood stays in `done`. -/
theorem Holds.foldl {r : Reader} {seen : List UInt8} (h : r.Holds seen) (bytes : List UInt8) :
    (bytes.foldl Reader.step r).Holds (seen ++ bytes) ∨
      none ∈ (bytes.foldl Reader.step r).done := by
  -- From the last byte on, so that what was read before is at hand.
  induction bytes using List.reverseRecOn with
  | nil => exact Or.inl (by rwa [List.append_nil])
  | append_singleton bytes b ih =>
    rw [List.foldl_append, ← List.append_assoc]
    rcases ih with hholds | hnone
    · exact hholds.step b
    · exact Or.inr (none_mem_step hnone b)

/-- What was not understood is still there at the end, as `finish` only adds to it. -/
theorem none_mem_finish {r : Reader} (h : none ∈ r.done) : none ∈ r.finish := by
  rw [finish, List.mem_reverse]
  split
  · exact List.mem_cons_self
  · exact h

/-- A reader that ends with no ill-formed run has read a text; a sequence that is cut short is an
ill-formed run as well. -/
theorem Holds.exists_eq_encode {r : Reader} {bytes : List UInt8} (h : r.Holds bytes)
    (whole : none ∉ r.finish) : ∃ text, bytes = encode text := by
  cases h with
  | between text => exact ⟨text, rfl⟩
  | within text begun => exact absurd (List.mem_reverse.mpr List.mem_cons_self) whole

end Reader

/-- **The byte strings that are read as a text** by `decode?` are those that `encode` writes for
it. -/
theorem decode?_eq_some_iff {bytes : List UInt8} {text : List Char} :
    decode? bytes = some text ↔ bytes = encode text := by
  refine ⟨fun h => ?_, fun h => h ▸ decode?_encode text⟩
  -- The text of which these are the bytes is the one that was read.
  suffices hsome : ∃ text', bytes = encode text' by
    obtain ⟨text', rfl⟩ := hsome
    rw [decode?_encode] at h
    rw [Option.some.inj h]
  have hnone : none ∉ pieces bytes := by
    unfold decode? at h
    dsimp only at h
    split_ifs at h with hall
    exact fun hmem => nomatch List.all_eq_true.mp hall none hmem
  rcases (Reader.Holds.between []).foldl bytes with hholds | hmem
  · exact hholds.exists_eq_encode hnone
  · exact absurd (Reader.none_mem_finish hmem) hnone

/-- **The first character of a text that is written** can be taken off what `encode` makes of it: no
encoding of a character is the beginning of another one. -/
theorem append_eq_encode {c : Char} {rest : List UInt8} {text : List Char} :
    String.utf8EncodeChar c ++ rest = encode text ↔
      ∃ text', text = c :: text' ∧ rest = encode text' := by
  constructor
  · intro h
    cases text with
    | nil => exact absurd (List.append_eq_nil_iff.mp h).1 String.utf8EncodeChar_ne_nil
    | cons d text' =>
      -- The first character can be read off its own bytes, whatever follows.
      have hfirst := congrArg (fun bytes => bytes.toByteArray.utf8DecodeChar? 0) h
      simp only [encode_cons, List.toByteArray_append,
        ByteArray.utf8DecodeChar?_utf8EncodeChar_append, Option.some.injEq] at hfirst
      subst hfirst
      exact ⟨text', rfl, List.append_cancel_left h⟩
  · rintro ⟨text', rfl, rfl⟩
    rfl

/-- **Bytes that begin a character** begin no other part of it. -/
theorem isUTF8FirstByte_iff {c : Char} {b : UInt8} {rest : List UInt8}
    (h : String.utf8EncodeChar c = b :: rest) :
    b.IsUTF8FirstByte ∧ ∀ b' ∈ rest, ¬b'.IsUTF8FirstByte := by
  have hbyte : ∀ i (hi : i < (b :: rest).length), (b :: rest)[i].IsUTF8FirstByte ↔ i = 0 := by
    rw [← h]
    exact fun i hi => UInt8.isUTF8FirstByte_getElem_utf8EncodeChar
  refine ⟨(hbyte 0 (Nat.succ_pos _)).mpr rfl, fun b' hb' hfirst => ?_⟩
  obtain ⟨i, hi, rfl⟩ := List.getElem_of_mem hb'
  exact absurd ((hbyte (i + 1) (Nat.succ_lt_succ hi)).mp hfirst) (Nat.succ_ne_zero i)

end Lookout.Utf8
