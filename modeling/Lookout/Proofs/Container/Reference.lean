import Lookout.Proofs.Container.Name
import Lookout.Proofs.Json.Spelling
import Lookout.Proofs.Protocol.Stream

/-!
# References on every path

A reference comes in as a text, as a JSON document or as a JSON value. On each path exactly the
names are taken: what a document spells is asked of the text that it spells, whichever way that is
written. Written again, a reference stands between two quotes as it is, since no character of it is
escaped.

No character of a reference separates the parts of a key or the segments of a path, so whatever it
is put into can be taken apart again, and the reference is one of the parts
(`ContainerId.splitOn_path`).

* `ContainerId.decoder_eq_ok_iff` — the tree of a reference;
* `ContainerId.isStringOf_toJson` — a reference that is written;
* `ContainerId.splitOn_path` — a path with a reference in it;
* `ContainerId.taken_exactly` — the references on every path.
-/

namespace Lookout

open Json

namespace ContainerId

/-! ### Documents and values -/

/-- A reference is taken by `ContainerId.decoder` from the tree that spells it, and from no
other. -/
theorem decoder_eq_ok_iff {p : Place} {n : Node} {id : ContainerId} :
    decoder p n = .ok id ↔ n = .string (.ofString id.text) := by
  rw [← Decoder.text_eq_ok_iff (p := p)]
  constructor
  -- A string is read and then checked; and one that was a name passes the check.
  · intro h
    obtain ⟨s, hs, h⟩ := bind_eq_ok h
    cases hid : ofString s with
    | ok id' =>
      simp only [hid] at h
      obtain rfl : id' = id := Except.ok.inj h
      rw [hs, text_of_ofString hid]
    | error f =>
      simp only [hid] at h
      cases h
  · intro h
    rw [decoder, Decoder.checked, h]
    simp only [bind, Except.bind, ofString_text]

/-! ### References that are written -/

/-- A harmless character is written as it is, since those that are escaped are separators or
invisible. -/
theorem escapeChar_of_harmless {c : Char} (h : Harmless c) : escapeChar c = [c] := by
  -- The seven that have an escape of their own.
  have hescaped : ∀ d ∈ ['"', '\\', '\x08', '\x0c', '\n', '\r', '\t'],
      d ∈ separators ∨ d.toNat ≤ 0x20 := by simp [separators]
  have hne : ∀ d ∈ ['"', '\\', '\x08', '\x0c', '\n', '\r', '\t'], c ≠ d := by
    rintro d hd rfl
    rcases hescaped c hd with hseparates | hinvisible
    · exact h.separates hseparates
    · exact absurd h.visible (Nat.not_lt.mpr hinvisible)
  -- And those that have none.
  have hcontrol : ¬c.toNat < 0x20 := Nat.not_lt.mpr (Nat.le_of_lt h.visible)
  simp only [List.forall_mem_cons] at hne
  obtain ⟨h₁, h₂, h₃, h₄, h₅, h₆, h₇, -⟩ := hne
  simp only [escapeChar, if_neg h₁, if_neg h₂, if_neg h₃, if_neg h₄, if_neg h₅, if_neg h₆,
    if_neg h₇, if_neg hcontrol]

/-- **A reference is written** between two quotes as it is, since none of its characters is escaped
(`escapeChar_of_harmless`). -/
theorem toList_toJson (id : ContainerId) :
    id.toJson.text.toList = '"' :: (id.text.toList ++ ['"']) := by
  have hplain : id.text.toList.flatMap escapeChar = id.text.toList.flatMap ([·]) :=
    List.flatMap_congr fun c hc => escapeChar_of_harmless (id.harmless c hc)
  rw [toJson, Value.text, String.toList_ofList, Value.chars, stringText, hplain,
    List.flatMap_singleton']

/-- Characters that stand for themselves: each is spelled by its own bytes in UTF-8. -/
theorem forall₂_isLetter {text : List Char} (h : ∀ c ∈ text, Harmless c) :
    List.Forall₂ IsLetter (text.map String.utf8EncodeChar) text := by
  refine List.forall₂_map_left_iff.mpr (List.forall₂_same.mpr fun c hc => ?_)
  have hsame : ∀ d ∈ separators, c ≠ d := fun d hd heq => (h c hc).separates (heq ▸ hd)
  exact .plain (hsame '"' (by decide)) (hsame '\\' (by decide))
    (Nat.not_lt.mpr (Nat.le_of_lt (h c hc).visible))

/-- A name as JSON is a string of its own text, in the sense of `IsStringOf`. -/
theorem isStringOf_toJson (id : ContainerId) :
    IsStringOf (Utf8.encode id.toJson.text.toList) id.text.toList := by
  have hquoted := IsStringOf.quoted (forall₂_isLetter id.harmless)
  rw [← List.flatMap_def] at hquoted
  rw [toList_toJson, Utf8.encode_cons, Utf8.encode_append]
  exact hquoted

/-! ### What a reference is put into -/

/-- **A path with a reference in it** has the reference as one of its segments: splitting at `/`
gives back what was joined. -/
theorem splitOn_path (id : ContainerId) {before after : List (List Char)}
    (h : ∀ part ∈ before ++ after, '/' ∉ part) :
    (['/'].intercalate (before ++ id.text.toList :: after)).splitOn '/' =
      before ++ id.text.toList :: after := by
  have hid : '/' ∉ id.text.toList := id.separator_notMem (by decide)
  obtain ⟨hbefore, hafter⟩ := List.forall_mem_append.mp h
  refine List.splitOn_intercalate '/' ?_ (List.append_ne_nil_of_right_ne_nil _ nofun)
  exact List.forall_mem_append.mpr ⟨hbefore, List.forall_mem_cons.mpr ⟨hid, hafter⟩⟩

/-- A reference is no segment that leads out of a path, as its first character is a letter or
digit. -/
theorem text_ne_dots (id : ContainerId) : id.text ≠ "." ∧ id.text ≠ ".." := by
  constructor
  · intro h
    exact absurd id.valid (by rw [h]; decide)
  · intro h
    exact absurd id.valid (by rw [h]; decide)

/-! ### All paths -/

/-- **How a reference comes in and goes out.** -/
structure Travels (id : ContainerId) : Prop where
  text : ∀ s, ofString s = .ok id ↔ s = id.text
  document : ∀ bytes, decoder.decodeDocument (.read bytes) = .ok id ↔
    IsStringDocument bytes id.text.toList
  value : ∀ v, decoder.decodeValue v = .ok id ↔ v = id.toJson
  /-- It is written as a string that spells it. -/
  written : IsStringOf (Utf8.encode id.toJson.text.toList) id.text.toList
  /-- And that is read as the same reference. -/
  back : decoder.decodeDocument (.read (Utf8.encode id.toJson.text.toList)) = .ok id

/-- **What a reference is put into keeps its structure.** -/
structure Fits (id : ContainerId) : Prop where
  harmless : ∀ c ∈ id.text.toList, Harmless c
  /-- The key of a stream has the name and the reference between its colons. -/
  key : ∀ stream : Stream, stream.containerId = some id →
    stream.key.toList.splitOn ':' = [stream.name.text.toList, id.text.toList]
  /-- A path has the reference between two slashes. -/
  path : ∀ before after : List (List Char), (∀ part ∈ before ++ after, '/' ∉ part) →
    (['/'].intercalate (before ++ id.text.toList :: after)).splitOn '/' =
      before ++ id.text.toList :: after
  /-- It is no segment that leads elsewhere. -/
  dots : id.text ≠ "." ∧ id.text ≠ ".."

/-- What `Decoder.decodeDocument_eq_ok_iff` says of every decoder is this for the one of names. -/
theorem travels (id : ContainerId) : id.Travels where
  text s := ofString_eq_ok_iff.trans eq_comm
  document bytes := Decoder.decodeDocument_eq_ok_iff fun _ _ => decoder_eq_ok_iff
  value v := Decoder.decodeValue_eq_ok_iff fun _ _ => decoder_eq_ok_iff
  written := id.isStringOf_toJson
  back := by
    rw [Decoder.decodeDocument_eq_ok_iff fun _ _ => decoder_eq_ok_iff]
    refine ⟨[], _, [], .nil, id.isStringOf_toJson, .nil, ?_⟩
    rw [List.append_nil, List.nil_append]

/-- A name has no separator in it, so that what it is put between can be taken apart again. -/
theorem fits (id : ContainerId) : id.Fits where
  harmless := id.harmless
  key stream h := by rw [stream.splitOn_key, Stream.keyParts, h]
  path before after h := id.splitOn_path h
  dots := id.text_ne_dots

/-- **References are the names, on every path.** A text is a reference if it follows the grammar
`names`, and a document is one if it is a string, with blanks around it, that spells such a text.
Each reference comes in by its own text only, goes out as a string that is read as the same
reference, and does not alter the structure of a key or a path. The last clause is `travels` and
`fits`. -/
theorem taken_exactly :
    (∀ s : String, (∃ id, ofString s = .ok id) ↔ s.toList ∈ names) ∧
    (∀ bytes : List UInt8, (∃ id, decoder.decodeDocument (.read bytes) = .ok id) ↔
      ∃ text, IsStringDocument bytes text ∧ text ∈ names) ∧
    ∀ id : ContainerId, id.Travels ∧ id.Fits := by
  refine ⟨fun s => exists_ofString_iff, fun bytes => ?_, fun id => ⟨id.travels, id.fits⟩⟩
  -- A reference is decoded from the one text that spells it, and the text is a name as it is its
  -- own.
  constructor
  · rintro ⟨id, hid⟩
    exact ⟨id.text.toList, (id.travels.document bytes).mp hid, id.mem_names⟩
  · rintro ⟨text, hdocument, hname⟩
    rw [← String.toList_ofList (l := text)] at hdocument hname
    obtain ⟨id, hid⟩ := exists_ofString_iff.mpr hname
    rw [← text_of_ofString hid] at hdocument
    exact ⟨id, (id.travels.document bytes).mpr hdocument⟩

/-- A name with a hyphen and a digit. -/
def webOne : ContainerId := ⟨"web-1", by decide⟩

/-- A name with its first letter escaped and blanks around it, a key and a path. -/
theorem taken_exactly_webOne :
    decoder.decodeDocument (.read (Utf8.encode " \"\\u0077eb-1\" \n".toList)) = .ok webOne ∧
    (Stream.logs webOne).key.toList.splitOn ':' = ["logs".toList, "web-1".toList] ∧
    "/containers/web-1/logs".toList.splitOn '/' =
      [[], "containers".toList, "web-1".toList, "logs".toList] := by
  obtain ⟨-, -, h⟩ := taken_exactly
  obtain ⟨travels, fits⟩ := h webOne
  refine ⟨(travels.document _).mpr ?_, fits.key (.logs webOne) rfl,
    fits.path [[], "containers".toList] ["logs".toList] (by decide)⟩
  -- The first letter is written as an escape of four digits.
  have hfirst : IsUnit [0x5C, 0x75, 0x30, 0x30, 0x37, 0x37] 'w'.toNat :=
    IsUnit.digits (w := 0) (x := 0) (y := 7) (z := 7) (by decide) (by decide) (by decide)
      (by decide)
  have hrest : List.Forall₂ IsLetter ("eb-1".toList.map String.utf8EncodeChar) "eb-1".toList :=
    forall₂_isLetter fun c hc => webOne.harmless c (List.mem_cons_of_mem 'w' hc)
  exact ⟨[0x20], _, [0x20, 0x0A], by decide, .quoted (.cons (.escape (.unit hfirst)) hrest),
    by decide, rfl⟩

end ContainerId

end Lookout
