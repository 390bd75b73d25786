import Lookout.Config.Arguments
import Lookout.Http.Authorization
import Lookout.Proofs.Text.Parts
import Lookout.Proofs.Text.Utf8
import Mathlib

/-!
# Which credentials are let in

What decides is the value of the first `Authorization` header, byte by byte. It must be text, and
it must be the word `bearer` in any case, a space, and the configured token (`Grants`): the word is
free of spaces, so the first space of the value ends it, and what stands behind that space is
compared with the token as it is. A value that is not text is no credential at all, so a token
beyond ASCII is configured in vain.

The token was taken without the blanks around it, and it is not empty. So it cannot be presented as
nothing or as spaces alone, which the comparison by itself would not rule out.

* `Headers.Presents` — the value of the first header with a name;
* `Grants` — the values that a token lets in, with `authorize_eq_ok_iff`;
* `authorize_exact` — exactly the configured token is let in;
* `authorize_configured` — which of the tokens that can be configured can be presented.
-/

namespace Lookout

/-! ### Words in any case -/

/-- The text is the word, each of its letters small or capital. -/
def InAnyCase (text word : List Char) : Prop :=
  List.Forall₂ (fun c letter => c = letter ∨ c = letter.toUpper) text word

instance (text word : List Char) : Decidable (InAnyCase text word) :=
  inferInstanceAs (Decidable (List.Forall₂ _ text word))

/-- The two characters that become a small letter under `Char.toLower`: the letter and its
capital. -/
theorem toLower_eq_iff {c letter : Char} (small : letter.toLower = letter) :
    c.toLower = letter ↔ c = letter ∨ c = letter.toUpper := by
  constructor
  · intro h
    -- A letter that is upper case is its own upper case, and any other is its own lower case.
    by_cases hupper : c.isUpper
    · right
      have hlower : ¬c.isLower := fun hlower => Char.not_isUpper_of_isLower hlower hupper
      calc c = c.toUpper := (Char.toUpper_eq_of_not_isLower hlower).symm
        _ = c.toLower.toUpper := (Char.toUpper_toLower_eq_toUpper c).symm
        _ = letter.toUpper := by rw [h]
    · left
      rwa [Char.toLower_eq_of_not_isUpper hupper] at h
  · rintro (rfl | rfl)
    · exact small
    · rw [Char.toLower_toUpper_eq_toLower, small]

/-- **Two words are the same up to case** if and only if each letter is one of the two cases of the
other's, which is `InAnyCase`. The word must be written in small letters, as all that are compared
here are. -/
theorem sameUpToCase_iff {text word : List Char}
    (small : ∀ letter ∈ word, letter.toLower = letter) :
    sameUpToCase text word = true ↔ InAnyCase text word := by
  have hword : lowerCase word = word := by
    rw [lowerCase, List.map_congr_left small, List.map_id']
  rw [sameUpToCase, beq_iff_eq, hword, lowerCase, ← List.forall₂_eq_eq_eq,
    List.forall₂_map_left_iff, InAnyCase, List.forall₂_iff_zip, List.forall₂_iff_zip]
  -- Letter by letter, and only letters of the word matter.
  refine and_congr_right fun _ => forall₂_congr fun c letter => ?_
  exact forall_congr' fun hmem => toLower_eq_iff (small letter (List.of_mem_zip hmem).2)

theorem InAnyCase.notMem {text word : List Char} (h : InAnyCase text word) {c : Char}
    (other : ∀ letter ∈ word, c ≠ letter ∧ c ≠ letter.toUpper) : c ∉ text := by
  intro hc
  induction h with
  | nil => cases hc
  | cons hletter hrest ih =>
    rcases List.mem_cons.mp hc with rfl | hc
    · obtain ⟨hsmall, hcapital⟩ := other _ List.mem_cons_self
      exact hletter.elim hsmall hcapital
    · exact ih (fun letter hl => other letter (List.mem_cons_of_mem _ hl)) hc

/-! ### Headers -/

/-- A header has a name, in any case. -/
def Header.IsNamed (h : Header) (name : String) : Prop := InAnyCase h.name.toList name.toList

instance (h : Header) (name : String) : Decidable (h.IsNamed name) :=
  inferInstanceAs (Decidable (InAnyCase _ _))

/-- The value of the first header with a name. -/
def Headers.Presents (hs : Headers) (name : String) (value : List UInt8) : Prop :=
  ∃ before h after, hs = before ++ h :: after ∧ (∀ h' ∈ before, ¬h'.IsNamed name) ∧
    h.IsNamed name ∧ h.value = value

section

variable {hs : Headers} {name : String} (small : ∀ letter ∈ name.toList, letter.toLower = letter)
include small

/-- What `value?` finds is the value of the first header of that name. -/
theorem Headers.value?_eq_some_iff {value : List UInt8} :
    hs.value? name = some value ↔ hs.Presents name value := by
  have hnamed : ∀ h : Header, sameUpToCase h.name.toList name.toList = true ↔ h.IsNamed name :=
    fun _ => sameUpToCase_iff small
  simp only [value?, Option.map_eq_some_iff, List.find?_eq_some_iff_append, hnamed, Presents,
    Bool.not_eq_true', ← Bool.not_eq_true]
  constructor
  · rintro ⟨h, ⟨hname, before, after, heq, hbefore⟩, hvalue⟩
    exact ⟨before, h, after, heq, hbefore, hname, hvalue⟩
  · rintro ⟨before, h, after, heq, hbefore, hname, hvalue⟩
    exact ⟨h, ⟨hname, before, after, heq, hbefore⟩, hvalue⟩

/-- `value?` finds nothing if no header has the name. -/
theorem Headers.value?_eq_none_iff : hs.value? name = none ↔ ∀ h ∈ hs, ¬h.IsNamed name := by
  rw [value?, Option.map_eq_none_iff, List.find?_eq_none]
  exact forall₂_congr fun h _ => not_congr (sameUpToCase_iff small)

end

/-! ### Values -/

/-- What may stand in a header is ASCII: `isHeaderText` admits no byte from `0x80` on. -/
theorem toNat_lt_of_isHeaderText {b : UInt8} (h : isHeaderText b = true) : b.toNat < 0x80 := by
  simp only [isHeaderText, Bool.or_eq_true, Bool.and_eq_true, decide_eq_true_eq, beq_iff_eq,
    UInt8.le_iff_toNat_le] at h
  rcases h with ⟨-, h⟩ | rfl
  · exact Nat.lt_succ_of_le (Nat.le_succ_of_le h)
  · decide

/-- **A value that is text** consists of the bytes of that text, each of which is `isHeaderText`. -/
theorem headerText?_eq_some_iff {value : List UInt8} {text : List Char} :
    headerText? value = some text ↔ (∀ b ∈ value, isHeaderText b) ∧ value = Utf8.encode text := by
  rw [headerText?]
  -- One byte that may not stand in a header, and there is no text at all.
  by_cases hall : ∀ b ∈ value, isHeaderText b
  · have hbytes : Utf8.encode (value.map fun b => Char.ofNat b.toNat) = value :=
      Utf8.encode_ofNat fun b hb => toNat_lt_of_isHeaderText (hall b hb)
    rw [if_pos (List.all_eq_true.mpr hall), Option.some.injEq, and_iff_right hall]
    constructor
    · rintro rfl
      exact hbytes.symm
    · intro h
      exact Utf8.encode_injective (hbytes.trans h)
  · rw [if_neg fun h => hall (List.all_eq_true.mp h)]
    exact iff_of_false nofun fun h => hall h.1

/-- No case of `bearer` has a space in it, so that the first space comes after it. -/
theorem InAnyCase.space_notMem {scheme : List Char} (h : InAnyCase scheme "bearer".toList) :
    ' ' ∉ scheme :=
  h.notMem (by simp)

/-- **A bearer credential:** the scheme `InAnyCase`, a space, and the token. No case of the scheme
has a space in it, so the first space is the one that `bearerToken` splits at. -/
theorem bearerToken_eq_some_iff {credential token : List Char} :
    bearerToken credential = some token ↔
      ∃ scheme, InAnyCase scheme "bearer".toList ∧ credential = scheme ++ ' ' :: token := by
  have hscheme : ∀ scheme, sameUpToCase scheme "bearer".toList = true ↔
      InAnyCase scheme "bearer".toList := fun scheme => sameUpToCase_iff (by simp)
  constructor
  · intro h
    -- The scheme is what stands before the first space, and all behind it is the token.
    by_cases hspace : ' ' ∈ credential
    · obtain ⟨before, rest, rfl, hbefore⟩ := List.eq_append_cons_of_mem hspace
      simp only [bearerToken, Text.span_append_cons hbefore, Option.ite_none_right_eq_some,
        Option.some.injEq, hscheme] at h
      obtain ⟨hcase, rfl⟩ := h
      exact ⟨before, hcase, rfl⟩
    · simp only [bearerToken, Text.span_of_notMem hspace] at h
      cases h
  · rintro ⟨scheme, hcase, rfl⟩
    simp only [bearerToken, Text.span_append_cons hcase.space_notMem]
    exact if_pos ((hscheme scheme).mpr hcase)

/-- **The header values that a token lets in:** text, and the scheme in any case, a space, and the
token. -/
structure Grants (expected : String) (value : List UInt8) : Prop where
  text : ∀ b ∈ value, isHeaderText b
  spelled : ∃ scheme, InAnyCase scheme "bearer".toList ∧
    value = Utf8.encode (scheme ++ ' ' :: expected.toList)

/-- The three steps of the check, put together and read backwards: the value is text, the text is a
bearer credential, and its token is `expected`. -/
theorem grants_iff {expected : String} {value : List UInt8} :
    Grants expected value ↔ (headerText? value).bind bearerToken = some expected.toList := by
  simp only [Option.bind_eq_some_iff, headerText?_eq_some_iff, bearerToken_eq_some_iff]
  constructor
  · rintro ⟨htext, scheme, hcase, hvalue⟩
    exact ⟨_, ⟨htext, hvalue⟩, scheme, hcase, rfl⟩
  · rintro ⟨_, ⟨htext, hvalue⟩, scheme, hcase, rfl⟩
    exact ⟨htext, scheme, hcase, hvalue⟩

/-! ### The decision -/

section

variable {hs : Headers} {expected : String} {value : List UInt8}

/-- The name of the header is written in small letters, as `sameUpToCase_iff` asks. -/
theorem small_authorization : ∀ letter ∈ "authorization".toList, letter.toLower = letter := by
  simp

/-- Only a presented value is looked at: `authorize` lets it in or refuses it by `Grants` alone. -/
theorem authorize_of_presents (presents : hs.Presents "authorization" value) :
    (authorize hs expected = .ok () ↔ Grants expected value) ∧
      (authorize hs expected = .error .invalidToken ↔ ¬Grants expected value) := by
  rw [authorize, (Headers.value?_eq_some_iff small_authorization).mpr presents, grants_iff]
  dsimp only
  split
  · next h => exact ⟨iff_of_true rfl h, iff_of_false nofun (not_not_intro h)⟩
  · next h => exact ⟨iff_of_false nofun h, iff_of_true rfl h⟩

/-- **The first of the two refusals,** `missingHeader`, is given if and only if no header has the
name. A header with a bad value is refused for its token, not for its absence. -/
theorem authorize_eq_missing_iff :
    authorize hs expected = .error .missingHeader ↔ ∀ h ∈ hs, ¬h.IsNamed "authorization" := by
  rw [← Headers.value?_eq_none_iff small_authorization, authorize]
  cases hvalue : hs.value? "authorization" with
  | none => exact iff_of_true rfl rfl
  | some value =>
    dsimp only
    split
    · exact iff_of_false nofun nofun
    · exact iff_of_false nofun nofun

/-- **Who is let in:** the first header with the name has a value that `Grants` the token. -/
theorem authorize_eq_ok_iff : authorize hs expected = .ok () ↔
    ∃ value, hs.Presents "authorization" value ∧ Grants expected value := by
  constructor
  · intro h
    cases hvalue : hs.value? "authorization" with
    | none =>
      rw [authorize, hvalue] at h
      cases h
    | some value =>
      have hpresents := (Headers.value?_eq_some_iff small_authorization).mp hvalue
      exact ⟨value, hpresents, (authorize_of_presents hpresents).1.mp h⟩
  · rintro ⟨value, hpresents, hgrants⟩
    exact (authorize_of_presents hpresents).1.mpr hgrants

/-- **What is let in behind a scheme** is the token and nothing else. The first space ends the
scheme, whatever stands before it, and `Grants` says what is behind its own first space. -/
theorem Grants.credential_eq {scheme credential : List UInt8}
    (h : Grants expected (scheme ++ 0x20 :: credential)) (first : 0x20 ∉ scheme) :
    credential = Utf8.encode expected.toList := by
  obtain ⟨word, hcase, hvalue⟩ := h.spelled
  have hspace : String.utf8EncodeChar ' ' = [0x20] := rfl
  have hword : 0x20 ∉ Utf8.encode word := fun hmem =>
    hcase.space_notMem (Utf8.mem_of_mem_encode (c := ' ') (by decide) hmem)
  rw [Utf8.encode_append, Utf8.encode_cons, hspace] at hvalue
  exact (Text.parts_unique first hword hvalue).2

theorem Grants.exists_space (h : Grants expected value) :
    ∃ scheme credential, value = scheme ++ 0x20 :: credential := by
  obtain ⟨word, -, hvalue⟩ := h.spelled
  exact ⟨Utf8.encode word, Utf8.encode expected.toList, by rw [hvalue, Utf8.encode_append]; rfl⟩

end

/-! ### The configured token -/

section

variable {a : Arguments} {c : Config}

/-- The token of a configuration is the one that was given without the blanks around it, and there
is something left of it. -/
theorem Arguments.token_of_toConfig (accepted : a.toConfig = .ok c) :
    c.token.toList = Text.trim (a.token.getD "").toList ∧ c.token.toList ≠ [] := by
  unfold Arguments.toConfig at accepted
  dsimp only at accepted
  split at accepted
  · cases accepted
  · next hleft =>
    cases accepted
    rw [String.toList_ofList]
    exact ⟨rfl, fun hnil => hleft (List.isEmpty_iff.mpr hnil)⟩

theorem Arguments.ne_replicate_of_toConfig (accepted : a.toConfig = .ok c) (n : Nat) :
    c.token.toList ≠ List.replicate n ' ' := by
  obtain ⟨htrim, hleft⟩ := token_of_toConfig accepted
  intro heq
  cases n with
  | zero => exact hleft heq
  | succ n =>
    have hfirst : ' ' ∈ (Text.trim (a.token.getD "").toList).head? := by
      rw [← htrim, heq]
      rfl
    exact absurd (Text.not_isBlank_head_trim hfirst) (by decide)

end

/-- **What decides on a header list:** the value of the first header with the name, and nothing
else. -/
structure Decided (hs : Headers) (expected : String) : Prop where
  granted : authorize hs expected = .ok () ↔
    ∃ value, hs.Presents "authorization" value ∧ Grants expected value
  missing : authorize hs expected = .error .missingHeader ↔ ∀ h ∈ hs, ¬h.IsNamed "authorization"

/-- **A token that is presented as it is, or not at all:** it is not empty and has no blanks around
it, and whatever stands behind the scheme in its place is refused. -/
structure Tight (hs : Headers) (token : String) : Prop where
  nonempty : token ≠ ""
  first : ∀ c ∈ token.toList.head?, Text.isBlank c = false
  last : ∀ c ∈ token.toList.getLast?, Text.isBlank c = false
  /-- Nothing behind the scheme, or nothing but spaces. -/
  blank : ∀ scheme spaces, hs.Presents "authorization" (scheme ++ spaces) → 0x20 ∉ scheme →
    (∀ b ∈ spaces, b = 0x20) → authorize hs token = .error .invalidToken
  /-- Any other bytes than those of the token. -/
  changed : ∀ scheme credential, hs.Presents "authorization" (scheme ++ 0x20 :: credential) →
    0x20 ∉ scheme → credential ≠ Utf8.encode token.toList →
      authorize hs token = .error .invalidToken

/-- **A token that was configured is `Tight`:** not empty, without blanks at either end as it was
trimmed, and no other credential in the same place grants anything. -/
theorem Arguments.tight_of_toConfig {a : Arguments} {c : Config} (accepted : a.toConfig = .ok c)
    (hs : Headers) : Tight hs c.token := by
  obtain ⟨htrim, hleft⟩ := token_of_toConfig accepted
  refine ⟨?nonempty, ?first, ?last, ?blank, ?changed⟩
  case nonempty => exact fun hempty => hleft (by rw [hempty]; rfl)
  case first =>
    intro ch hch
    exact Text.not_isBlank_head_trim (htrim ▸ hch)
  case last =>
    intro ch hch
    exact Text.not_isBlank_getLast_trim (htrim ▸ hch)
  case changed =>
    intro scheme credential hpresents hscheme hne
    exact (authorize_of_presents hpresents).2.mpr fun hgrants =>
      hne (hgrants.credential_eq hscheme)
  -- A blank before the token would have to be the first character of the token.
  case blank =>
    intro scheme spaces hpresents hscheme hspaces
    refine (authorize_of_presents hpresents).2.mpr fun hgrants => ?_
    cases spaces with
    | nil =>
      -- Without a space there is no credential.
      obtain ⟨before, rest, heq⟩ := hgrants.exists_space
      rw [List.append_nil] at heq
      exact hscheme (heq ▸ List.mem_append_right before List.mem_cons_self)
    | cons b rest =>
      obtain ⟨rfl, hrest⟩ := List.forall_mem_cons.mp hspaces
      have hspaces : Utf8.encode (List.replicate rest.length ' ') = rest := by
        have hspace : String.utf8EncodeChar ' ' = [0x20] := rfl
        rw [Utf8.encode, List.flatMap_replicate, hspace, List.flatten_replicate_singleton]
        exact (List.eq_replicate_of_mem hrest).symm
      have htoken := hspaces.trans (hgrants.credential_eq hscheme)
      exact ne_replicate_of_toConfig accepted _ (Utf8.encode_injective htoken).symm

/-- **Exactly the configured token is let in.** Of the headers the first one with the name decides
(`Decided`): its value is text, and it is the scheme in any case, a space, and the token. That there
is no such header is said only if there is none. A token that was configured is `Tight`, that is not
empty and without blanks around it, so nothing and spaces alone are never let in, and neither is any
other credential than the token itself. -/
theorem authorize_exact (hs : Headers) (expected : String) :
    Decided hs expected ∧
      ∀ (a : Arguments) (c : Config), a.toConfig = .ok c → Tight hs c.token := by
  refine ⟨⟨authorize_eq_ok_iff, authorize_eq_missing_iff⟩, ?_⟩
  intro a c accepted
  exact Arguments.tight_of_toConfig accepted hs

/-- A second space in front of the token is part of the credential, so such a value is refused. -/
theorem authorize_exact_secondSpace :
    let a : Arguments := { token := some " s3cret\n" }
    let hs : Headers := [⟨"AUTHORIZATION", Utf8.encode "bEaReR  s3cret".toList⟩]
    ∃ c, a.toConfig = .ok c ∧ c.token = "s3cret" ∧
      authorize hs c.token = .error .invalidToken := by
  intro a hs
  have haccepted :
      Arguments.toConfig { token := some " s3cret\n" } = .ok { token := "s3cret" } := rfl
  have hpresents : hs.Presents "authorization"
      (Utf8.encode "bEaReR".toList ++ 0x20 :: Utf8.encode " s3cret".toList) :=
    ⟨[], _, [], rfl, nofun, by decide, by decide⟩
  have htight := (authorize_exact hs "s3cret").2 a _ haccepted
  exact ⟨_, haccepted, rfl, htight.changed _ _ hpresents (by decide) (by decide)⟩

/-! ### Tokens that can be presented -/

/-- A byte may stand in a header value: it is no control, the tab apart. -/
def IsFieldByte (b : UInt8) : Prop := (0x20 ≤ b ∧ b ≠ 0x7F) ∨ b = 0x09

instance (b : UInt8) : Decidable (IsFieldByte b) := inferInstanceAs (Decidable (_ ∨ _))

/-- The header value by which a client presents a token. -/
def presentation (token : String) : List UInt8 :=
  Utf8.encode ("Bearer ".toList ++ token.toList)

theorem IsFieldByte.isHeaderText {b : UInt8} (h : IsFieldByte b) (ascii : b.toNat < 0x80) :
    isHeaderText b = true := by
  simp only [Lookout.isHeaderText, Bool.or_eq_true, Bool.and_eq_true, decide_eq_true_eq, beq_iff_eq]
  rcases h with ⟨hlow, hdelete⟩ | htab
  · left
    refine ⟨hlow, UInt8.le_iff_toNat_le.mpr ?_⟩
    have hne : b.toNat ≠ 0x7F := fun heq => hdelete (UInt8.toNat_inj.mp heq)
    change b.toNat ≤ 0x7E
    omega
  · exact Or.inr htab

/-- The only header with a name is the one that is presented, wherever it stands. -/
theorem Headers.presents_of_filter {hs : Headers} {name : String} {h : Header}
    (only : hs.filter (fun h => h.IsNamed name) = [h]) : hs.Presents name h.value := by
  have hfind : hs.find? (fun h => h.IsNamed name) = some h := by
    rw [← List.head?_filter, only]
    rfl
  obtain ⟨hnamed, before, after, heq, hbefore⟩ := List.find?_eq_some_iff_append.mp hfind
  exact ⟨before, h, after, heq, fun h' hh' => by simpa using hbefore h' hh',
    of_decide_eq_true hnamed, rfl⟩

theorem Grants.ascii {token : String} {value : List UInt8} (h : Grants token value) :
    ∀ ch ∈ token.toList, ch.toNat < 0x80 := by
  obtain ⟨scheme, -, hvalue⟩ := h.spelled
  intro ch hch
  have hbytes : ∀ b ∈ Utf8.encode (scheme ++ ' ' :: token.toList), b.toNat < 0x80 :=
    fun b hb => toNat_lt_of_isHeaderText (h.text b (hvalue ▸ hb))
  exact Utf8.encode_ascii_iff.mp hbytes ch
    (List.mem_append_right scheme (List.mem_cons_of_mem _ hch))

/-- **Which configured tokens can be presented:** of those whose bytes may stand in a header value
(`IsFieldByte`), the ones of ASCII. In a `presentation` that is the only header with the name they
are let in; a token with any other character is let in by no header at all, as a value with one is
no `headerText?`. -/
theorem authorize_configured {a : Arguments} {c : Config} {hs : Headers} {h : Header}
    (accepted : a.toConfig = .ok c)
    (legal : ∀ b ∈ Utf8.encode (Text.trim (a.token.getD "").toList), IsFieldByte b)
    (only : hs.filter (fun h => h.IsNamed "authorization") = [h])
    (presented : h.value = presentation c.token) :
    (authorize hs c.token = .ok () ↔ ∀ ch ∈ c.token.toList, ch.toNat < 0x80) ∧
      ((∃ ch ∈ c.token.toList, 0x80 ≤ ch.toNat) →
        ∀ hs' : Headers, authorize hs' c.token ≠ .ok ()) := by
  have hpresents := Headers.presents_of_filter only
  rw [← (Arguments.token_of_toConfig accepted).1] at legal
  refine ⟨⟨?needed, ?enough⟩, ?vain⟩
  case needed =>
    intro hok
    exact ((authorize_of_presents hpresents).1.mp hok).ascii
  case enough =>
    intro hascii
    refine (authorize_of_presents hpresents).1.mpr ⟨?_, "Bearer".toList, by decide, presented⟩
    -- The scheme and the space are text, and so is every byte of the token.
    have hscheme : ∀ b ∈ Utf8.encode "Bearer ".toList, isHeaderText b := by decide +kernel
    rw [presented, presentation, Utf8.encode_append]
    intro b hb
    rcases List.mem_append.mp hb with hb | htoken
    · exact hscheme b hb
    · exact (legal b htoken).isHeaderText (Utf8.encode_ascii_iff.mpr hascii b htoken)
  case vain =>
    rintro ⟨ch, hch, hbeyond⟩ hs' hok
    obtain ⟨value, -, hgrants⟩ := authorize_eq_ok_iff.mp hok
    exact absurd (hgrants.ascii ch hch) (Nat.not_lt.mpr hbeyond)

/-- A token with a blank in it is presented as it stands: only the first space is a separator. -/
theorem authorize_configured_inner :
    let hs : Headers := [⟨"Host", []⟩, ⟨"Authorization", presentation "a b"⟩]
    Arguments.toConfig { token := some " a b" } = .ok { token := "a b" } ∧
      authorize hs "a b" = .ok () := by
  intro hs
  have haccepted : Arguments.toConfig { token := some " a b" } = .ok { token := "a b" } := rfl
  have hascii : ∀ ch ∈ "a b".toList, ch.toNat < 0x80 := by simp
  have hconfigured :=
    @authorize_configured _ { token := "a b" } hs _ haccepted (by decide +kernel) rfl rfl
  exact ⟨haccepted, hconfigured.1.mpr hascii⟩

/-- **A token with an accent is refused,** though each of its bytes is an `IsFieldByte` and it is
presented in the only header with the name. -/
theorem configured_inVain :
    let hs : Headers := [⟨"Authorization", presentation "é"⟩]
    Arguments.toConfig { token := some "é" } = .ok { token := "é" } ∧
      (∀ b ∈ Utf8.encode (Text.trim "é".toList), IsFieldByte b) ∧
      hs.filter (fun h => h.IsNamed "authorization") = hs ∧
      ¬authorize hs "é" = .ok () := by
  intro hs
  refine ⟨rfl, by decide +kernel, rfl, fun hok => ?_⟩
  cases hok

end Lookout
