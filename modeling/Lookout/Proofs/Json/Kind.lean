import Lookout.Proofs.Json.Lookup

/-!
# Trees that are decoded

Whether a tree is decoded can be told from its kind: a word, a list of trees of a kind, an object
whose members are of their kinds, and so on. Kinds are put together in the way in which decoders
are, so that a decoder covers a kind follows part by part (`Decoder.Covers`), and the fields of a
record bring theirs together (`Fields.Covers.record`). An object that is a record may have any other
members, but none of its fields twice; all of its fields may be absent here.

What is decoded then is another question, which `Fields.takes_of_record` answers.

* `Kind` — kinds of trees;
* `Decoder.Covers` — every tree of a kind is decoded;
* `Fields.Covers.record` — the decoder of a record covers its kind.
-/

namespace Lookout.Json

/-- A kind of trees. -/
abbrev Kind := Node → Bool

namespace Kind

/-- A number that is one of 64 bits. -/
def word : Kind := fun n => n.word?.isSome

/-- Null, or a tree of a kind. -/
def optional (kind : Kind) : Kind
  | .null => true
  | n => kind n

/-- An array whose items are of a kind. -/
def list (kind : Kind) : Kind
  | .array items none => items.all kind
  | _ => false

/-- An object with any members, as deep as there is room. -/
def map (room : Nat) : Kind
  | .object members stop => (Node.value room (.object members stop)).toBool
  | _ => false

/-- A member is named, and is skipped if that is none of these names. -/
def namedOrSkipped (names : List String) (m : Spelling × Node) : Bool :=
  match m.1.text with
  | .ok key => key ∈ names || m.2.skip = .ok ()
  | .error _ => false

/-- **An object whose members are of their kinds,** as far as they are there. None of them comes
twice, and there may be others. -/
def record (kinds : List (String × Kind)) : Kind
  | .object members none =>
    let names := kinds.map (·.1)
    members.all (namedOrSkipped names) &&
      members.Pairwise (fun m m' => ∀ key ∈ names, m.1.text = .ok key → m'.1.text ≠ .ok key) &&
      kinds.all fun k => (Node.member? members k.1).all k.2
  | _ => false

/-- **What a record kind says of a tree:** it is an object without a break, its keys are whole, no
field comes twice, and each field that comes is of its kind. Other members are only skipped. -/
theorem serves_of_record {kinds : List (String × Kind)} {n : Node} (h : record kinds n = true) :
    ∃ members, n = .object members none ∧ Fields.Serves (kinds.map (·.1)) members ∧
      ∀ k ∈ kinds, (Node.member? members k.1).all k.2 = true := by
  unfold record at h
  split at h
  · next members =>
    -- The three checks, in the order in which the kind makes them.
    simp only [Bool.and_eq_true, decide_eq_true_eq, List.all_eq_true] at h
    obtain ⟨⟨hnamed, honce⟩, hkinds⟩ := h
    refine ⟨members, rfl, ⟨fun m hm => ?_, honce⟩, hkinds⟩
    have hnamed := hnamed m hm
    unfold namedOrSkipped at hnamed
    split at hnamed
    · next key hkey =>
      refine ⟨key, hkey, fun hforeign => ?_⟩
      rw [Bool.or_eq_true, decide_eq_true_eq, decide_eq_true_eq] at hnamed
      exact hnamed.resolve_left hforeign
    · cases hnamed
  · cases h

end Kind

/-- **Every tree of a kind is decoded.** -/
def Decoder.Covers {α : Type} (decode : Decoder α) (p : Place) (kind : Kind) : Prop :=
  ∀ n, kind n = true → ∃ a, decode p n = .ok a

/-- The fields are covered, and each of them may be absent. -/
def Fields.Covers : {τ : Type} → Fields τ → Place → List (String × Kind) → Prop
  | _, nil, _, kinds => kinds = []
  | _, cons _ _, _, [] => False
  | _, cons f rest, p, kind :: kinds =>
    f.name = kind.1 ∧ f.absent.isSome ∧ f.decode.Covers p kind.2 ∧ rest.Covers p kinds

namespace Decoder

variable {α β : Type} {decode : Decoder α} {p : Place} {origin : Origin} {room : Nat} {kind : Kind}

/-- A number of 64 bits is decoded by `uint64`. -/
theorem covers_word : uint64.Covers p .word := by
  intro n h
  obtain ⟨a, ha⟩ := Option.isSome_iff_exists.mp h
  refine ⟨a, ?_⟩
  rw [Node.word?] at ha
  unfold uint64 integer
  split at ha
  · next i hnumber =>
    rw [hnumber]
    dsimp only
    rw [ha]
  · cases ha

/-- Null is decoded as nothing, and all else as before. -/
theorem Covers.optional (h : decode.Covers p kind) : (option decode).Covers p kind.optional := by
  intro n hn
  -- The kind of anything but null is that of the value itself.
  by_cases hnull : n = .null
  · rw [hnull]
    exact ⟨none, rfl⟩
  · have hkind : kind n = true := by
      cases n with
      | null => exact absurd rfl hnull
      | _ => exact hn
    obtain ⟨a, ha⟩ := h n hkind
    rw [option_of_ne_null hnull, ha]
    exact ⟨some a, rfl⟩

/-- Elements of a kind are decoded one by one, as `items` goes along them. -/
theorem Covers.items (h : decode.Covers p kind) {ns : List Node} (hns : ns.all kind = true) :
    ∃ as, items decode p ns = .ok as := by
  induction ns with
  | nil => exact ⟨[], rfl⟩
  | cons n rest ih =>
    obtain ⟨hn, hrest⟩ := Bool.and_eq_true_iff.mp hns
    obtain ⟨a, ha⟩ := h n hn
    obtain ⟨as, has⟩ := ih hrest
    rw [Decoder.items, ha, has]
    exact ⟨a :: as, rfl⟩

/-- A list takes one level of depth, which `Place.enter` takes off the room. -/
theorem Covers.list (h : decode.Covers ⟨origin, room⟩ kind) :
    (list decode).Covers ⟨origin, room + 1⟩ kind.list := by
  intro n hn
  unfold Kind.list at hn
  split at hn
  · obtain ⟨as, has⟩ := h.items hn
    refine ⟨as, ?_⟩
    change (Decoder.items decode ⟨origin, room⟩ _ >>= _) = _
    rw [has]
    rfl
  · cases hn

/-- An object whose members have values is decoded as a map of them. -/
theorem covers_map : members.Covers ⟨origin, room⟩ (.map room) := by
  intro n hn
  unfold Kind.map at hn
  split at hn
  · next nodes stop =>
    cases hvalue : Node.value room (.object nodes stop) with
    | error f =>
      rw [hvalue] at hn
      cases hn
    | ok v =>
      rw [members, hvalue]
      exact ⟨_, rfl⟩
  · cases hn

theorem Covers.map (h : decode.Covers p kind) (f : α → β) : (decode.map f).Covers p kind := by
  intro n hn
  obtain ⟨a, ha⟩ := h n hn
  rw [Decoder.map, ha]
  exact ⟨f a, rfl⟩

end Decoder

namespace Fields

variable {τ : Type} {p : Place} {origin : Origin} {room : Nat} {fs : Fields τ}
  {kinds : List (String × Kind)}

theorem Covers.nil : Fields.nil.Covers p [] := rfl

/-- One field more: it may be absent, and its decoder covers the kind of its member. The two names
have to be the same, so this puts the name of the field in front of the kinds. -/
theorem Covers.cons {α : Type} {f : Field α} {kind : Kind} (absent : f.absent.isSome)
    (covers : f.decode.Covers p kind) (rest : fs.Covers p kinds) :
    (Fields.cons f fs).Covers p ((f.name, kind) :: kinds) :=
  ⟨rfl, absent, covers, rest⟩

theorem Covers.names_eq (h : fs.Covers p kinds) : fs.names = kinds.map (·.1) := by
  induction fs generalizing kinds with
  | nil =>
    obtain rfl : kinds = [] := h
    rfl
  | cons f rest ih =>
    cases kinds with
    | nil => exact h.elim
    | cons kind kinds =>
      obtain ⟨hname, -, -, hrest⟩ := h
      rw [names, List.map_cons, hname, ih hrest]

/-- If each member that is there is of its kind, there is a record that takes them all: those that
are not there have a value of their own. -/
theorem Covers.exists_takes {find : String → Option Node} (h : fs.Covers p kinds)
    (found : ∀ k ∈ kinds, (find k.1).all k.2 = true) : ∃ a, fs.Takes p find a := by
  induction fs generalizing kinds with
  | nil => exact ⟨(), trivial⟩
  | cons f rest ih =>
    cases kinds with
    | nil => exact h.elim
    | cons kind kinds =>
      obtain ⟨hname, habsent, hdecode, hrest⟩ := h
      obtain ⟨hfirst, hothers⟩ := List.forall_mem_cons.mp found
      obtain ⟨b, hb⟩ := ih hrest hothers
      -- The first field is absent, or its member is of its kind.
      have htakes : ∃ a, f.Takes p (find f.name) a := by
        rw [hname]
        cases hfind : find kind.1 with
        | none => exact Option.isSome_iff_exists.mp habsent
        | some n =>
          rw [hfind] at hfirst
          exact hdecode n hfirst
      obtain ⟨a, ha⟩ := htakes
      exact ⟨(a, b), ha, hb⟩

/-- **The decoder of a record covers its kind.** `serves_of_record` gives the members, and
`Covers.exists_takes` the record that takes them; one level of room is for the object itself. -/
theorem Covers.record (h : fs.Covers ⟨origin, room⟩ kinds) (names : fs.names.Nodup)
    (name : String) : (record name fs).Covers ⟨origin, room + 1⟩ (.record kinds) := by
  intro n hn
  obtain ⟨members, rfl, hserves, hkinds⟩ := Kind.serves_of_record hn
  rw [← h.names_eq] at hserves
  obtain ⟨a, ha⟩ := h.exists_takes hkinds
  exact ⟨a, record_of_serves rfl names hserves ha⟩

end Fields

end Lookout.Json
