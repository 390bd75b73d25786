import Lookout.Proofs.Json.Record
import Lookout.Proofs.Json.Text
import Lookout.Proofs.Json.Value
import Mathlib.Data.List.Nodup

/-!
# Records from members

The decoder of a record fills slots as the members come. If no field comes twice, the order of the
members does not matter: a field takes what a look-up of its name finds, and if there is nothing to
find, the value of an absent one; what belongs to no field is skipped (`Fields.record_of_serves`).
What is still to be found and what the slots hold always give the same record (`Fields.Expects`), at
the start and after every member. Putting the members of a value in order does not change what is
found (`Members.lookup_ofList`), so a record that is written as members is decoded from the value in
order too (`Fields.Spells.decodeValue_ordered`).

* `Members.lookup_ofList` — look-up among members that were put in order;
* `Node.member?`, `Fields.Takes` — what each field takes from the members;
* `Fields.Serves`, `Fields.record_of_serves` — a record from an object;
* `Fields.Spells` — the members that a record is written as.
-/

namespace Lookout.Json

/-! ### Look-up -/

namespace Members

variable {members : Members}

theorem lookup_cons (key k : String) (value : Value) (rest : Members) :
    List.lookup k ((key, value) :: rest) = if k = key then some value else rest.lookup k := by
  rw [List.lookup_cons]
  by_cases h : k = key
  · rw [if_pos h, beq_iff_eq.mpr h]
  · rw [if_neg h, beq_eq_false_iff_ne.mpr h]

/-- What `insert` puts in is found, and nothing else changes. -/
theorem lookup_insert (members : Members) (key k : String) (value : Value) :
    (members.insert key value).lookup k = if k = key then some value else members.lookup k := by
  -- The members are in the order of their keys, so that the new one comes before, in place of, or
  -- behind the first.
  induction members with
  | nil => exact lookup_cons key k value []
  | cons first rest ih =>
    obtain ⟨k', v⟩ := first
    rw [insert]
    by_cases hlt : key < k'
    · rw [if_pos hlt, lookup_cons]
    · rw [if_neg hlt]
      by_cases heq : key = k'
      · subst heq
        rw [if_pos rfl, lookup_cons, lookup_cons]
        by_cases h : k = key
        · rw [if_pos h, if_pos h]
        · rw [if_neg h, if_neg h, if_neg h]
      · rw [if_neg heq, lookup_cons, lookup_cons, ih]
        by_cases h : k = key
        · have hne : k ≠ k' := fun heq' => heq (h.symm.trans heq')
          rw [if_neg hne, if_pos h, if_pos h]
        · rw [if_neg h, if_neg h]

theorem lookup_eq_none {k : String} (h : k ∉ members.map (·.1)) : members.lookup k = none := by
  refine List.lookup_eq_none_iff.mpr fun m hm => bne_iff_ne.mpr fun heq => h ?_
  rw [heq]
  exact List.mem_map_of_mem hm

/-- Of several members with one key the last one is found. Generalized over what is `ordered`
already, which is found if none of them has the key. -/
theorem lookup_foldl_insert (members ordered : Members) (k : String) :
    (members.foldl (fun ordered m => ordered.insert m.1 m.2) ordered).lookup k =
      (members.reverse.lookup k).or (ordered.lookup k) := by
  induction members generalizing ordered with
  | nil => rfl
  | cons m rest ih =>
    obtain ⟨key, value⟩ := m
    rw [List.foldl_cons, ih, lookup_insert, List.reverse_cons, List.lookup_append, lookup_cons,
      List.lookup_nil, Option.or_assoc]
    by_cases h : k = key
    · rw [if_pos h, if_pos h, Option.some_or]
    · rw [if_neg h, if_neg h, Option.none_or]

/-- **The last value of a key wins** when members are put in order by `ofList`. -/
theorem lookup_ofList_eq (members : Members) (k : String) :
    (ofList members).lookup k = members.reverse.lookup k :=
  (lookup_foldl_insert members [] k).trans Option.or_none

/-- If all keys are distinct it does not matter from which end they are looked at. -/
theorem lookup_reverse (distinct : (members.map (·.1)).Nodup) (k : String) :
    members.reverse.lookup k = members.lookup k := by
  induction members with
  | nil => rfl
  | cons m rest ih =>
    obtain ⟨key, value⟩ := m
    obtain ⟨hkey, hrest⟩ := List.nodup_cons.mp distinct
    rw [List.reverse_cons, List.lookup_append, ih hrest, lookup_cons, lookup_cons, List.lookup_nil]
    by_cases h : k = key
    · -- the key does not come again
      rw [if_pos h, if_pos h, lookup_eq_none (h ▸ hkey), Option.none_or]
    · rw [if_neg h, if_neg h, Option.or_none]

/-- **Putting members in order does not change what is found** if no key comes twice. -/
theorem lookup_ofList (distinct : (members.map (·.1)).Nodup) (k : String) :
    (ofList members).lookup k = members.lookup k :=
  (lookup_ofList_eq members k).trans (lookup_reverse distinct k)

/-- Sorted keys are distinct, as `<` is irreflexive. -/
theorem Sorted.nodup (h : members.Sorted) : (members.map (·.1)).Nodup :=
  List.Pairwise.map _ (fun _ _ hlt heq => String.lt_irrefl _ (heq ▸ hlt)) h

end Members

namespace Node

/-- The tree of the first member with a key. -/
def member? (members : List (Spelling × Node)) (key : String) : Option Node :=
  (members.find? fun m => m.1.text = .ok key).map (·.2)

/-- The first member is the one that is looked for, or another one is. `h` is needed as a spelling
may be no text at all. -/
theorem member?_cons {k : Spelling} {key : String} (h : k.text = .ok key) (n : Node)
    (rest : List (Spelling × Node)) (name : String) :
    member? ((k, n) :: rest) name = if name = key then some n else member? rest name := by
  rw [member?, List.find?_cons]
  by_cases heq : name = key
  · rw [if_pos heq, heq, decide_eq_true h]
    rfl
  · have hne : ¬k.text = .ok name := fun h' => heq (Except.ok.inj (h'.symm.trans h))
    rw [if_neg heq, decide_eq_false hne]
    rfl

/-- A key that no member has is not found, be it that other keys are spelled or none. -/
theorem member?_eq_none {members : List (Spelling × Node)} {key : String}
    (h : ∀ m ∈ members, m.1.text ≠ .ok key) : member? members key = none := by
  have hnone : members.find? (fun m => m.1.text = .ok key) = none :=
    List.find?_eq_none.mpr fun m hm => by rw [decide_eq_true_eq]; exact h m hm
  rw [member?, hnone]
  rfl

end Node

/-! ### Records -/

theorem Decoder.option_of_ne_null {α : Type} {decode : Decoder α} {p : Place} {n : Node}
    (h : n ≠ .null) : Decoder.option decode p n = (decode p n).map some := by
  cases n with
  | null => exact absurd rfl h
  | _ => rfl

/-- An optional field: what is there is decoded, and it is nothing if nothing is there. -/
theorem Field.takes_option {α β : Type} {name : String} {decode : Decoder α} {p : Place}
    {x : Option β} {n : β → Node} {f : β → α}
    (h : ∀ b, x = some b → n b ≠ .null ∧ decode p (n b) = .ok (f b)) :
    Takes ⟨name, Decoder.option decode, some none⟩ p (x.map n) (x.map f) := by
  cases x with
  | none => rfl
  | some b =>
    obtain ⟨hne, hdecode⟩ := h b rfl
    show Decoder.option decode p (n b) = .ok (some (f b))
    rw [Decoder.option_of_ne_null hne, hdecode]
    rfl

/-- **A field that may be missing** takes the value it was written from. -/
theorem Field.takes_option_self {α : Type} {name : String} {decode : Decoder α} {p : Place}
    {n : α → Node} (h : ∀ a, n a ≠ .null ∧ decode p (n a) = .ok a) (x : Option α) :
    Takes ⟨name, Decoder.option decode, some none⟩ p (x.map n) x := by
  have htakes : Takes ⟨name, Decoder.option decode, some none⟩ p (x.map n) (x.map fun a => a) :=
    takes_option fun a _ => h a
  rwa [Option.map_id'] at htakes

namespace Fields

variable {α β τ : Type} {p : Place} {find find' : String → Option Node}

/-- The names of all fields, in order. -/
def names : {τ : Type} → Fields τ → List String
  | _, nil => []
  | _, cons f rest => f.name :: rest.names

/-- Each field takes its value from what is found under its name. -/
def Takes : {τ : Type} → (fs : Fields τ) → Place → (String → Option Node) → τ → Prop
  | _, nil, _, _, _ => True
  | _, cons f rest, p, find, (a, b) => f.Takes p (find f.name) a ∧ rest.Takes p find b

/-- Each field takes its value from what is still to be found, and has an empty slot for it, or its
slot decides. -/
def Expects : {τ : Type} → (fs : Fields τ) → Place → (String → Option Node) → fs.Slots → τ → Prop
  | _, nil, _, _, _, _ => True
  | _, cons f rest, p, find, slots, (a, b) =>
    (match find f.name with
      | some n => slots.1 = none ∧ f.decode p n = .ok a
      | none => slots.1.or f.absent = some a) ∧
    rest.Expects p find slots.2 b

/-- At the start all slots are empty, and expect of the members what the fields take. -/
theorem expects_empty {fs : Fields τ} {a : τ} (h : fs.Takes p find a) :
    fs.Expects p find fs.empty a := by
  induction fs with
  | nil => trivial
  | cons f rest ih =>
    obtain ⟨hfirst, hrest⟩ := h
    refine ⟨?_, ih hrest⟩
    -- No slot is filled yet, so each field is still to be taken.
    cases hfind : find f.name with
    | none =>
      rw [hfind] at hfirst
      exact hfirst
    | some n =>
      rw [hfind] at hfirst
      exact ⟨rfl, hfirst⟩

/-- Only what is found under the names of the fields matters for what is expected. -/
theorem Expects.congr {fs : Fields τ} {slots : fs.Slots} {a : τ} (h : fs.Expects p find slots a)
    (same : ∀ k ∈ fs.names, find' k = find k) : fs.Expects p find' slots a := by
  induction fs with
  | nil => trivial
  | cons f rest ih =>
    obtain ⟨hfirst, hrest⟩ := h
    refine ⟨?_, ih hrest fun k hk => same k (List.mem_cons_of_mem _ hk)⟩
    rw [same f.name List.mem_cons_self]
    exact hfirst

/-- **A member that is put into its slot** is not to be found any more, and nothing else changes. -/
theorem Expects.put {fs : Fields τ} {slots : fs.Slots} {a : τ} (h : fs.Expects p find slots a)
    (names : fs.names.Nodup) {k : String} {n : Node} (known : k ∈ fs.names)
    (found : find k = some n) (gone : find' k = none) (same : ∀ k' ≠ k, find' k' = find k') :
    ∃ slots', fs.put p k n slots = some (.ok slots') ∧ fs.Expects p find' slots' a := by
  induction fs with
  | nil => cases known
  | cons f rest ih =>
    obtain ⟨hfirst, hrest⟩ := h
    obtain ⟨hname, hnames⟩ := List.nodup_cons.mp names
    rw [Fields.put]
    -- It is for the first slot, or for one of the others.
    by_cases hk : k = f.name
    · subst hk
      rw [found] at hfirst
      obtain ⟨hempty, hdecode⟩ := hfirst
      refine ⟨(some a.1, slots.2), ?_, ?_, hrest.congr fun k' hk' => same k' ?_⟩
      · rw [if_pos rfl, hempty, hdecode]
        rfl
      · rw [gone]
        rfl
      -- The names of the other fields are not this one.
      · exact fun heq => hname (heq ▸ hk')
    · have hknown : k ∈ rest.names := (List.mem_cons.mp known).resolve_left hk
      obtain ⟨slots', hput, hexpects⟩ := ih hrest hnames hknown
      refine ⟨(slots.1, slots'), ?_, ?_, hexpects⟩
      · rw [if_neg hk, hput]
        rfl
      · rw [same f.name fun heq => hk heq.symm]
        exact hfirst

/-- Once all members are done no slot expects one: each is filled, or its field has a value of its
own. -/
theorem Expects.settle {fs : Fields τ} {slots : fs.Slots} {a : τ}
    (h : fs.Expects p (fun _ => none) slots a) : fs.settle slots = .ok a := by
  induction fs with
  | nil => rfl
  | cons f rest ih =>
    obtain ⟨hfirst, hrest⟩ := h
    have hslot : slots.1.or f.absent = some a.1 := hfirst
    rw [Fields.settle, hslot, ih hrest]
    rfl

/-- There is no slot for a name that is none of the fields', whatever the slots hold. -/
theorem put_eq_none_iff {fs : Fields τ} {key : String} {n : Node} {slots : fs.Slots} :
    fs.put p key n slots = none ↔ key ∉ fs.names := by
  induction fs with
  | nil => exact iff_of_true rfl nofun
  | cons f rest ih =>
    rw [names, List.mem_cons, not_or]
    constructor
    · intro h
      obtain ⟨hne, hrest⟩ := put_cons_eq_none h
      exact ⟨hne, ih.mp hrest⟩
    · rintro ⟨hne, hrest⟩
      rw [put, if_neg hne, ih.mpr hrest]
      rfl

/-- A member for a slot is put into it, and `fill` goes on with the rest. -/
theorem fill_cons_of_put {fs : Fields τ} {k : Spelling} {key : String} {n : Node}
    {rest : List (Spelling × Node)} {slots slots' : fs.Slots} (hkey : k.text = .ok key)
    (hput : fs.put p key n slots = some (.ok slots')) :
    fs.fill p ((k, n) :: rest) slots = fs.fill p rest slots' := by
  simp only [Fields.fill, hkey, fromText_ok, bind, Except.bind, hput]

/-- A foreign member that can be skipped changes nothing, and `fill` goes on with the rest. -/
theorem fill_cons_of_skip {fs : Fields τ} {k : Spelling} {key : String} {n : Node}
    {rest : List (Spelling × Node)} {slots : fs.Slots} (hkey : k.text = .ok key)
    (foreign : key ∉ fs.names) (hskip : n.skip = .ok ()) :
    fs.fill p ((k, n) :: rest) slots = fs.fill p rest slots := by
  have hnone : fs.put p key n slots = none := put_eq_none_iff.mpr foreign
  simp only [Fields.fill, hkey, fromText_ok, bind, Except.bind, hnone, hskip]
  rfl

/-- **Members for fields with these names:** none of them comes twice, and what belongs to none of
them can be skipped. -/
structure Serves (names : List String) (members : List (Spelling × Node)) : Prop where
  keyed : ∀ m ∈ members, ∃ key, m.1.text = .ok key ∧ (key ∉ names → m.2.skip = .ok ())
  once : members.Pairwise fun m m' => ∀ key ∈ names, m.1.text = .ok key → m'.1.text ≠ .ok key

/-- **All members are put into slots or skipped,** one after the other. The induction is on the
members, and `Serves` says which of the two it is. -/
theorem Expects.fill {fs : Fields τ} {slots : fs.Slots} {a : τ} (names : fs.names.Nodup)
    {members : List (Spelling × Node)} (serves : Serves fs.names members)
    (h : fs.Expects p (Node.member? members) slots a) :
    ∃ slots', fs.fill p members slots = .ok slots' ∧ fs.settle slots' = .ok a := by
  -- On the members: what the slots still expect is what the rest of them bring.
  induction members generalizing slots with
  | nil => exact ⟨slots, rfl, h.settle⟩
  | cons m rest ih =>
    obtain ⟨k, n⟩ := m
    obtain ⟨⟨key, hkey, hskip⟩, hkeyed⟩ := List.forall_mem_cons.mp serves.keyed
    obtain ⟨honce, hapart⟩ := List.pairwise_cons.mp serves.once
    have hmember := Node.member?_cons hkey n rest
    by_cases known : key ∈ fs.names
    · -- it is put into its slot, and no other member is for that
      have hfound : Node.member? ((k, n) :: rest) key = some n := by rw [hmember, if_pos rfl]
      have hgone : Node.member? rest key = none :=
        Node.member?_eq_none fun m hm => honce m hm key known hkey
      have hsame : ∀ k' ≠ key, Node.member? rest k' = Node.member? ((k, n) :: rest) k' := by
        intro k' hne
        rw [hmember, if_neg hne]
      obtain ⟨filled, hput, hexpects⟩ := h.put names known hfound hgone hsame
      obtain ⟨slots', hfill, hsettle⟩ := ih ⟨hkeyed, hapart⟩ hexpects
      exact ⟨slots', (fill_cons_of_put hkey hput).trans hfill, hsettle⟩
    · have hexpects : fs.Expects p (Node.member? rest) slots a := h.congr fun k' hk' => by
        rw [hmember, if_neg fun heq : k' = key => known (heq ▸ hk')]
      obtain ⟨slots', hfill, hsettle⟩ := ih ⟨hkeyed, hapart⟩ hexpects
      exact ⟨slots', (fill_cons_of_skip hkey known (hskip known)).trans hfill, hsettle⟩

/-- **A record from an object:** each field takes its member, and `serves` says that all members are
of use or can be skipped. -/
theorem record_of_serves {name : String} {fs : Fields τ} {inner : Place} {a : τ}
    {members : List (Spelling × Node)} (enter : p.enter = .ok inner) (names : fs.names.Nodup)
    (serves : Serves fs.names members) (takes : fs.Takes inner (Node.member? members) a) :
    record name fs p (.object members none) = .ok a := by
  obtain ⟨slots, hfill, hsettle⟩ := (expects_empty takes).fill names serves
  rw [record, enter]
  show fs.fill inner members fs.empty >>= _ = _
  rw [hfill]
  exact hsettle

/-- The trees of members. -/
def trees (tree : Value → Node) (members : Members) : List (Spelling × Node) :=
  members.map fun m => (.ofString m.1, tree m.2)

variable {tree : Value → Node} {members : Members}

/-- To look a member up in the `trees` is to look it up in the values. -/
theorem member?_trees (members : Members) (key : String) :
    Node.member? (trees tree members) key = (members.lookup key).map tree := by
  induction members with
  | nil => rfl
  | cons m rest ih =>
    obtain ⟨k, v⟩ := m
    rw [trees, List.map_cons, Node.member?_cons (Spelling.text_ofString k), Members.lookup_cons,
      apply_ite (Option.map tree), ← ih]
    rfl

theorem serves_trees {names : List String} (distinct : (members.map (·.1)).Nodup)
    (known : ∀ m ∈ members, m.1 ∈ names) : Serves names (trees tree members) := by
  constructor
  · intro m hm
    obtain ⟨written, hwritten, rfl⟩ := List.mem_map.mp hm
    exact ⟨written.1, Spelling.text_ofString written.1, absurd (known written hwritten)⟩
  · have hapart := List.pairwise_map.mp distinct
    refine List.pairwise_map.mpr (hapart.imp fun hne key _ hkey hkey' => ?_)
    rw [Spelling.text_ofString] at hkey hkey'
    exact hne (Except.ok.inj (hkey.trans hkey'.symm))

/-- **A record from the trees of members:** each field is looked up among them. This is how all
payloads are decoded that were written here. -/
theorem record_object {name : String} {fs : Fields τ} {inner : Place} {a : τ}
    (enter : p.enter = .ok inner) (names : fs.names.Nodup) (distinct : (members.map (·.1)).Nodup)
    (known : ∀ m ∈ members, m.1 ∈ fs.names)
    (takes : fs.Takes inner (fun k => (members.lookup k).map tree) a) :
    record name fs p (.object (trees tree members) none) = .ok a := by
  have hmember : Node.member? (trees tree members) = fun k => (members.lookup k).map tree :=
    funext (member?_trees members)
  exact record_of_serves enter names (serves_trees distinct known) (hmember ▸ takes)

/-- The tree of an object has the trees of its members, which is `trees` for `Node.ofValue`. -/
theorem ofMembers_eq (members : Members) : Node.ofMembers members = trees .ofValue members := by
  induction members with
  | nil => rfl
  | cons m rest ih =>
    rw [Node.ofMembers, ih]
    rfl

/-- **The members that a record is written as:** no key comes twice, each is the name of a field,
and each field takes its value from its member. The values are scalars, and their numbers
integers. -/
structure Spells (fs : Fields τ) (members : Members) (a : τ) : Prop where
  distinct : (members.map (·.1)).Nodup
  known : ∀ m ∈ members, m.1 ∈ fs.names
  flat : ∀ m ∈ members, m.2.isWhole ∧ m.2.depth = 0
  takes : ∀ p, fs.Takes p (fun k => (members.lookup k).map Node.ofValue) a

namespace Spells

variable {fs : Fields τ} {a : τ} (spells : fs.Spells members a)
include spells

/-- An object of scalars is put in order by its keys only, as scalars are in order already. -/
theorem ordered_eq : (Value.object members).ordered = .object (Members.ofList members) := by
  have hsame : members.map (fun m => (m.1, m.2.ordered)) = members := by
    rw [List.map_congr_left fun m hm => by rw [Value.ordered_of_depth_eq (spells.flat m hm).2],
      List.map_id'']
    exact fun _ => rfl
  rw [Value.ordered_object, hsame]

/-- **A record that was written is decoded,** after its members were put in order. -/
theorem decodeValue_ordered (names : fs.names.Nodup) (name : String) :
    (record name fs).decodeValue (Value.object members).ordered = .ok a := by
  have htakes : fs.Takes ⟨.value, 126⟩
      (fun k => ((Members.ofList members).lookup k).map Node.ofValue) a := by
    simp only [Members.lookup_ofList spells.distinct]
    exact spells.takes _
  rw [spells.ordered_eq, Decoder.decodeValue, Node.ofValue, ofMembers_eq]
  exact record_object rfl names (Members.sorted_ofList members).nodup
    (fun m hm => spells.known m (Members.mem_of_mem_ofList hm)) htakes

/-- In order the object is still of whole numbers, and can be written and read back. -/
theorem isWhole_ordered : (Value.object members).ordered.isWhole := by
  rw [spells.ordered_eq, Value.isWhole_object]
  exact fun m hm => (spells.flat m (Members.mem_of_mem_ofList hm)).1

theorem depth_ordered_le : (Value.object members).ordered.depth ≤ 1 := by
  rw [spells.ordered_eq, Value.depth_object_le]
  exact fun m hm => Nat.le_of_eq (spells.flat m (Members.mem_of_mem_ofList hm)).2

end Spells

end Fields

end Lookout.Json
