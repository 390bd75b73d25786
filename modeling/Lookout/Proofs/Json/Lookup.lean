import Lookout.Proofs.Json.Members
import Lookout.Proofs.Json.Tree
import Mathlib.Data.List.Forall2

/-!
# Where a record finds its fields

A record that was decoded says something of the tree that it was decoded from. Each of its fields
took its value from one place of the tree, which can be told without going through the members: in
an object it is the member with the name of the field, in an array the item with its number, and
where there is none the field is absent (`Node.field?`, `Fields.takes_of_record`). This holds with
unknown members, and whatever order the members have; two members for one field are not decoded at
all. It is the converse of `Fields.record_of_serves`, and goes through the members from the last one
back, since what a slot expects is known from what follows.

An object whose members go into a map is another matter: there the last member with a key wins
(`Node.latest?`, `Members.get?_of_decode`).

* `Node.field?` — the tree that stands for a field;
* `Fields.takes_of_record` — what the fields of a record took;
* `Node.latest?`, `Members.get?_of_decode` — the entries of a map that was decoded;
* `Node.word?` — the 64-bit word that a tree spells, with what is decoded as one.
-/

namespace Lookout.Json

/-! ### Members and items -/

namespace Node

/-- **The tree that stands for a field** of a record with these fields. -/
def field? (names : List String) (name : String) : Node → Option Node
  | object members _ => member? members name
  | array items _ => (names.zip items).lookup name
  | null | bool _ | numeral _ | number _ | string _ | broken _ => none

/-- The tree of the last member with a key, if the tree is an object. -/
def latest? (key : String) : Node → Option Node
  | object members _ => member? members.reverse key
  | null | bool _ | numeral _ | number _ | string _ | array _ _ | broken _ => none

/-- How many items an array has; any other tree has none. -/
def count : Node → Nat
  | array items _ => items.length
  | null | bool _ | numeral _ | number _ | string _ | object _ _ | broken _ => 0

/-- The 64-bit word that a tree spells: a whole number, and neither a negative one nor too large. -/
def word? (n : Node) : Option UInt64 :=
  match Decoder.number? n with
  | some (.ok (.int i)) => i.toUInt64?
  | _ => none

end Node

/-! ### Records -/

namespace Fields

variable {α β τ : Type} {p : Place} {find find' : String → Option Node}

/-- Only what is found under the names of the fields matters: `find` may be another function
elsewhere. -/
theorem Takes.congr {fs : Fields τ} {a : τ} (h : fs.Takes p find a)
    (same : ∀ k ∈ fs.names, find' k = find k) : fs.Takes p find' a := by
  induction fs with
  | nil => trivial
  | cons f rest ih =>
    obtain ⟨hfirst, hrest⟩ := h
    refine ⟨?_, ih hrest fun k hk => same k (List.mem_cons_of_mem _ hk)⟩
    rw [same f.name List.mem_cons_self]
    exact hfirst

/-- Once all members were seen nothing is to be found any more; the end from which `expects_of_fill`
goes back. -/
theorem expects_of_settle {fs : Fields τ} {slots : fs.Slots} {a : τ} (h : fs.settle slots = .ok a) :
    fs.Expects p (fun _ => none) slots a := by
  induction fs with
  | nil => trivial
  | cons f rest ih =>
    obtain ⟨hfirst, hrest⟩ := settle_cons_eq_ok h
    exact ⟨hfirst, ih hrest⟩

/-- **Before a member was put into its slot** it was still to be found. Read backwards, as the
record is what is known and the members are what is asked for. -/
theorem Expects.of_put {fs : Fields τ} {slots slots' : fs.Slots} {a : τ} {key : String} {n : Node}
    (h : fs.Expects p find slots' a) (names : fs.names.Nodup)
    (hput : fs.put p key n slots = some (.ok slots')) (found : find' key = some n)
    (same : ∀ k ≠ key, find' k = find k) : fs.Expects p find' slots a := by
  induction fs with
  | nil => cases hput
  | cons f rest ih =>
    obtain ⟨hfirst, hrest⟩ := h
    obtain ⟨hname, hnames⟩ := List.nodup_cons.mp names
    rcases put_cons_eq_ok hput with ⟨rfl, hempty, b, hdecode, rfl⟩ | ⟨hne, filled, hrestput, rfl⟩
    · refine ⟨?_, hrest.congr fun k hk => same k fun heq => hname (heq ▸ hk)⟩
      -- The slot is filled, so no other member is for it.
      cases hfind : find f.name with
      | some n' =>
        rw [hfind] at hfirst
        cases hfirst.1
      | none =>
        rw [hfind] at hfirst
        obtain rfl : b = a.1 := Option.some.inj hfirst
        rw [found]
        exact ⟨hempty, hdecode⟩
    · refine ⟨?_, ih hrest hnames hrestput⟩
      rw [same f.name (Ne.symm hne)]
      exact hfirst

/-- What the slots expect of members that were gone through. The induction is on the members, each
of which is put into a slot or skipped. -/
theorem expects_of_fill {fs : Fields τ} (names : fs.names.Nodup)
    {members : List (Spelling × Node)} {slots slots' : fs.Slots} {a : τ}
    (hfill : fs.fill p members slots = .ok slots') (hsettle : fs.settle slots' = .ok a) :
    fs.Expects p (Node.member? members) slots a := by
  -- On the members, the first of which is put into its slot or skipped.
  induction members generalizing slots with
  | nil =>
    cases hfill
    exact expects_of_settle hsettle
  | cons m rest ih =>
    obtain ⟨k, n⟩ := m
    obtain ⟨key, filled, hkey, hfill, hput⟩ := fill_cons_eq_ok hfill
    have hrest := ih hfill
    have hmember := Node.member?_cons hkey n rest
    rcases hput with hput | ⟨hput, -, rfl⟩
    · refine hrest.of_put names hput ?_ fun k' hne => ?_
      · rw [hmember, if_pos rfl]
      · rw [hmember, if_neg hne]
    · have hunknown := put_eq_none_iff.mp hput
      refine hrest.congr fun k' hk' => ?_
      rw [hmember, if_neg fun heq : k' = key => hunknown (heq ▸ hk')]

/-- At first all slots are empty, so that what is expected of the members is what is taken from
them. -/
theorem takes_of_expects {fs : Fields τ} {a : τ} (h : fs.Expects p find fs.empty a) :
    fs.Takes p find a := by
  induction fs with
  | nil => trivial
  | cons f rest ih =>
    obtain ⟨hfirst, hrest⟩ := h
    refine ⟨?_, ih hrest⟩
    cases hfind : find f.name with
    | none =>
      rw [hfind] at hfirst
      exact hfirst
    | some n =>
      rw [hfind] at hfirst
      exact hfirst.2

/-- The fields took the items in their order, and each found one under the index of its name. -/
theorem takes_of_takeItems {tooFew : Nat → DecodeError} {stop : Option Break} {fs : Fields τ}
    (names : fs.names.Nodup) {index : Nat} {items left : List Node} {a : τ}
    (h : takeItems tooFew p stop fs index items = .ok (a, left)) :
    fs.Takes p (fun name => (fs.names.zip items).lookup name) a := by
  -- On the fields, each of which takes the next element.
  induction fs generalizing index items with
  | nil => trivial
  | cons f rest ih =>
    obtain ⟨hname, hnames⟩ := List.nodup_cons.mp names
    cases items with
    | nil =>
      obtain ⟨habsent, hrest⟩ := takeItems_nil_eq_ok h
      refine ⟨habsent, (ih hnames hrest).congr fun k _ => ?_⟩
      rw [List.zip_nil_right, List.zip_nil_right]
    | cons n items =>
      obtain ⟨hdecode, hrest⟩ := takeItems_cons_eq_ok h
      refine ⟨?_, (ih hnames hrest).congr fun k hk => ?_⟩
      · change f.Takes p (List.lookup f.name ((f.name, n) :: rest.names.zip items)) a.1
        rw [List.lookup_cons_self]
        exact hdecode
      · have hne : k ≠ f.name := fun heq => hname (heq ▸ hk)
        rw [Fields.names, List.zip_cons_cons, List.lookup_cons, beq_eq_false_iff_ne.mpr hne]

/-- **What the fields of a record took,** if it was decoded, from an object or an array. -/
theorem takes_of_record {name : String} {fs : Fields τ} (names : fs.names.Nodup) {n : Node} {a : τ}
    (h : record name fs p n = .ok a) :
    ∃ inner, p.enter = .ok inner ∧ fs.Takes inner (fun k => n.field? fs.names k) a := by
  rcases record_eq_ok h with ⟨members, stop, inner, slots, rfl, henter, hfill, hsettle⟩ |
    ⟨items, stop, inner, tooFew, left, rfl, henter, htake⟩
  · exact ⟨inner, henter, takes_of_expects (expects_of_fill names hfill hsettle)⟩
  · exact ⟨inner, henter, takes_of_takeItems names htake⟩

end Fields

/-! ### What fields take -/

namespace Decoder

variable {p : Place} {n : Node}

/-- The number that `uint64` decoded is the one that is written. -/
theorem word?_of_uint64 {a : UInt64} (h : uint64 p n = .ok a) : n.word? = some a := by
  unfold uint64 integer at h
  rw [Node.word?]
  -- Only a number is decoded, and only one that is a word.
  split at h
  · unfold wrongType at h
    split at h <;> cases h
  · cases h
  · cases h
  · next i hnumber =>
    rw [hnumber]
    split at h
    · next b hb =>
      cases h
      exact hb
    · cases h

/-- The number that was decoded is the one that is written, if there may be none as well. -/
theorem word?_of_option {a : Option UInt64} (h : option uint64 p n = .ok a) : n.word? = a := by
  unfold option at h
  split at h
  · cases h
    rfl
  · obtain ⟨b, hb, rfl⟩ := map_eq_ok h
    exact word?_of_uint64 hb

theorem length_of_items {α : Type} {decode : Decoder α} {ns : List Node} {as : List α}
    (h : items decode p ns = .ok as) : as.length = ns.length := by
  induction ns generalizing as with
  | nil =>
    cases h
    rfl
  | cons n rest ih =>
    obtain ⟨b, -, h⟩ := bind_eq_ok h
    obtain ⟨bs, hbs, h⟩ := bind_eq_ok h
    cases h
    rw [List.length_cons, List.length_cons, ih hbs]

theorem count_of_list {α : Type} {decode : Decoder α} {as : List α}
    (h : list decode p n = .ok as) : n.count = as.length := by
  unfold list at h
  split at h
  · obtain ⟨inner, -, h⟩ := bind_eq_ok h
    obtain ⟨bs, hbs, h⟩ := bind_eq_ok h
    obtain ⟨-, -, h⟩ := bind_eq_ok h
    cases h
    exact (length_of_items hbs).symm
  · unfold wrongType at h
    split at h <;> cases h

/-- A list that may be missing counts as none if it is, and otherwise has as many elements as are
written. -/
theorem count_of_option {α : Type} {decode : Decoder α} {as : Option (List α)}
    (h : option (list decode) p n = .ok as) : n.count = (as.map List.length).getD 0 := by
  unfold option at h
  split at h
  · cases h
    rfl
  · obtain ⟨bs, hbs, rfl⟩ := map_eq_ok h
    exact count_of_list hbs

end Decoder

namespace Field

variable {p : Place} {name : String} {found : Option Node}

/-- A word that may be left out: the field took what `word?` reads in its place. -/
theorem word?_of_takes {a : Option UInt64}
    (h : Takes ⟨name, Decoder.option Decoder.uint64, some none⟩ p found a) :
    found.bind Node.word? = a := by
  cases found with
  | none => exact Option.some.inj h
  | some n => exact Decoder.word?_of_option h

/-- A word with a default: where none is written, the field took `default`. -/
theorem getD_of_takes {a default : UInt64}
    (h : Takes ⟨name, Decoder.uint64, some default⟩ p found a) :
    (found.bind Node.word?).getD default = a := by
  cases found with
  | none => exact Option.some.inj h
  | some n =>
    have hword : Decoder.uint64 p n = .ok a := h
    rw [Option.bind_some, Decoder.word?_of_uint64 hword]
    rfl

/-- A list that may be left out: the field took as many elements as are written, and none where
there is none. -/
theorem count_of_takes {α : Type} {decode : Decoder α} {as : Option (List α)}
    (h : Takes ⟨name, Decoder.option (Decoder.list decode), some none⟩ p found as) :
    (found.map Node.count).getD 0 = (as.map List.length).getD 0 := by
  cases found with
  | none =>
    obtain rfl := Option.some.inj h
    rfl
  | some n => exact Decoder.count_of_option h

end Field

/-! ### The entries of a map -/

namespace Members

/-- To get a member with `get?` is to look its key up. -/
theorem get?_eq_lookup (members : Members) (key : String) :
    members.get? key = members.lookup key := by
  induction members with
  | nil => rfl
  | cons m rest ih =>
    obtain ⟨k, v⟩ := m
    rw [lookup_cons, ← ih, get?, get?, List.find?_cons]
    by_cases h : key = k
    · rw [if_pos h, h, beq_self_eq_true]
      rfl
    · rw [if_neg h, beq_eq_false_iff_ne.mpr (Ne.symm h)]

end Members

/-- The 64-bit word that a value is, if it is one. -/
def Value.word? : Value → Option UInt64
  | .number (.int i) => i.toUInt64?
  | .null | .bool _ | .number (.float _) | .string _ | .array _ | .object _ => none

namespace Node

variable {room : Nat} {members : List (Spelling × Node)} {values : Members}

/-- A word is read as what it is spelled as, in a tree as in the value of the tree. -/
theorem word?_of_value {n : Node} {v : Value} (h : n.value room = .ok v) : n.word? = v.word? := by
  cases n with
  | null | bool =>
    cases h
    rfl
  | number number =>
    cases h
    cases number <;> rfl
  -- A numeral is the number that it is for the decoder.
  | numeral n =>
    obtain ⟨number, hnumber, rfl⟩ := map_eq_ok h
    rw [word?, Decoder.number?, hnumber]
    cases number <;> rfl
  | string s =>
    obtain ⟨text, -, rfl⟩ := map_eq_ok h
    rfl
  | array items stop =>
    obtain ⟨-, values, -, rfl, -⟩ := array_value_eq_ok h
    rfl
  | object members stop =>
    obtain ⟨-, values, -, rfl, -⟩ := object_value_eq_ok h
    rfl
  | broken b => cases h

/-- The members that were read, one by one: each key has its text, and each value that of its
tree. -/
theorem forall₂_of_valueMembers (h : valueMembers room members = .ok values) :
    List.Forall₂ (fun m v => m.1.text = .ok v.1 ∧ m.2.value room = .ok v.2) members values := by
  induction members generalizing values with
  | nil =>
    cases h
    exact .nil
  | cons m rest ih =>
    obtain ⟨key, hkey, h⟩ := bind_eq_ok h
    obtain ⟨v, hv, h⟩ := bind_eq_ok h
    obtain ⟨others, hothers, h⟩ := bind_eq_ok h
    cases h
    exact .cons ⟨hkey, hv⟩ (ih hothers)

/-- The first member with a key is read as the first value of the key. -/
theorem word?_of_member? (h : List.Forall₂
      (fun m v => m.1.text = .ok v.1 ∧ m.2.value room = .ok v.2) members values) (key : String) :
    (member? members key).bind word? = (values.lookup key).bind Value.word? := by
  induction h with
  | nil => rfl
  | @cons m v members values hm _ ih =>
    obtain ⟨k, n⟩ := m
    obtain ⟨key', value⟩ := v
    rw [member?_cons hm.1, Members.lookup_cons]
    by_cases heq : key = key'
    · rw [if_pos heq, if_pos heq]
      exact word?_of_value hm.2
    · rw [if_neg heq, if_neg heq, ih]

end Node

/-- **The entries of a map** that was decoded: of all members with a key it is the last one that
counts. -/
theorem Members.get?_of_decode {p : Place} {n : Node} {members : Members}
    (h : Decoder.members p n = .ok members) (key : String) :
    (n.latest? key).bind Node.word? = (members.get? key).bind Value.word? := by
  unfold Decoder.members at h
  split at h
  · next nodes stop =>
    obtain ⟨v, hv, h⟩ := map_eq_ok h
    replace hv := fromText_eq_ok hv
    -- Without room there is no map.
    cases hroom : p.room with
    | zero =>
      rw [hroom] at hv
      cases hv
    | succ room =>
      rw [hroom] at hv
      obtain ⟨values, hvalues, hv⟩ := bind_eq_ok hv
      obtain ⟨-, -, hv⟩ := bind_eq_ok hv
      cases hv
      obtain rfl : ofList values = members := h
      rw [get?_eq_lookup, lookup_ofList_eq]
      have hreverse := List.forall₂_reverse_iff.mpr (Node.forall₂_of_valueMembers hvalues)
      exact Node.word?_of_member? hreverse key
  · unfold Decoder.wrongType at h
    split at h <;> cases h

/-- A map that may be left out: its entries are the last members with their keys, and there is none
where it is missing. -/
theorem Field.get?_of_takes {p : Place} {name : String} {found : Option Node}
    {members : Option Members}
    (h : Takes ⟨name, Decoder.option Decoder.members, some none⟩ p found members) (key : String) :
    (found.bind (·.latest? key)).bind Node.word? =
      (members.bind (·.get? key)).bind Value.word? := by
  cases found with
  | none =>
    obtain rfl := Option.some.inj h
    rfl
  -- Null is a map without members.
  | some n =>
    have hdecode : Decoder.option Decoder.members p n = .ok members := h
    unfold Decoder.option at hdecode
    split at hdecode
    · cases hdecode
      rfl
    · obtain ⟨entries, hentries, rfl⟩ := map_eq_ok hdecode
      exact Members.get?_of_decode hentries key

end Lookout.Json
