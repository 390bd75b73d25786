import Lookout.Json.Value
import Mathlib.Data.List.Basic

/-!
# Values in order

The members of an object are kept by key, each key once. Putting a member in keeps them so, and
members that are so already stay what they are; hence a value that was put in order is in order
(`Value.ordered_ordered`). How deep a value nests and whether its numbers are integers is said by
its items and members, in whatever order.

* `Value.induction` — a property of values, by their items and members;
* `Members.Sorted` — members by key, with `Members.sorted_ofList` and `Members.ofList_eq_self`;
* `Value.depth` — how many containers are nested;
* `Value.isWhole` — whether all numbers are integers.
-/

namespace Lookout.Json

/-! ### Induction -/

/-- **Induction over values:** what holds of an array or an object if it holds of all its items or
of the values of all its members, and of all scalars, holds of every value. -/
@[elab_as_elim]
theorem Value.induction {P : Value → Prop} (null : P .null) (bool : ∀ b, P (.bool b))
    (number : ∀ n, P (.number n)) (string : ∀ s, P (.string s))
    (array : ∀ items : List Value, (∀ v ∈ items, P v) → P (.array items))
    (object : ∀ members : Members, (∀ m ∈ members, P m.2) → P (.object members)) (v : Value) :
    P v :=
  @Value.rec P (fun items => ∀ v ∈ items, P v) (fun members => ∀ m ∈ members, P m.2)
    (fun m => P m.2)
    null bool number string array object nofun
    (fun _ _ hv hrest => List.forall_mem_cons.mpr ⟨hv, hrest⟩) nofun
    (fun _ _ hm hrest => List.forall_mem_cons.mpr ⟨hm, hrest⟩) (fun _ _ hv => hv) v

/-! ### Members in order -/

namespace Members

/-- Members by key, each key once. -/
def Sorted (members : Members) : Prop := members.Pairwise fun m m' => m.1 < m'.1

variable {members : Members} {key : String} {value : Value} {m : String × Value}

/-- Keys are before or behind each other, or the same: the order of strings is total. -/
theorem lt_of_not_lt {key key' : String} (h : ¬key < key') (hne : key ≠ key') : key' < key := by
  by_contra hnot
  exact hne (String.le_antisymm (String.not_lt.mp hnot) (String.not_lt.mp h))

/-- What is there after an `insert` was there before, or is the new member. -/
theorem mem_insert (h : m ∈ members.insert key value) : m = (key, value) ∨ m ∈ members := by
  induction members with
  | nil => exact Or.inl (List.mem_singleton.mp h)
  | cons first rest ih =>
    obtain ⟨k, v⟩ := first
    rw [insert] at h
    split at h
    · exact List.mem_cons.mp h
    · split at h
      · exact (List.mem_cons.mp h).imp_right (List.mem_cons_of_mem _)
      · rcases List.mem_cons.mp h with rfl | h
        · exact Or.inr List.mem_cons_self
        · exact (ih h).imp_right (List.mem_cons_of_mem _)

/-- **Putting a member in keeps the members in order.** The induction is on the members, with the
cases of `insert`: before the first one, in its place, or further on. -/
theorem Sorted.insert (h : members.Sorted) (key : String) (value : Value) :
    (members.insert key value).Sorted := by
  induction members with
  | nil => exact List.pairwise_singleton _ _
  | cons first rest ih =>
    obtain ⟨k, v⟩ := first
    obtain ⟨hfirst, hrest⟩ := List.pairwise_cons.mp h
    rw [Members.insert]
    split
    · next hlt =>
      -- It comes before all others.
      refine List.pairwise_cons.mpr ⟨fun m hm => ?_, h⟩
      rcases List.mem_cons.mp hm with rfl | hm
      · exact hlt
      · exact String.lt_trans hlt (hfirst m hm)
    · next hnot =>
      split
      · next heq =>
        subst heq
        exact List.pairwise_cons.mpr ⟨hfirst, hrest⟩
      · next hne =>
        refine List.pairwise_cons.mpr ⟨fun m hm => ?_, ih hrest⟩
        rcases mem_insert hm with rfl | hm
        · exact lt_of_not_lt hnot hne
        · exact hfirst m hm

/-- A key behind all others comes last, so that sorted members stay as they are. -/
theorem insert_of_lt (h : ∀ m ∈ members, m.1 < key) :
    members.insert key value = members ++ [(key, value)] := by
  induction members with
  | nil => rfl
  | cons first rest ih =>
    obtain ⟨k, v⟩ := first
    have hlt : k < key := h (k, v) List.mem_cons_self
    have hne : key ≠ k := fun heq => String.lt_irrefl k (heq ▸ hlt)
    rw [insert, if_neg (String.lt_asymm hlt), if_neg hne,
      ih fun m hm => h m (List.mem_cons_of_mem _ hm)]
    rfl

theorem sorted_foldl {ordered : Members} (h : ordered.Sorted) :
    (members.foldl (fun ordered (k, v) => ordered.insert k v) ordered).Sorted := by
  induction members generalizing ordered with
  | nil => exact h
  | cons m rest ih => exact ih (h.insert m.1 m.2)

/-- What is there after many insertions was there before, or is one of the new members. -/
theorem mem_foldl {ordered : Members}
    (h : m ∈ members.foldl (fun ordered (k, v) => ordered.insert k v) ordered) :
    m ∈ members ∨ m ∈ ordered := by
  induction members generalizing ordered with
  | nil => exact Or.inr h
  | cons first rest ih =>
    rcases ih h with hmem | hmem
    · exact Or.inl (List.mem_cons_of_mem _ hmem)
    · rcases mem_insert hmem with rfl | hmem
      · exact Or.inl List.mem_cons_self
      · exact Or.inr hmem

/-- Members that come in order are added at the end. -/
theorem foldl_eq_append {ordered : Members} (h : (ordered ++ members).Sorted) :
    members.foldl (fun ordered (k, v) => ordered.insert k v) ordered = ordered ++ members := by
  induction members generalizing ordered with
  | nil => exact (List.append_nil ordered).symm
  | cons m rest ih =>
    obtain ⟨k, v⟩ := m
    rw [List.append_cons] at h
    obtain ⟨-, -, hbefore⟩ := List.pairwise_append.mp (List.pairwise_append.mp h).1
    have hinsert : ordered.insert k v = ordered ++ [(k, v)] :=
      insert_of_lt fun m hm => hbefore m hm (k, v) (List.mem_singleton_self _)
    calc _ = rest.foldl (fun ordered (k, v) => ordered.insert k v) (ordered.insert k v) := rfl
      _ = ordered ++ [(k, v)] ++ rest := by rw [hinsert, ih h]
      _ = ordered ++ (k, v) :: rest := (List.append_cons ordered (k, v) rest).symm

/-- Members are sorted once they were all inserted, in whatever order they came. -/
theorem sorted_ofList (members : Members) : (ofList members).Sorted :=
  sorted_foldl List.Pairwise.nil

/-- No member is made up: what `ofList` has was among the members. -/
theorem mem_of_mem_ofList (h : m ∈ ofList members) : m ∈ members :=
  (mem_foldl h).resolve_right List.not_mem_nil

/-- **Members that are in order stay as they are,** so what was put in order can be written and read
again. -/
theorem ofList_eq_self (h : members.Sorted) : ofList members = members :=
  foldl_eq_append h

end Members

namespace Value

/-! ### Values in order -/

theorem orderedItems_eq (items : List Value) : orderedItems items = items.map ordered := by
  induction items with
  | nil => rfl
  | cons v rest ih => rw [orderedItems, ih, List.map_cons]

theorem orderedMembers_eq (members : Members) :
    orderedMembers members = members.map fun m => (m.1, m.2.ordered) := by
  induction members with
  | nil => rfl
  | cons m rest ih => rw [orderedMembers, ih, List.map_cons]

theorem ordered_array (items : List Value) :
    (array items).ordered = array (items.map ordered) := by
  rw [ordered, orderedItems_eq]

theorem ordered_object (members : Members) : (object members).ordered =
    object (Members.ofList (members.map fun m => (m.1, m.2.ordered))) := by
  rw [ordered, orderedMembers_eq]

theorem ordered_array_eq_self {items : List Value} (h : ∀ v ∈ items, v.ordered = v) :
    (array items).ordered = array items := by
  rw [ordered_array, List.map_congr_left h, List.map_id'']
  exact fun _ => rfl

theorem ordered_object_eq_self {members : Members} (sorted : members.Sorted)
    (h : ∀ m ∈ members, m.2.ordered = m.2) : (object members).ordered = object members := by
  have hsame : members.map (fun m => (m.1, m.2.ordered)) = members := by
    rw [List.map_congr_left fun m hm => by rw [h m hm], List.map_id'']
    exact fun _ => rfl
  rw [ordered_object, hsame, Members.ofList_eq_self sorted]

/-- **A value that was put in order is in order:** `ordered` is idempotent. -/
theorem ordered_ordered (v : Value) : v.ordered.ordered = v.ordered := by
  induction v using Value.induction with
  | null => rfl
  | bool b => rfl
  | number n => rfl
  | string s => rfl
  | array items ih =>
    rw [ordered_array]
    -- Each element was put in order before.
    refine ordered_array_eq_self fun v hv => ?_
    obtain ⟨item, hitem, rfl⟩ := List.mem_map.mp hv
    exact ih item hitem
  | object members ih =>
    rw [ordered_object]
    refine ordered_object_eq_self (Members.sorted_ofList _) fun m hm => ?_
    obtain ⟨member, hmember, rfl⟩ := List.mem_map.mp (Members.mem_of_mem_ofList hm)
    exact ih member hmember

/-! ### Depth and numbers -/

mutual

/-- How many containers are nested in a value, itself included. -/
def depth : Value → Nat
  | null | bool _ | number _ | string _ => 0
  | array items => depthItems items + 1
  | object members => depthMembers members + 1

/-- The depth of the deepest element. -/
def depthItems : List Value → Nat
  | [] => 0
  | v :: rest => max v.depth (depthItems rest)

/-- The depth of the deepest member. -/
def depthMembers : List (String × Value) → Nat
  | [] => 0
  | (_, v) :: rest => max v.depth (depthMembers rest)

end

mutual

/-- Whether all numbers in a value are integers. -/
def isWhole : Value → Bool
  | null | bool _ | string _ | number (.int _) => true
  | number (.float _) => false
  | array items => isWholeItems items
  | object members => isWholeMembers members

/-- Whether all elements are of whole numbers. -/
def isWholeItems : List Value → Bool
  | [] => true
  | v :: rest => v.isWhole && isWholeItems rest

/-- Whether all members are. -/
def isWholeMembers : List (String × Value) → Bool
  | [] => true
  | (_, v) :: rest => v.isWhole && isWholeMembers rest

end

/-- A scalar has no members to be put in order; it is what has no `depth`. -/
theorem ordered_of_depth_eq {v : Value} (h : v.depth = 0) : v.ordered = v := by
  cases v with
  | array items => cases h
  | object members => cases h
  | _ => rfl

theorem depth_array_le {items : List Value} {room : Nat} :
    (array items).depth ≤ room + 1 ↔ ∀ v ∈ items, v.depth ≤ room := by
  rw [depth, Nat.succ_le_succ_iff]
  induction items with
  | nil => simp [depthItems]
  | cons v rest ih => rw [depthItems, Nat.max_le, ih, List.forall_mem_cons]

/-- An object fits into some room if each value of a member fits with one level less. -/
theorem depth_object_le {members : Members} {room : Nat} :
    (object members).depth ≤ room + 1 ↔ ∀ m ∈ members, m.2.depth ≤ room := by
  rw [depth, Nat.succ_le_succ_iff]
  induction members with
  | nil => simp [depthMembers]
  | cons m rest ih => rw [depthMembers, Nat.max_le, ih, List.forall_mem_cons]

theorem isWhole_array {items : List Value} :
    (array items).isWhole = true ↔ ∀ v ∈ items, v.isWhole = true := by
  rw [isWhole]
  induction items with
  | nil => simp [isWholeItems]
  | cons v rest ih => rw [isWholeItems, Bool.and_eq_true, ih, List.forall_mem_cons]

theorem isWhole_object {members : Members} :
    (object members).isWhole = true ↔ ∀ m ∈ members, m.2.isWhole = true := by
  rw [isWhole]
  induction members with
  | nil => simp [isWholeMembers]
  | cons m rest ih => rw [isWholeMembers, Bool.and_eq_true, ih, List.forall_mem_cons]

end Value

end Lookout.Json
