import Lookout.Json.Tree
import Lookout.Proofs.Json.Record
import Lookout.Proofs.Json.Value

/-!
# Values that were read

A tree has a value only if no more containers are open in it at once than there is room for, and the
value has the members of its objects in order, whatever order the text had them in. Null is the
value of null alone.

* `Node.induction` — a property of trees, by their items and members;
* `Node.value_induction` — a property of values that were read;
* `Node.depth_le_of_value` — how deep a value that was read nests;
* `Node.ordered_of_value` — its members are in order;
* `Node.eq_null_of_value` — what is read as null.
-/

namespace Lookout.Json.Node

/-- **Induction over trees:** what holds of an array or an object if it holds of all its items or of
the trees of all its members, and of everything else, holds of every tree. -/
@[elab_as_elim]
theorem induction {P : Node → Prop} (null : P .null) (bool : ∀ b, P (.bool b))
    (numeral : ∀ n, P (.numeral n)) (number : ∀ n, P (.number n)) (string : ∀ s, P (.string s))
    (array : ∀ items stop, (∀ n ∈ items, P n) → P (.array items stop))
    (object : ∀ members : List (Spelling × Node), ∀ stop, (∀ m ∈ members, P m.2) →
      P (.object members stop))
    (broken : ∀ b, P (.broken b)) (n : Node) : P n :=
  @Node.rec P (fun items => ∀ n ∈ items, P n) (fun members => ∀ m ∈ members, P m.2)
    (fun m => P m.2)
    null bool numeral number string (fun items stop h => array items stop h)
    (fun members stop h => object members stop h) broken nofun
    (fun _ _ hn hrest => List.forall_mem_cons.mpr ⟨hn, hrest⟩) nofun
    (fun _ _ hm hrest => List.forall_mem_cons.mpr ⟨hm, hrest⟩) (fun _ _ hn => hn) n

variable {room : Nat}

/-- Every item of an array that was read comes from an item of the text. -/
theorem exists_of_valueItems {items : List Node} {values : List Value}
    (h : valueItems room items = .ok values) {v : Value} (hv : v ∈ values) :
    ∃ n ∈ items, n.value room = .ok v := by
  induction items generalizing values with
  | nil =>
    cases h
    cases hv
  | cons n rest ih =>
    obtain ⟨first, hfirst, h⟩ := bind_eq_ok h
    obtain ⟨others, hothers, h⟩ := bind_eq_ok h
    cases h
    -- The first value is that of the first element.
    rcases List.mem_cons.mp hv with rfl | hv
    · exact ⟨n, List.mem_cons_self, hfirst⟩
    · obtain ⟨n', hn', hvalue⟩ := ih hothers hv
      exact ⟨n', List.mem_cons_of_mem n hn', hvalue⟩

/-- Every member of an object that was read comes from a member of the text. -/
theorem exists_of_valueMembers {members : List (Spelling × Node)} {values : Members}
    (h : valueMembers room members = .ok values) {v : String × Value} (hv : v ∈ values) :
    ∃ m ∈ members, m.2.value room = .ok v.2 := by
  induction members generalizing values with
  | nil =>
    cases h
    cases hv
  | cons m rest ih =>
    -- The key must be whole too, but this is not asked for here.
    obtain ⟨key, -, h⟩ := bind_eq_ok h
    obtain ⟨first, hfirst, h⟩ := bind_eq_ok h
    obtain ⟨others, hothers, h⟩ := bind_eq_ok h
    cases h
    rcases List.mem_cons.mp hv with rfl | hv
    · exact ⟨m, List.mem_cons_self, hfirst⟩
    · obtain ⟨m', hm', hvalue⟩ := ih hothers hv
      exact ⟨m', List.mem_cons_of_mem m hm', hvalue⟩

/-- An array that was read: there was room for it, and each value is that of an item with one level
less. -/
theorem array_value_eq_ok {items : List Node} {stop : Option Break} {v : Value}
    (h : (array items stop).value room = .ok v) :
    ∃ room' values, room = room' + 1 ∧ v = .array values ∧
      ∀ v ∈ values, ∃ n ∈ items, n.value room' = .ok v := by
  cases room with
  | zero => cases h
  | succ room =>
    obtain ⟨values, hvalues, h⟩ := bind_eq_ok h
    obtain ⟨-, -, h⟩ := bind_eq_ok h
    cases h
    exact ⟨room, values, rfl, rfl, fun v hv => exists_of_valueItems hvalues hv⟩

/-- An object that was read: there was room for it, and its members were put in order by
`Members.ofList`. -/
theorem object_value_eq_ok {members : List (Spelling × Node)} {stop : Option Break} {v : Value}
    (h : (object members stop).value room = .ok v) :
    ∃ room' values, room = room' + 1 ∧ v = .object (Members.ofList values) ∧
      ∀ v ∈ Members.ofList values, ∃ m ∈ members, m.2.value room' = .ok v.2 := by
  cases room with
  | zero => cases h
  | succ room =>
    obtain ⟨values, hvalues, h⟩ := bind_eq_ok h
    obtain ⟨-, -, h⟩ := bind_eq_ok h
    cases h
    exact ⟨room, values, rfl, rfl, fun v hv =>
      exists_of_valueMembers hvalues (Members.mem_of_mem_ofList hv)⟩

/-- **Induction over what was read:** a container takes away one of those for which there is room,
and an object has its members in order. -/
theorem value_induction {P : Nat → Value → Prop} (null : ∀ room, P room .null)
    (bool : ∀ room b, P room (.bool b)) (number : ∀ room n, P room (.number n))
    (string : ∀ room s, P room (.string s))
    (array : ∀ room values, (∀ v ∈ values, P room v) → P (room + 1) (.array values))
    (object : ∀ room (values : Members), (∀ m ∈ Members.ofList values, P room m.2) →
      P (room + 1) (.object (Members.ofList values)))
    {n : Node} {v : Value} (h : n.value room = .ok v) : P room v := by
  -- On the tree; the values of containers are those of trees with one level less.
  induction n using Node.induction generalizing room v with
  | null =>
    cases h
    exact null room
  | bool b =>
    cases h
    exact bool room b
  | number n =>
    cases h
    exact number room n
  | numeral n =>
    obtain ⟨n, -, rfl⟩ := map_eq_ok h
    exact number room n
  | string s =>
    obtain ⟨s, -, rfl⟩ := map_eq_ok h
    exact string room s
  -- A break has no value.
  | broken b => cases h
  | array items stop ih =>
    obtain ⟨room, values, rfl, rfl, hvalues⟩ := array_value_eq_ok h
    refine array room values fun v hv => ?_
    obtain ⟨n, hn, hvalue⟩ := hvalues v hv
    exact ih n hn hvalue
  | object members stop ih =>
    obtain ⟨room, values, rfl, rfl, hvalues⟩ := object_value_eq_ok h
    refine object room values fun v hv => ?_
    obtain ⟨m, hm, hvalue⟩ := hvalues v hv
    exact ih m hm hvalue

/-- **No more containers are nested in a value** than there was room for, by `value_induction`. -/
theorem depth_le_of_value {n : Node} {v : Value} (h : n.value room = .ok v) : v.depth ≤ room := by
  refine value_induction (P := fun room v => v.depth ≤ room) ?null ?bool ?number ?string ?array
    ?object h
  case null => exact Nat.zero_le
  case bool | number | string => exact fun room _ => Nat.zero_le room
  case array => exact fun _ _ hvalues => Value.depth_array_le.mpr hvalues
  case object => exact fun _ _ hvalues => Value.depth_object_le.mpr hvalues

/-- **A value that was read is in order,** as each object is put in order when it is read. -/
theorem ordered_of_value {n : Node} {v : Value} (h : n.value room = .ok v) : v.ordered = v := by
  refine value_induction (P := fun _ v => v.ordered = v) ?null ?bool ?number ?string ?array
    ?object h
  case null => exact fun _ => rfl
  case bool | number | string => exact fun _ _ => rfl
  case array => exact fun _ _ hvalues => Value.ordered_array_eq_self hvalues
  case object =>
    intro _ values hvalues
    exact Value.ordered_object_eq_self (Members.sorted_ofList values) hvalues

/-- **Only null is read as null,** so what was left out can be told from what is there. -/
theorem eq_null_of_value {n : Node} (h : n.value room = .ok .null) : n = .null := by
  cases n with
  | null => rfl
  | bool | number | broken => cases h
  -- No other tree has the value null.
  | numeral n =>
    obtain ⟨number, -, heq⟩ := map_eq_ok h
    cases heq
  | string s =>
    obtain ⟨text, -, heq⟩ := map_eq_ok h
    cases heq
  | array items stop =>
    obtain ⟨-, values, -, heq, -⟩ := array_value_eq_ok h
    cases heq
  | object members stop =>
    obtain ⟨-, values, -, heq, -⟩ := object_value_eq_ok h
    cases heq

end Lookout.Json.Node
