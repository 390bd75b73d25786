import Lookout.Proofs.Json.Scalar
import Lookout.Proofs.Json.Value

/-!
# Reading a value that was written

The text of a value is read as the tree that spells it (`Document.read_chars`), and the tree means
the value again, with the members of objects in order (`Node.value_written`). Both are inductions
over the value. In the first one a value stands anywhere in a text, behind containers that are still
open. A number ends only at what follows it, so what a value leaves behind is said by what the
reader does next (`Reader.Past`): at a comma or a closing bracket, and at the end of the text.

* `Node.written` — the tree that the text of a value spells;
* `Reader.Past` — a value was read, and `Reader.past_chars` — its text;
* `Document.read_chars` — the text of a value as a whole;
* `Node.value_written` — what the tree means.
-/

namespace Lookout.Json

/-! ### Trees -/

namespace Node

mutual

/-- The tree that the text of a value spells, if its numbers are integers. -/
def written : Value → Node
  | .null => null
  | .bool b => bool b
  | .number (.int i) => numeral (.ofInt i.val)
  | .number (.float x) => number (.float x)
  | .string s => string (.ofString s)
  | .array items => array (writtenItems items) none
  | .object members => object (writtenMembers members) none

/-- The trees of all elements. -/
def writtenItems : List Value → List Node
  | [] => []
  | v :: rest => written v :: writtenItems rest

/-- The trees of all members. -/
def writtenMembers : List (String × Value) → List (Spelling × Node)
  | [] => []
  | (k, v) :: rest => (.ofString k, written v) :: writtenMembers rest

end

/-- The items of an array are written one by one: the recursion of `written` is a map. -/
theorem writtenItems_eq (items : List Value) : writtenItems items = items.map written := by
  induction items with
  | nil => rfl
  | cons v rest ih => rw [writtenItems, ih, List.map_cons]

theorem writtenMembers_eq (members : Members) :
    writtenMembers members = members.map fun m => (Spelling.ofString m.1, written m.2) := by
  induction members with
  | nil => rfl
  | cons m rest ih => rw [writtenMembers, ih, List.map_cons]

end Node

/-! ### Reading -/

namespace Reader

/-- **A value was read,** and this is its tree: a comma or a closing bracket, and the end of the
text, are taken as if the reader already knew that it is over. -/
structure Past (r : Reader) (stack : List Open) (n : Node) : Prop where
  step : ∀ b, b = 0x2C ∨ b = 0x5D ∨ b = 0x7D → r.step b = stepAfter (accept stack n) b
  finish : r.finish = finishAfter (accept stack n)

variable (stack : List Open)

theorem past_accept (n : Node) : (accept stack n).Past stack n := by
  rcases stack with - | ⟨_ | _, stack⟩ <;> exact ⟨fun _ _ => rfl, rfl⟩

theorem step_whole_eq_ended (negative : Bool) (n : Nat) {b : UInt8}
    (h : b = 0x2C ∨ b = 0x5D ∨ b = 0x7D) : (NumeralReader.whole negative n).step b = .ended := by
  unfold NumeralReader.whole
  by_cases hn : n = 0
  · rw [if_pos hn]
    rcases h with rfl | rfl | rfl <;> rfl
  · rw [if_neg hn]
    rcases h with rfl | rfl | rfl <;> rfl

/-- An integer is past when all its digits are read, since the byte behind it ends it. -/
theorem past_numeral (i : Integer) :
    Past ⟨stack, .numeral (.whole (decide (i.val < 0)) i.val.natAbs)⟩ stack
      (.numeral (.ofInt i.val)) where
  step b hb := by
    simp only [step, step_whole_eq_ended _ _ hb, NumeralReader.numeral_whole]
    rfl
  finish := by
    simp only [finish, NumeralReader.isComplete_whole, if_true, NumeralReader.numeral_whole]
    rfl

/-- The items of an array, up to its end. The induction is on the items, with those that are `done`
general. -/
theorem foldl_items {items : List Value} (reads : ∀ v ∈ items, ∀ stack,
      ((Utf8.encode v.chars).foldl step ⟨stack, .value⟩).Past stack (.written v))
    (nonempty : items ≠ []) (done : List Node) :
    (Utf8.encode (Value.charsItems items ++ [']'])).foldl step ⟨.array done :: stack, .value⟩ =
      accept stack (.array (done.reverse ++ items.map .written) none) := by
  have hend : Utf8.encode [']'] = [0x5D] := rfl
  have hcomma : Utf8.encode [','] = [0x2C] := rfl
  -- On the elements: the one in front ends with a comma or with the bracket.
  induction items generalizing done with
  | nil => exact absurd rfl nonempty
  | cons v rest ih =>
    have hfirst := (reads v List.mem_cons_self (.array done :: stack)).step
    have hdone : (Node.written v :: done).reverse = done.reverse ++ [.written v] :=
      List.reverse_cons
    -- The last element has the bracket behind it, any other the comma.
    rcases rest with - | ⟨next, rest⟩
    · rw [Value.charsItems, Utf8.encode_append, List.foldl_append, hend, List.foldl_cons,
        List.foldl_nil, hfirst 0x5D (Or.inr (Or.inl rfl))]
      show accept stack (.array (Node.written v :: done).reverse none) = _
      rw [hdone]
      rfl
    · have hrest := ih (fun v hv => reads v (List.mem_cons_of_mem _ hv)) nofun (.written v :: done)
      have hsplit : Value.charsItems (v :: next :: rest) ++ [']'] =
          v.chars ++ ([','] ++ (Value.charsItems (next :: rest) ++ [']'])) := by
        rw [Value.charsItems, List.append_assoc]
        · rfl
        · exact nofun
      rw [hsplit, Utf8.encode_append, Utf8.encode_append, List.foldl_append, hcomma,
        List.foldl_append, List.foldl_cons, List.foldl_nil, hfirst 0x2C (Or.inl rfl)]
      show List.foldl step ⟨.array (.written v :: done) :: stack, .value⟩ _ = _
      rw [hrest, hdone, List.append_assoc]
      rfl

/-- A key and the colon between it and its value, after which a value is to come. -/
theorem foldl_keyAndColon (done : List (Spelling × Node)) (key : String) :
    (Utf8.encode (stringText key ++ [':'])).foldl step ⟨stack, .key done⟩ =
      ⟨.member done (.ofString key) :: stack, .value⟩ := by
  rw [Utf8.encode_append, List.foldl_append, foldl_key]
  rfl

/-- The members of an object, up to its end. The induction is on the members, with those that are
`done` general. -/
theorem foldl_members {members : Members} (reads : ∀ m ∈ members, ∀ stack,
      ((Utf8.encode m.2.chars).foldl step ⟨stack, .value⟩).Past stack (.written m.2))
    (nonempty : members ≠ []) (done : List (Spelling × Node)) :
    (Utf8.encode (Value.charsMembers members ++ ['\x7d'])).foldl step ⟨stack, .key done⟩ =
      accept stack (.object
        (done.reverse ++ members.map fun m => (Spelling.ofString m.1, Node.written m.2)) none) := by
  have hend : Utf8.encode ['\x7d'] = [0x7D] := rfl
  have hcomma : Utf8.encode [','] = [0x2C] := rfl
  -- On the members, in the same way.
  induction members generalizing done with
  | nil => exact absurd rfl nonempty
  | cons m rest ih =>
    obtain ⟨k, v⟩ := m
    have hfirst := (reads (k, v) List.mem_cons_self (.member done (.ofString k) :: stack)).step
    have hdone : ((Spelling.ofString k, Node.written v) :: done).reverse =
        done.reverse ++ [(.ofString k, .written v)] := List.reverse_cons
    rcases rest with - | ⟨next, rest⟩
    · have hsplit : Value.charsMembers [(k, v)] ++ ['\x7d'] =
          (stringText k ++ [':']) ++ (v.chars ++ ['\x7d']) := by
        simp [Value.charsMembers]
      rw [hsplit, Utf8.encode_append, List.foldl_append, foldl_keyAndColon, Utf8.encode_append,
        List.foldl_append, hend, List.foldl_cons, List.foldl_nil,
        hfirst 0x7D (Or.inr (Or.inr rfl))]
      show accept stack (.object ((Spelling.ofString k, Node.written v) :: done).reverse none) = _
      rw [hdone]
      rfl
    · have hrest := ih (fun m hm => reads m (List.mem_cons_of_mem _ hm)) nofun
        ((.ofString k, .written v) :: done)
      have hsplit : Value.charsMembers ((k, v) :: next :: rest) ++ ['\x7d'] =
          (stringText k ++ [':']) ++ (v.chars ++ ([','] ++
            (Value.charsMembers (next :: rest) ++ ['\x7d']))) := by
        simp [Value.charsMembers]
      rw [hsplit, Utf8.encode_append, List.foldl_append, foldl_keyAndColon, Utf8.encode_append,
        Utf8.encode_append, List.foldl_append, hcomma, List.foldl_append, List.foldl_cons,
        List.foldl_nil, hfirst 0x2C (Or.inl rfl)]
      show List.foldl step ⟨stack, .key ((.ofString k, .written v) :: done)⟩ _ = _
      rw [hrest, hdone, List.append_assoc]
      rfl

/-- **The text of a value, anywhere,** is read as the tree that spells it. The induction is on the
value, and `stack` is general, since items and members are read with more that is open. -/
theorem past_chars {v : Value} (whole : v.isWhole) :
    ((Utf8.encode v.chars).foldl step ⟨stack, .value⟩).Past stack (.written v) := by
  -- On the value, for every place where it may stand.
  induction v using Value.induction generalizing stack with
  | null => exact past_accept stack .null
  | bool b =>
    cases b with
    | false => exact past_accept stack (.bool false)
    | true => exact past_accept stack (.bool true)
  | number n =>
    cases n with
    | int i =>
      rw [Value.chars, foldl_integer]
      exact past_numeral stack i
    | float x => cases whole
  | string s =>
    rw [Value.chars, foldl_string]
    exact past_accept stack _
  -- An empty container closes at once; one with parts has been read when its last part has.
  | array items ih =>
    have hitems := Value.isWhole_array.mp whole
    rcases items with - | ⟨v, rest⟩
    · exact past_accept stack (.array [] none)
    · have hread := foldl_items stack (fun v hv stack => ih v hv stack (hitems v hv)) nofun []
      have hopen : (String.utf8EncodeChar '[').foldl step ⟨stack, .value⟩ =
          ⟨.array [] :: stack, .value⟩ := rfl
      rw [Value.chars, Utf8.encode_cons, List.foldl_append, hopen, hread, Node.written,
        Node.writtenItems_eq]
      exact past_accept stack _
  | object members ih =>
    have hmembers := Value.isWhole_object.mp whole
    rcases members with - | ⟨m, rest⟩
    · exact past_accept stack (.object [] none)
    · have hread := foldl_members stack (fun m hm stack => ih m hm stack (hmembers m hm)) nofun []
      have hopen : (String.utf8EncodeChar '\x7b').foldl step ⟨stack, .value⟩ =
          ⟨stack, .key []⟩ := rfl
      rw [Value.chars, Utf8.encode_cons, List.foldl_append, hopen, hread, Node.written,
        Node.writtenMembers_eq]
      exact past_accept stack _

end Reader

/-- **The text of a value** is a document with nothing behind the value. -/
theorem Document.read_chars {v : Value} (whole : v.isWhole) :
    read (Utf8.encode v.chars) = ⟨.written v, false⟩ :=
  (Reader.past_chars [] whole).finish

/-! ### Meaning -/

/-- **An integer that is written is read as itself.** Signed ones that are positive are read as
unsigned, and both are the same integer. -/
theorem Numeral.number_ofInt (i : Integer) : (ofInt i.val).number = .ok (.int i) := by
  obtain ⟨val, hge, hlt⟩ := i
  unfold ofInt number
  rw [if_pos rfl]
  -- A minus, and digits up to 2⁶³; or none, and digits below 2⁶⁴.
  by_cases h : val < 0
  · have hneg : ¬(decide (val < 0) = false ∧ val.natAbs < 0x10000000000000000) := by
      simp [h]
    have hpos : decide (val < 0) = true ∧ 0 < val.natAbs ∧ val.natAbs ≤ 0x8000000000000000 :=
      ⟨decide_eq_true h, by omega, by omega⟩
    rw [dif_neg hneg, dif_pos hpos]
    have hval : -(val.natAbs : Int) = val := by omega
    simp only [hval]
  · have hpos : decide (val < 0) = false ∧ val.natAbs < 0x10000000000000000 :=
      ⟨decide_eq_false h, by omega⟩
    rw [dif_pos hpos]
    have hval : (val.natAbs : Int) = val := by omega
    simp only [hval]

@[simp] theorem Spelling.text_ofString (s : String) : (ofString s).text = .ok s := by
  simp [ofString, text, Utf8.decode?_encode]

namespace Node

theorem valueItems_written {room : Nat} {items : List Value}
    (h : ∀ v ∈ items, (written v).value room = .ok v.ordered) :
    valueItems room (items.map written) = .ok (items.map Value.ordered) := by
  induction items with
  | nil => rfl
  | cons v rest ih =>
    obtain ⟨hv, hrest⟩ := List.forall_mem_cons.mp h
    rw [List.map_cons, valueItems, hv, ih hrest]
    rfl

/-- The members of an object mean what they mean one by one, under the keys that were written. -/
theorem valueMembers_written {room : Nat} {members : Members}
    (h : ∀ m ∈ members, (written m.2).value room = .ok m.2.ordered) :
    valueMembers room (members.map fun m => (.ofString m.1, written m.2)) =
      .ok (members.map fun m => (m.1, m.2.ordered)) := by
  induction members with
  | nil => rfl
  | cons m rest ih =>
    obtain ⟨hm, hrest⟩ := List.forall_mem_cons.mp h
    rw [List.map_cons, valueMembers, Spelling.text_ofString, hm, ih hrest]
    rfl

/-- **What a written value means:** the value itself, in order. The room has to be as much as the
value is deep. -/
theorem value_written {v : Value} {room : Nat} (whole : v.isWhole) (fits : v.depth ≤ room) :
    (written v).value room = .ok v.ordered := by
  -- On the value, since the depth that is left decreases with it.
  induction v using Value.induction generalizing room with
  | null => rfl
  | bool b => rfl
  | number n =>
    cases n with
    | int i =>
      rw [written, value, Numeral.number_ofInt]
      rfl
    | float x => cases whole
  | string s =>
    rw [written, value, Spelling.text_ofString]
    rfl
  -- The parts have one level less, and so has the room.
  | array items ih =>
    cases room with
    | zero => exact absurd fits (Nat.not_succ_le_zero _)
    | succ room =>
      have hitems := Value.isWhole_array.mp whole
      have hdepth := Value.depth_array_le.mp fits
      rw [written, writtenItems_eq, value,
        valueItems_written fun v hv => ih v hv (hitems v hv) (hdepth v hv), Value.ordered_array]
      rfl
  | object members ih =>
    cases room with
    | zero => exact absurd fits (Nat.not_succ_le_zero _)
    | succ room =>
      have hmembers := Value.isWhole_object.mp whole
      have hdepth := Value.depth_object_le.mp fits
      rw [written, writtenMembers_eq, value,
        valueMembers_written fun m hm => ih m hm (hmembers m hm) (hdepth m hm),
        Value.ordered_object]
      rfl

end Node

end Lookout.Json
