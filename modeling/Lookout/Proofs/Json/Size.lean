import Lookout.Json.Reader
import Lookout.Proofs.Json.Lookup

/-!
# Trees are no larger than their texts

An item of an array takes at least one byte, and the bracket before it another one, so no array in
the tree of a text has more items than the text has bytes. The reader goes byte by byte, and what
carries the argument is said of its state: an array that waits for an item has fewer items than
bytes were read, one that has just got an item may have as many (`Reader.Narrow`).

* `Node.Narrow` — no array in a tree has more items than a number, nor has what stands for a field;
* `Reader.Narrow`, `Reader.Narrow.step` — so it is while a text is read;
* `Document.narrow_read` — the tree of a text.
-/

namespace Lookout.Json

/-- **No array in a tree has more items** than a number says. -/
inductive Node.Narrow (most : Nat) : Node → Prop where
  | null : Narrow most .null
  | bool (b : Bool) : Narrow most (.bool b)
  | numeral (n : Numeral) : Narrow most (.numeral n)
  | number (n : Number) : Narrow most (.number n)
  | string (s : Spelling) : Narrow most (.string s)
  | array {items : List Node} (stop : Option Break) (few : items.length ≤ most)
    (narrow : ∀ n ∈ items, Narrow most n) : Narrow most (.array items stop)
  | object {members : List (Spelling × Node)} (stop : Option Break)
    (narrow : ∀ m ∈ members, Narrow most m.2) : Narrow most (.object members stop)
  | broken (b : Break) : Narrow most (.broken b)

/-- A greater bound holds of a tree as well, by `Node.induction`. -/
theorem Node.Narrow.mono {most more : Nat} {n : Node} (h : n.Narrow most) (le : most ≤ more) :
    n.Narrow more := by
  induction h with
  | null => exact .null
  | bool b => exact .bool b
  | numeral n => exact .numeral n
  | number n => exact .number n
  | string s => exact .string s
  | array stop few _ ih => exact .array stop (Nat.le_trans few le) ih
  | object stop _ ih => exact .object stop ih
  | broken b => exact .broken b

namespace Node.Narrow

variable {most : Nat} {n found : Node}

/-- What `Node.count` counts is bounded, as it is the length of an array. -/
theorem count_le (h : n.Narrow most) : n.count ≤ most := by
  cases h with
  | array stop few narrow => exact few
  | null | bool | numeral | number | string | object | broken => exact Nat.zero_le most

theorem of_field? {names : List String} {name : String} (h : n.Narrow most)
    (hfound : n.field? names name = some found) : found.Narrow most := by
  cases h with
  | @array items stop few narrow =>
    obtain ⟨before, after, hzip, -⟩ := List.lookup_eq_some_iff.mp hfound
    have hmem : (name, found) ∈ names.zip items := hzip ▸ List.mem_append_cons_self
    exact narrow found (List.of_mem_zip hmem).2
  | object stop narrow =>
    obtain ⟨m, hm, rfl⟩ := Option.map_eq_some_iff.mp hfound
    exact narrow m (List.mem_of_find?_eq_some hm)
  | null | bool | numeral | number | string | broken => cases hfound

end Node.Narrow

/-! ### While a text is read -/

/-- An open container. An array is about to get an item. -/
def Open.Narrow (most : Nat) : Open → Prop
  | .array items => items.length < most ∧ ∀ n ∈ items, n.Narrow most
  | .member members _ => ∀ m ∈ members, m.2.Narrow most

/-- What the reader has in hand is bounded: an array that is open holds only elements that are. -/
def Mode.Narrow (most : Nat) : Mode → Prop
  | .value | .numeral _ | .string _ => True
  | .word _ n | .complete n _ => n.Narrow most
  | .afterItem items => items.length ≤ most ∧ ∀ n ∈ items, n.Narrow most
  | .key members | .inKey members _ | .colon members _ | .afterMember members =>
    ∀ m ∈ members, m.2.Narrow most
  | .settled d => d.root.Narrow most

namespace Reader

/-- **No array has more items than bytes were read,** be it open or closed. -/
structure Narrow (most : Nat) (r : Reader) : Prop where
  stack : ∀ o ∈ r.stack, o.Narrow most
  mode : r.mode.Narrow most

variable {most more : Nat} {stack : List Open} {n : Node} {items : List Node}
  {members : List (Spelling × Node)}

/-- A greater bound holds of a reader as well. -/
theorem Narrow.mono {r : Reader} (h : r.Narrow most) (le : most ≤ more) : r.Narrow more := by
  obtain ⟨hstack, hmode⟩ := h
  constructor
  · intro o ho
    have hopen := hstack o ho
    -- Items are counted and bounded in themselves, members only bounded.
    cases o with
    | array items => exact ⟨Nat.lt_of_lt_of_le hopen.1 le, fun n hn => (hopen.2 n hn).mono le⟩
    | member members key => exact fun m hm => (hopen m hm).mono le
  · obtain ⟨stack, mode⟩ := r
    cases mode with
    | value | numeral | string => trivial
    | word | complete | settled => exact Node.Narrow.mono hmode le
    | afterItem items => exact ⟨Nat.le_trans hmode.1 le, fun n hn => (hmode.2 n hn).mono le⟩
    | key | inKey | colon | afterMember => exact fun m hm => (hmode m hm).mono le

/-- An array whose items were read the latest first is as long as they are many. -/
theorem narrow_array (stop : Option Break) (few : items.length ≤ most)
    (hitems : ∀ n ∈ items, n.Narrow most) : (Node.array items.reverse stop).Narrow most :=
  .array stop (by rwa [List.length_reverse]) fun n hn => hitems n (List.mem_reverse.mp hn)

/-- An object whose members were read the latest first; how many they are does not matter. -/
theorem narrow_object (stop : Option Break) (hmembers : ∀ m ∈ members, m.2.Narrow most) :
    (Node.object members.reverse stop).Narrow most :=
  .object stop fun m hm => hmembers m (List.mem_reverse.mp hm)

theorem narrow_object_cons (key : Spelling) (hn : n.Narrow most)
    (hmembers : ∀ m ∈ members, m.2.Narrow most) :
    (Node.object ((key, n) :: members).reverse none).Narrow most :=
  narrow_object none (List.forall_mem_cons.mpr ⟨hn, hmembers⟩)

/-- To close what is open does not widen anything: each array that is open has room for one more. -/
theorem narrow_close (hstack : ∀ o ∈ stack, o.Narrow most) (hn : n.Narrow most) :
    (Open.close stack n).Narrow most := by
  -- On the open containers, from the innermost outwards.
  induction stack generalizing n with
  | nil => exact hn
  | cons o rest ih =>
    obtain ⟨hopen, hrest⟩ := List.forall_mem_cons.mp hstack
    cases o with
    | array items =>
      exact ih hrest (narrow_array none hopen.1 (List.forall_mem_cons.mpr ⟨hn, hopen.2⟩))
    | member members key => exact ih hrest (narrow_object_cons key hn hopen)

/-- What is settled is bounded, and nothing is open any more, so no byte can widen it. -/
theorem narrow_settle (hstack : ∀ o ∈ stack, o.Narrow most) (hn : n.Narrow most) :
    (settle stack n).Narrow most :=
  ⟨nofun, narrow_close hstack hn⟩

/-- A value is put where it belongs; in an array it is one of the items for which there was room. -/
theorem narrow_accept (hstack : ∀ o ∈ stack, o.Narrow most) (hn : n.Narrow most) :
    (accept stack n).Narrow most := by
  cases stack with
  | nil => exact ⟨nofun, hn⟩
  | cons o rest =>
    obtain ⟨hopen, hrest⟩ := List.forall_mem_cons.mp hstack
    cases o with
    | array items => exact ⟨hrest, hopen.1, List.forall_mem_cons.mpr ⟨hn, hopen.2⟩⟩
    | member members key => exact ⟨hrest, List.forall_mem_cons.mpr ⟨hn, hopen⟩⟩

/-! ### One byte -/

variable {b : UInt8}

theorem narrow_stepAfterItem (hstack : ∀ o ∈ stack, o.Narrow most) (few : items.length < most)
    (hitems : ∀ n ∈ items, n.Narrow most) : (stepAfterItem stack items b).Narrow most := by
  unfold stepAfterItem
  split
  · exact ⟨hstack, (Nat.le_of_lt few), hitems⟩
  · split
    · exact ⟨List.forall_mem_cons.mpr ⟨⟨few, hitems⟩, hstack⟩, trivial⟩
    · split
      · exact narrow_accept hstack (narrow_array none (Nat.le_of_lt few) hitems)
      · exact narrow_settle hstack (narrow_array _ (Nat.le_of_lt few) hitems)

/-- After a member: a blank, a comma, the end of the object, or a break. None of them makes an array
longer. -/
theorem narrow_stepAfterMember (hstack : ∀ o ∈ stack, o.Narrow most)
    (hmembers : ∀ m ∈ members, m.2.Narrow most) :
    (stepAfterMember stack members b).Narrow most := by
  unfold stepAfterMember
  split
  · exact ⟨hstack, hmembers⟩
  · split
    · exact ⟨hstack, hmembers⟩
    · split
      · exact narrow_accept hstack (narrow_object none hmembers)
      · exact narrow_settle hstack (narrow_object _ hmembers)

/-- Where a key may come: a blank, a quote, the end of an empty object, or a break. -/
theorem narrow_stepKey (hstack : ∀ o ∈ stack, o.Narrow most)
    (hmembers : ∀ m ∈ members, m.2.Narrow most) : (stepKey stack members b).Narrow most := by
  unfold stepKey
  split
  · exact ⟨hstack, hmembers⟩
  · split
    · exact ⟨hstack, hmembers⟩
    · split
      · split
        · exact narrow_accept hstack (.object none fun _ hm => absurd hm List.not_mem_nil)
        · exact narrow_settle hstack (narrow_object _ hmembers)
      · exact narrow_settle hstack (narrow_object _ hmembers)

theorem narrow_stepColon (hstack : ∀ o ∈ stack, o.Narrow most)
    (hmembers : ∀ m ∈ members, m.2.Narrow most) (key : Spelling) :
    (stepColon stack members key b).Narrow most := by
  unfold stepColon
  split
  · exact ⟨hstack, hmembers⟩
  · split
    · exact ⟨List.forall_mem_cons.mpr ⟨hmembers, hstack⟩, trivial⟩
    · exact narrow_settle hstack (narrow_object_cons key (.broken _) hmembers)

/-- An opening bracket is a byte, so there may be an item behind it. -/
theorem narrow_startValue (hstack : ∀ o ∈ stack, o.Narrow most) (pos : 0 < most) :
    (startValue stack b).Narrow most := by
  have hbroken : (settle stack (.broken Fault.valueExpected.break)).Narrow most :=
    narrow_settle hstack (.broken _)
  unfold startValue
  split
  · exact ⟨hstack, trivial⟩
  split
  · exact ⟨hstack, trivial⟩
  split
  · exact ⟨hstack, fun _ hm => absurd hm List.not_mem_nil⟩
  split
  -- An array that has just been opened is empty.
  · have hopen : (Open.array []).Narrow most := ⟨pos, fun _ hn => absurd hn List.not_mem_nil⟩
    exact ⟨List.forall_mem_cons.mpr ⟨hopen, hstack⟩, trivial⟩
  split
  · exact ⟨hstack, .null⟩
  split
  · exact ⟨hstack, .bool true⟩
  split
  · exact ⟨hstack, .bool false⟩
  split
  · exact ⟨hstack, trivial⟩
  split
  · -- a closing bracket ends an array that is empty, or has a comma too many
    split
    · obtain ⟨-, hrest⟩ := List.forall_mem_cons.mp hstack
      exact narrow_accept hrest
        (.array none (Nat.zero_le most) fun _ hn => absurd hn List.not_mem_nil)
    · obtain ⟨hopen, hrest⟩ := List.forall_mem_cons.mp hstack
      exact narrow_settle hrest (narrow_array _ (Nat.le_of_lt hopen.1) hopen.2)
    · exact hbroken
  split
  · exact ⟨hstack, trivial⟩
  · exact hbroken

/-- A byte behind a value that was over before it, in each place of the value. -/
theorem Narrow.stepAfter {r : Reader} (h : r.Narrow most) (b : UInt8) :
    (r.stepAfter b).Narrow (most + 1) := by
  have hmode := h.mode
  have hnext := h.mono (Nat.le_succ most)
  unfold Reader.stepAfter
  split
  -- The one element more is why the bound grows by one with each byte.
  · next items mode =>
    rw [mode] at hmode
    exact narrow_stepAfterItem hnext.stack (Nat.lt_succ_of_le hmode.1)
      fun n hn => (hmode.2 n hn).mono (Nat.le_succ most)
  · next members mode =>
    have hmembers := hnext.mode
    rw [mode] at hmembers
    exact narrow_stepAfterMember hnext.stack hmembers
  · next root trailing mode =>
    have hroot := hnext.mode
    rw [mode] at hroot
    exact ⟨nofun, hroot⟩
  · exact hnext

/-- **One byte more** makes room for one item more. One case for each place that the reader can be
in. -/
theorem Narrow.step {r : Reader} (h : r.Narrow most) (b : UInt8) :
    (r.step b).Narrow (most + 1) := by
  have hnext := h.mono (Nat.le_succ most)
  obtain ⟨stack, mode⟩ := r
  have hstack := hnext.stack
  have hmode := hnext.mode
  cases mode with
  | value => exact narrow_startValue hstack (Nat.succ_pos most)
  -- A word that is complete is a value, and else its next byte is looked at.
  | word rest n =>
    cases rest with
    | nil => exact (narrow_accept h.stack h.mode).stepAfter b
    | cons expected rest =>
      unfold Reader.step
      dsimp only
      split
      · exact narrow_settle hstack (.broken _)
      · split
        · exact narrow_accept hstack hmode
        · exact ⟨hstack, hmode⟩
  -- A number ends with the byte behind it, so that this byte is looked at once more.
  | numeral r =>
    unfold Reader.step
    dsimp only
    split
    · exact ⟨hstack, trivial⟩
    · exact (narrow_accept h.stack (.numeral _)).stepAfter b
    · exact narrow_settle hstack (.broken _)
  | string r =>
    unfold Reader.step
    dsimp only
    split
    · exact ⟨hstack, trivial⟩
    -- The closing quote, and whether the string has a break.
    · split
      · exact narrow_settle hstack (.string _)
      · exact narrow_accept hstack (.string _)
  | afterItem items => exact h.stepAfter b
  | key members => exact narrow_stepKey hstack hmode
  | inKey members r =>
    unfold Reader.step
    dsimp only
    split
    · exact ⟨hstack, hmode⟩
    · next spelling _ =>
      split
      · exact narrow_settle hstack (narrow_object_cons spelling .null hmode)
      · exact ⟨hstack, hmode⟩
  | colon members key => exact narrow_stepColon hstack hmode key
  | afterMember members => exact h.stepAfter b
  | settled d => exact ⟨nofun, hmode⟩
  | complete root trailing => exact h.stepAfter b

/-- **Each byte widens a reader by at most one,** so that no array can have more elements than the
text has bytes. -/
theorem Narrow.foldl {r : Reader} (h : r.Narrow most) (bytes : List UInt8) :
    (bytes.foldl Reader.step r).Narrow (most + bytes.length) := by
  induction bytes generalizing r most with
  | nil => exact h
  | cons b rest ih =>
    have hrest := ih (h.step b)
    rwa [Nat.add_assoc, Nat.add_comm 1, ← List.length_cons] at hrest

/-! ### The end of a text -/

theorem narrow_finishValue (hstack : ∀ o ∈ stack, o.Narrow most) :
    (finishValue stack).root.Narrow most := by
  unfold finishValue
  split
  · obtain ⟨-, hrest⟩ := List.forall_mem_cons.mp hstack
    exact narrow_close hrest
      (.array _ (Nat.zero_le most) fun _ hn => absurd hn List.not_mem_nil)
  · obtain ⟨hopen, hrest⟩ := List.forall_mem_cons.mp hstack
    exact narrow_close hrest (narrow_array _ (Nat.le_of_lt hopen.1) hopen.2)
  · exact narrow_close hstack (.broken _)

/-- What is open at the end of the text is bounded as the reader is, with a break in it. -/
theorem Narrow.finishAfter {r : Reader} (h : r.Narrow most) : r.finishAfter.root.Narrow most := by
  have hmode := h.mode
  unfold Reader.finishAfter
  split
  · next items mode =>
    rw [mode] at hmode
    exact narrow_close h.stack (narrow_array _ hmode.1 hmode.2)
  · next members mode =>
    rw [mode] at hmode
    exact narrow_close h.stack (narrow_object _ hmode)
  · next root trailing mode =>
    rw [mode] at hmode
    exact hmode
  · exact narrow_finishValue h.stack

/-- What a reader has at the end of the text is bounded as the reader is. -/
theorem Narrow.finish {r : Reader} (h : r.Narrow most) : r.finish.root.Narrow most := by
  obtain ⟨stack, mode⟩ := r
  have hstack := h.stack
  have hmode := h.mode
  -- What the text broke off in is closed as it is, with a break where something was to come.
  cases mode with
  | value => exact narrow_finishValue hstack
  | word => exact narrow_close hstack (.broken _)
  | string r => exact narrow_close hstack (.string _)
  | numeral r =>
    unfold Reader.finish
    dsimp only
    split
    · exact (narrow_accept hstack (.numeral _)).finishAfter
    · exact narrow_close hstack (.broken _)
  | key members =>
    cases members with
    | nil => exact narrow_close hstack (.object _ hmode)
    | cons m rest => exact narrow_close hstack (narrow_object _ hmode)
  | inKey members r => exact narrow_close hstack (narrow_object_cons _ .null hmode)
  | colon members key => exact narrow_close hstack (narrow_object_cons key (.broken _) hmode)
  | settled d => exact hmode
  | afterItem | afterMember | complete => exact h.finishAfter

end Reader

/-- **No array in the tree of a text has more items than the text has bytes:** the reader starts
with none, and `Narrow.foldl` counts the bytes. -/
theorem Document.narrow_read (bytes : List UInt8) : (read bytes).root.Narrow bytes.length := by
  have hstart : ({} : Reader).Narrow 0 := ⟨nofun, trivial⟩
  have hall := (hstart.foldl bytes).finish
  rwa [Nat.zero_add] at hall

end Lookout.Json
