import Lookout.Json.Record

/-!
# What a record is decoded from

If a record is decoded then each step of it went well. The lemmas of this module take such a
decoding apart: a member was put into the slot of its field or skipped, and an item was decoded as
the field in its place.

* `Decoder.option_eq_none_iff` — only null is decoded to nothing;
* `Fields.put_cons_eq_ok` — a member and the first field;
* `Fields.fill_cons_eq_ok` — the first member;
* `Fields.takeItems_cons_eq_ok` — the first item;
* `Fields.record_eq_ok` — the whole;
* `Fields.yield_of_record` — where the values of a record come from.
-/

namespace Lookout.Json

/-- What is made of a result with `map` comes of a result. -/
theorem map_eq_ok {ε α β : Type} {f : α → β} {x : Except ε α} {b : β} (h : x.map f = .ok b) :
    ∃ a, x = .ok a ∧ f a = b := by
  cases x with
  | error e => cases h
  | ok a => exact ⟨a, rfl, Except.ok.inj h⟩

/-- A computation that goes on after another gives a result only if both do; the form in which
decoders are taken apart. -/
theorem bind_eq_ok {ε α β : Type} {f : α → Except ε β} {x : Except ε α} {b : β}
    (h : (x >>= f) = .ok b) : ∃ a, x = .ok a ∧ f a = .ok b := by
  cases x with
  | error e => cases h
  | ok a => exact ⟨a, rfl, h⟩

/-- The place of a fault, which `fromText` adds, does not make a result. -/
theorem fromText_eq_ok {α : Type} {x : Except Fault α} {a : α} (h : fromText x = .ok a) :
    x = .ok a := by
  cases x with
  | error e => cases h
  | ok b => rw [Except.ok.inj h]

/-- `Decoder.option` gives nothing if and only if there is null. -/
theorem Decoder.option_eq_none_iff {α : Type} {decode : Decoder α} {p : Place} {n : Node}
    {a : Option α} (h : Decoder.option decode p n = .ok a) : a = none ↔ n = .null := by
  unfold Decoder.option at h
  split at h
  · cases h
    exact iff_of_true rfl rfl
  · next hne =>
    obtain ⟨b, -, rfl⟩ := map_eq_ok h
    exact iff_of_false nofun hne

/-- A field takes its value from the tree that was found under its name, or as an absent one. -/
def Field.Takes {α : Type} (f : Field α) (p : Place) : Option Node → α → Prop
  | some n, a => f.decode p n = .ok a
  | none, a => f.absent = some a

namespace Fields

variable {α β τ : Type} {p : Place}

/-- A member is put into the slot of the first field, if the key names it, or into another. -/
theorem put_cons_eq_ok {f : Field α} {rest : Fields β} {key : String} {n : Node}
    {slots slots' : (cons f rest).Slots}
    (h : (cons f rest).put p key n slots = some (.ok slots')) :
    (key = f.name ∧ slots.1 = none ∧ ∃ a, f.decode p n = .ok a ∧ slots' = (some a, slots.2)) ∨
    (key ≠ f.name ∧
      ∃ filled, rest.put p key n slots.2 = some (.ok filled) ∧ slots' = (slots.1, filled)) := by
  rw [put] at h
  split at h
  -- The slot must be empty, as else the field came twice.
  · next hkey =>
    left
    split at h
    · cases h
    · next hempty =>
      obtain ⟨a, ha, rfl⟩ := map_eq_ok (Option.some.inj h)
      exact ⟨hkey, hempty, a, ha, rfl⟩
  · next hkey =>
    right
    obtain ⟨x, hput, hx⟩ := Option.map_eq_some_iff.mp h
    obtain ⟨filled, rfl, rfl⟩ := map_eq_ok hx
    exact ⟨hkey, filled, hput, rfl⟩

/-- A member is foreign if no field has its name; the first field and all others are asked in
turn. -/
theorem put_cons_eq_none {f : Field α} {rest : Fields β} {key : String} {n : Node}
    {slots : (cons f rest).Slots} (h : (cons f rest).put p key n slots = none) :
    key ≠ f.name ∧ rest.put p key n slots.2 = none := by
  rw [put] at h
  split at h
  · split at h <;> cases h
  · next hkey => exact ⟨hkey, Option.map_eq_none_iff.mp h⟩

/-- A member is put into its slot or skipped, and the rest goes on with what the slots are then. -/
theorem fill_cons_eq_ok {fs : Fields τ} {k : Spelling} {n : Node} {rest : List (Spelling × Node)}
    {slots slots' : fs.Slots} (h : fs.fill p ((k, n) :: rest) slots = .ok slots') :
    ∃ key filled, k.text = .ok key ∧ fs.fill p rest filled = .ok slots' ∧
      (fs.put p key n slots = some (.ok filled) ∨
        fs.put p key n slots = none ∧ n.skip = .ok () ∧ filled = slots) := by
  rw [fill] at h
  obtain ⟨key, hkey, h⟩ := bind_eq_ok h
  -- `fill` goes on in the same way after either.
  dsimp only at h
  split at h
  · next x hput =>
    obtain ⟨filled, rfl, h⟩ := bind_eq_ok h
    exact ⟨key, filled, fromText_eq_ok hkey, h, Or.inl hput⟩
  · next hput =>
    obtain ⟨filled, hfilled, h⟩ := bind_eq_ok h
    obtain ⟨_, hskip, rfl⟩ := map_eq_ok hfilled
    exact ⟨key, slots, fromText_eq_ok hkey, h, Or.inr ⟨hput, fromText_eq_ok hskip, rfl⟩⟩

/-- The first item is that of the first field, and the others are left to the other fields. -/
theorem takeItems_cons_eq_ok {tooFew : Nat → DecodeError} {stop : Option Break} {f : Field α}
    {rest : Fields β} {index : Nat} {n : Node} {ns left : List Node} {ab : α × β}
    (h : takeItems tooFew p stop (cons f rest) index (n :: ns) = .ok (ab, left)) :
    f.decode p n = .ok ab.1 ∧ takeItems tooFew p stop rest (index + 1) ns = .ok (ab.2, left) := by
  rw [takeItems] at h
  obtain ⟨a, ha, h⟩ := bind_eq_ok h
  obtain ⟨⟨b, ns'⟩, hb, h⟩ := bind_eq_ok h
  cases h
  exact ⟨ha, hb⟩

/-- Without items, the first field has the value of an `absent` one, if it may be absent. -/
theorem takeItems_nil_eq_ok {tooFew : Nat → DecodeError} {stop : Option Break} {f : Field α}
    {rest : Fields β} {index : Nat} {left : List Node} {ab : α × β}
    (h : takeItems tooFew p stop (cons f rest) index [] = .ok (ab, left)) :
    f.absent = some ab.1 ∧ takeItems tooFew p stop rest (index + 1) [] = .ok (ab.2, left) := by
  rw [takeItems] at h
  obtain ⟨-, -, h⟩ := bind_eq_ok h
  split at h
  · cases h
  · next a ha =>
    obtain ⟨⟨b, ns'⟩, hb, h⟩ := bind_eq_ok h
    cases h
    exact ⟨ha, hb⟩

/-- The value of the first field is that of its slot, or that of an absent one. -/
theorem settle_cons_eq_ok {f : Field α} {rest : Fields β} {slots : (cons f rest).Slots} {ab : α × β}
    (h : (cons f rest).settle slots = .ok ab) :
    slots.1.or f.absent = some ab.1 ∧ rest.settle slots.2 = .ok ab.2 := by
  rw [settle] at h
  split at h
  · cases h
  · next a ha =>
    obtain ⟨b, hb, rfl⟩ := map_eq_ok h
    exact ⟨ha, hb⟩

/-- **A record is decoded from the members of an object or from the items of an array.** In both
cases one container is entered first, which is where the room gets smaller. -/
theorem record_eq_ok {name : String} {fs : Fields τ} {n : Node} {a : τ}
    (h : record name fs p n = .ok a) :
    (∃ members stop inner slots, n = .object members stop ∧ p.enter = .ok inner ∧
      fs.fill inner members fs.empty = .ok slots ∧ fs.settle slots = .ok a) ∨
    (∃ items stop inner tooFew left, n = .array items stop ∧ p.enter = .ok inner ∧
      takeItems tooFew inner stop fs 0 items = .ok (a, left)) := by
  unfold record at h
  split at h
  · next members stop =>
    left
    obtain ⟨inner, henter, h⟩ := bind_eq_ok h
    obtain ⟨slots, hfill, h⟩ := bind_eq_ok h
    obtain ⟨-, -, hsettle⟩ := bind_eq_ok h
    exact ⟨members, stop, inner, slots, rfl, henter, hfill, hsettle⟩
  · next items stop =>
    right
    obtain ⟨inner, henter, h⟩ := bind_eq_ok h
    dsimp only at h
    obtain ⟨⟨b, left⟩, htake, h⟩ := bind_eq_ok h
    refine ⟨items, stop, inner, _, left, rfl, henter, htake.trans ?_⟩
    -- What is left of the items only decides whether there is an error.
    split at h
    · obtain ⟨-, -, h⟩ := bind_eq_ok h
      cases h
      rfl
    · split at h
      · cases h
        rfl
      · cases h
  · unfold Decoder.wrongType at h
    split at h <;> cases h

/-! ### Where values come from -/

/-- Each field takes its value from something. -/
def Yield : {τ : Type} → (fs : Fields τ) → Place → τ → Prop
  | _, nil, _, _ => True
  | _, cons f rest, p, (a, b) => (∃ found, f.Takes p found a) ∧ rest.Yield p b

/-- Each slot that is filled was decoded as its field. -/
def Filled : {τ : Type} → (fs : Fields τ) → Place → fs.Slots → Prop
  | _, nil, _, _ => True
  | _, cons f rest, p, slots =>
    (∀ a, slots.1 = some a → ∃ n, f.decode p n = .ok a) ∧ rest.Filled p slots.2

/-- At first nothing is filled, and `Filled` asks nothing of an empty slot. -/
theorem filled_empty (fs : Fields τ) : fs.Filled p fs.empty := by
  induction fs with
  | nil => trivial
  | cons f rest ih => exact ⟨nofun, ih⟩

/-- What is put into a slot was decoded from a tree, by the decoder of its field. -/
theorem Filled.put {fs : Fields τ} {key : String} {n : Node} {slots slots' : fs.Slots}
    (filled : fs.Filled p slots) (h : fs.put p key n slots = some (.ok slots')) :
    fs.Filled p slots' := by
  induction fs with
  | nil => cases h
  | cons f rest ih =>
    rcases put_cons_eq_ok h with ⟨-, -, a, ha, rfl⟩ | ⟨-, slots', hput, rfl⟩
    · refine ⟨fun b hb => ?_, filled.2⟩
      cases hb
      exact ⟨n, ha⟩
    · exact ⟨filled.1, ih filled.2 hput⟩

/-- All that the members fill was decoded from a tree; the induction is on the members. -/
theorem Filled.fill {fs : Fields τ} {members : List (Spelling × Node)} {slots slots' : fs.Slots}
    (filled : fs.Filled p slots) (h : fs.fill p members slots = .ok slots') :
    fs.Filled p slots' := by
  induction members generalizing slots with
  | nil =>
    cases h
    exact filled
  | cons member rest ih =>
    obtain ⟨key, next, -, hfill, hput | ⟨-, -, rfl⟩⟩ := fill_cons_eq_ok h
    · exact ih (filled.put hput) hfill
    · exact ih filled hfill

theorem Filled.settle {fs : Fields τ} {slots : fs.Slots} {a : τ} (filled : fs.Filled p slots)
    (h : fs.settle slots = .ok a) : fs.Yield p a := by
  induction fs with
  | nil => trivial
  | cons f rest ih =>
    obtain ⟨hfirst, hrest⟩ := settle_cons_eq_ok h
    refine ⟨?_, ih filled.2 hrest⟩
    rcases Option.or_eq_some_iff.mp hfirst with hslot | ⟨-, habsent⟩
    · obtain ⟨n, hn⟩ := filled.1 _ hslot
      exact ⟨some n, hn⟩
    · exact ⟨none, habsent⟩

/-- What elements that are taken in order give was decoded as well, or is that of an absent
field. -/
theorem yield_of_takeItems {tooFew : Nat → DecodeError} {stop : Option Break} {fs : Fields τ}
    {index : Nat} {items left : List Node} {a : τ}
    (h : takeItems tooFew p stop fs index items = .ok (a, left)) : fs.Yield p a := by
  induction fs generalizing index items with
  | nil => trivial
  | cons f rest ih =>
    cases items with
    | nil =>
      obtain ⟨habsent, hrest⟩ := takeItems_nil_eq_ok h
      exact ⟨⟨none, habsent⟩, ih hrest⟩
    | cons n items =>
      obtain ⟨hfirst, hrest⟩ := takeItems_cons_eq_ok h
      exact ⟨⟨some n, hfirst⟩, ih hrest⟩

/-- **Every value of a record was decoded as its field** or is that of an absent one, with room for
one container less. -/
theorem yield_of_record {name : String} {fs : Fields τ} {n : Node} {a : τ}
    (h : record name fs p n = .ok a) : ∃ inner, p.enter = .ok inner ∧ fs.Yield inner a := by
  rcases record_eq_ok h with ⟨members, stop, inner, slots, -, henter, hfill, hsettle⟩ |
    ⟨items, stop, inner, tooFew, left, -, henter, htake⟩
  · exact ⟨inner, henter, ((filled_empty fs).fill hfill).settle hsettle⟩
  · exact ⟨inner, henter, yield_of_takeItems htake⟩

end Fields

end Lookout.Json
