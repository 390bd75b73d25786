import Lookout.Agent.World
import Lookout.Proofs.Json.Accepted
import Lookout.Proofs.Json.Members
import Lookout.Proofs.Json.Tree
import Mathlib.Logic.Relation

/-!
# Members in any order

A record does not depend on the order of its members, nor on members that are none of its fields.
Both come from how one member changes the slots (`Fields.Passes`): two members that pass one after
the other also pass the other way round and leave the same (`Fields.Passes.swap`), for a slot is
filled once only; and a member with a foreign name passes wherever it stands and changes nothing.
What has to be right about such a member is that it can be skipped, and every value can.

The members of an object are at hand in its text (`ObjectText`), so they can be rearranged there,
and the reader finds each of them again, however deep the values between them are nested. Every
frame that is read as a message with an object at its root is such a text
(`Envelope.exists_objectText`): the fields that are used could be skipped as well
(`Envelope.whole_fields`), as all other members were.

* `Rearrangement`, `Rearranged` — one change to the members, and any number of them;
* `Fields.fill_perm` — members in another order fill the same slots;
* `Rearranged.record` — a record from rearranged members;
* `Envelope.rearranged_alike` — a session does not tell two such frames apart.
-/

namespace Lookout.Json

/-! ### Rearranging -/

/-- The key of a member is a text, and none of these names. -/
def Member.IsForeign (names : List String) (m : Member) : Prop :=
  ∃ name, m.name = .ok name ∧ name ∉ names

/-- **One change to the members of an object:** they are put in another order, or a member that has
none of these names comes or goes. -/
inductive Rearrangement (names : List String) : List Member → List Member → Prop where
  | permute {members members' : List Member} (h : members.Perm members') :
      Rearrangement names members members'
  | insert {before after : List Member} {m : Member} (foreign : m.IsForeign names) :
      Rearrangement names (before ++ after) (before ++ m :: after)
  | remove {before after : List Member} {m : Member} (foreign : m.IsForeign names) :
      Rearrangement names (before ++ m :: after) (before ++ after)

/-- Any number of such changes. -/
def Rearranged (names : List String) : List Member → List Member → Prop :=
  Relation.ReflTransGen (Rearrangement names)

/-! ### Slots -/

namespace Fields

variable {τ : Type} {p : Place} {fs : Fields τ}

theorem put_cons_of_eq {α β : Type} {f : Field α} {rest : Fields β} {key : String} {n : Node}
    {slots : (cons f rest).Slots} {a : α} (hkey : key = f.name) (hempty : slots.1 = none)
    (ha : f.decode p n = .ok a) :
    (cons f rest).put p key n slots = some (.ok (some a, slots.2)) := by
  rw [put, if_pos hkey, hempty, ha]
  rfl

theorem put_cons_of_ne {α β : Type} {f : Field α} {rest : Fields β} {key : String} {n : Node}
    {slots : (cons f rest).Slots} {filled : rest.Slots} (hkey : key ≠ f.name)
    (hput : rest.put p key n slots.2 = some (.ok filled)) :
    (cons f rest).put p key n slots = some (.ok (slots.1, filled)) := by
  rw [put, if_neg hkey, hput]
  rfl

/-- **Two members fill the same slots in either order.** They cannot share a slot, since the second
would find it filled. -/
theorem put_swap {key key' : String} {n n' : Node} {slots middle slots' : fs.Slots}
    (h : fs.put p key n slots = some (.ok middle))
    (h' : fs.put p key' n' middle = some (.ok slots')) :
    ∃ middle', fs.put p key' n' slots = some (.ok middle') ∧
      fs.put p key n middle' = some (.ok slots') := by
  -- On the fields: two members for one slot cannot both be put, and for two slots the order does
  -- not matter.
  induction fs with
  | nil => cases h
  | cons f rest ih =>
    rcases put_cons_eq_ok h with ⟨hkey, hempty, a, ha, rfl⟩ | ⟨hkey, filled, hput, rfl⟩
    · rcases put_cons_eq_ok h' with ⟨-, hempty', -⟩ | ⟨hkey', filled', hput', rfl⟩
      · cases hempty'
      · exact ⟨_, put_cons_of_ne hkey' hput', put_cons_of_eq hkey hempty ha⟩
    · rcases put_cons_eq_ok h' with ⟨hkey', hempty', a', ha', rfl⟩ | ⟨hkey', filled', hput', rfl⟩
      · exact ⟨_, put_cons_of_eq hkey' hempty' ha', put_cons_of_ne hkey hput⟩
      · -- both belong to fields behind the first one
        obtain ⟨middle', hfirst, hsecond⟩ := ih hput hput'
        exact ⟨_, put_cons_of_ne hkey' hfirst, put_cons_of_ne hkey hsecond⟩

/-- **A member passes:** it fills the slot of its field, or there is none and it is skipped. -/
def Passes (fs : Fields τ) (p : Place) (m : Spelling × Node) (slots slots' : fs.Slots) : Prop :=
  ∃ key, m.1.text = .ok key ∧ (fs.put p key m.2 slots = some (.ok slots') ∨
    key ∉ fs.names ∧ m.2.skip = .ok () ∧ slots' = slots)

/-- **Members are passed one by one:** each `Passes`, being put into its slot or skipped, and the
rest goes on with the slots that it leaves. -/
theorem fill_cons_iff {m : Spelling × Node} {rest : List (Spelling × Node)}
    {slots slots' : fs.Slots} : fs.fill p (m :: rest) slots = .ok slots' ↔
      ∃ middle, fs.Passes p m slots middle ∧ fs.fill p rest middle = .ok slots' := by
  obtain ⟨k, n⟩ := m
  constructor
  · intro h
    obtain ⟨key, middle, hkey, hrest, hput | ⟨hnone, hskip, hsame⟩⟩ := fill_cons_eq_ok h
    · exact ⟨middle, ⟨key, hkey, Or.inl hput⟩, hrest⟩
    · exact ⟨middle, ⟨key, hkey, Or.inr ⟨put_eq_none_iff.mp hnone, hskip, hsame⟩⟩, hrest⟩
  · rintro ⟨middle, ⟨key, hkey, hput | ⟨hforeign, hskip, rfl⟩⟩, hrest⟩
    · rw [fill_cons_of_put hkey hput, hrest]
    · exact (fill_cons_of_skip hkey hforeign hskip).trans hrest

/-- **Two members pass in either order** and leave the same slots: by `put_swap` where both have
one, and otherwise since one that is skipped changes nothing. -/
theorem Passes.swap {m m' : Spelling × Node} {slots middle slots' : fs.Slots}
    (h : fs.Passes p m slots middle) (h' : fs.Passes p m' middle slots') :
    ∃ middle', fs.Passes p m' slots middle' ∧ fs.Passes p m middle' slots' := by
  obtain ⟨key, hkey, hput | ⟨hforeign, hskip, rfl⟩⟩ := h
  · obtain ⟨key', hkey', hput' | ⟨hforeign', hskip', rfl⟩⟩ := h'
    · obtain ⟨middle', hfirst, hsecond⟩ := put_swap hput hput'
      exact ⟨middle', ⟨key', hkey', Or.inl hfirst⟩, ⟨key, hkey, Or.inl hsecond⟩⟩
    · exact ⟨slots, ⟨key', hkey', Or.inr ⟨hforeign', hskip', rfl⟩⟩, ⟨key, hkey, Or.inl hput⟩⟩
  · -- the first is skipped, before the second and behind it
    exact ⟨slots', h', ⟨key, hkey, Or.inr ⟨hforeign, hskip, rfl⟩⟩⟩

/-- **Members in another order fill the same slots.** The induction is on the permutation; its one
step is `Passes.swap`. -/
theorem fill_perm {members members' : List (Spelling × Node)} (h : members.Perm members')
    {slots slots' : fs.Slots} (fills : fs.fill p members slots = .ok slots') :
    fs.fill p members' slots = .ok slots' := by
  -- On the permutation, whose one case with something to show is that of two neighbours.
  induction h generalizing slots with
  | nil => exact fills
  | cons m _ ih =>
    obtain ⟨middle, hpasses, hrest⟩ := fill_cons_iff.mp fills
    exact fill_cons_iff.mpr ⟨middle, hpasses, ih hrest⟩
  | swap m m' rest =>
    obtain ⟨middle, hfirst, hothers⟩ := fill_cons_iff.mp fills
    obtain ⟨middle₂, hsecond, hrest⟩ := fill_cons_iff.mp hothers
    obtain ⟨middle', hsecond', hfirst'⟩ := hfirst.swap hsecond
    exact fill_cons_iff.mpr ⟨middle', hsecond', fill_cons_iff.mpr ⟨middle₂, hfirst', hrest⟩⟩
  | trans _ _ ih ih' => exact ih' (ih fills)

theorem passes_iff_of_foreign {m : Spelling × Node} {name : String} (hname : m.1.text = .ok name)
    (foreign : name ∉ fs.names) (skips : m.2.skip = .ok ()) {slots slots' : fs.Slots} :
    fs.Passes p m slots slots' ↔ slots' = slots := by
  constructor
  · rintro ⟨key, hkey, hput | ⟨-, -, hsame⟩⟩
    · have hsame : key = name := Except.ok.inj (hkey.symm.trans hname)
      rw [put_eq_none_iff.mpr (hsame ▸ foreign)] at hput
      cases hput
    · exact hsame
  · rintro rfl
    exact ⟨name, hname, Or.inr ⟨foreign, skips, rfl⟩⟩

/-- **A member with a foreign name changes nothing,** wherever it stands: it passes if and only if
it leaves the slots as they are (`passes_iff_of_foreign`), and that it can be skipped is part of
`Member`. -/
theorem fill_foreign {before after : List Member} {m : Member} (foreign : m.IsForeign fs.names)
    {slots slots' : fs.Slots} :
    fs.fill p ((before ++ m :: after).map Member.tree) slots = .ok slots' ↔
      fs.fill p ((before ++ after).map Member.tree) slots = .ok slots' := by
  obtain ⟨name, hname, hforeign⟩ := foreign
  rw [Member.name_eq] at hname
  have hpasses : ∀ middle, fs.Passes p m.tree slots middle ↔ middle = slots := fun middle =>
    passes_iff_of_foreign (fromText_eq_ok hname) hforeign m.skip_tree
  -- The order does not matter, so the member may as well be the first.
  have hfirst : ((before ++ m :: after).map Member.tree).Perm
      (m.tree :: (before ++ after).map Member.tree) := List.perm_middle.map Member.tree
  constructor
  · intro h
    obtain ⟨middle, hmiddle, hrest⟩ := fill_cons_iff.mp (fill_perm hfirst h)
    rwa [(hpasses middle).mp hmiddle] at hrest
  · intro h
    exact fill_perm hfirst.symm (fill_cons_iff.mpr ⟨slots, (hpasses slots).mpr rfl, h⟩)

/-- **A record from an object:** the members `fill` the slots, and the object is closed. The slots
are given to `settle` once all members have passed. -/
theorem record_object_iff {name : String} {members : List (Spelling × Node)} {stop : Option Break}
    {a : τ} : record name fs p (.object members stop) = .ok a ↔
      stop = none ∧ ∃ inner slots, p.enter = .ok inner ∧
        fs.fill inner members fs.empty = .ok slots ∧ fs.settle slots = .ok a := by
  constructor
  -- The object has no break, and its members fill the slots.
  · intro h
    obtain ⟨inner, henter, h⟩ := bind_eq_ok h
    obtain ⟨slots, hfill, h⟩ := bind_eq_ok h
    obtain ⟨⟨⟩, hstop, hsettle⟩ := bind_eq_ok h
    have hstop' : stop = none := Fault.check_map_eq_ok_iff.mp (fromText_eq_ok hstop)
    exact ⟨hstop', inner, slots, henter, hfill, hsettle⟩
  · rintro ⟨rfl, inner, slots, henter, hfill, hsettle⟩
    rw [record, henter]
    change fs.fill inner members fs.empty >>= _ = _
    rw [hfill]
    exact hsettle

end Fields

/-! ### Records -/

section

variable {τ : Type} {p : Place} {fs : Fields τ}

/-- One change to the members does not change which slots they fill: an exchange is `fill_perm`, a
foreign member `fill_foreign`. -/
theorem Rearrangement.fill {members members' : List Member}
    (h : Rearrangement fs.names members members') {slots slots' : fs.Slots}
    (fills : fs.fill p (members.map Member.tree) slots = .ok slots') :
    fs.fill p (members'.map Member.tree) slots = .ok slots' := by
  cases h with
  | permute h => exact Fields.fill_perm (h.map Member.tree) fills
  | insert foreign => exact (Fields.fill_foreign foreign).mpr fills
  | remove foreign => exact (Fields.fill_foreign foreign).mp fills

/-- **No number of changes** to the members changes which slots they fill, by `Rearrangement.fill`
for each of them. -/
theorem Rearranged.fill {members members' : List Member}
    (h : Rearranged fs.names members members') {slots slots' : fs.Slots}
    (fills : fs.fill p (members.map Member.tree) slots = .ok slots') :
    fs.fill p (members'.map Member.tree) slots = .ok slots' := by
  induction h with
  | refl => exact fills
  | tail _ change ih => exact change.fill ih

theorem Decoder.decodeDocument_whole {α : Type} (decode : Decoder α) (root : Node) :
    decode.decodeDocument ⟨root, false⟩ = decode ⟨.text, maxDepth⟩ root := by
  rw [decodeDocument]
  cases decode ⟨.text, maxDepth⟩ root <;> rfl

/-- What is made of a value with `map` is made of what the document has. -/
theorem Decoder.decodeDocument_map {α β : Type} (f : α → β) (decode : Decoder α) (d : Document) :
    (decode.map f).decodeDocument d = (decode.decodeDocument d).map f := by
  rw [decodeDocument, decodeDocument, map]
  cases decode ⟨.text, maxDepth⟩ d.root with
  | error e => rfl
  | ok a =>
    show (if d.trailing then _ else _) = Except.map f (if d.trailing then _ else _)
    split <;> rfl

/-- **A record is decoded from rearranged members** as from the members themselves: both objects are
closed, and by `Rearranged.fill` they fill the same slots. -/
theorem Rearranged.record {name : String} {o o' : ObjectText} {a : τ}
    (h : Rearranged fs.names o.members o'.members)
    (decodes : (Fields.record name fs).decodeDocument (.read o.bytes) = .ok a) :
    (Fields.record name fs).decodeDocument (.read o'.bytes) = .ok a := by
  rw [ObjectText.read_bytes, Decoder.decodeDocument_whole] at decodes ⊢
  obtain ⟨-, inner, slots, henter, hfill, hsettle⟩ := Fields.record_object_iff.mp decodes
  exact Fields.record_object_iff.mpr ⟨rfl, inner, slots, henter, h.fill hfill, hsettle⟩

end

/-! ### What is decoded can be skipped -/

namespace Fields

variable {τ : Type} {p : Place} {fs : Fields τ}

/-- What the fields of a record take could be skipped as well. -/
def Whole : {τ : Type} → Fields τ → Prop
  | _, nil => True
  | _, cons f rest => f.decode.Whole ∧ rest.Whole

/-- What is put into a slot could be skipped, since its decoder is `Whole`. -/
theorem Whole.skip_of_put (whole : fs.Whole) {key : String} {n : Node} {slots slots' : fs.Slots}
    (h : fs.put p key n slots = some (.ok slots')) : n.skip = .ok () := by
  induction fs with
  | nil => cases h
  | cons f rest ih =>
    obtain ⟨hfirst, hrest⟩ := whole
    rcases put_cons_eq_ok h with ⟨-, -, a, ha, -⟩ | ⟨-, filled, hput, -⟩
    · exact hfirst p n a ha
    · exact ih hrest hput

/-- All members that fill a record could be skipped, the foreign ones because they were. -/
theorem Whole.skip_of_fill (whole : fs.Whole) {members : List (Spelling × Node)}
    {slots slots' : fs.Slots} (h : fs.fill p members slots = .ok slots') :
    ∀ m ∈ members, m.1.stop = none ∧ m.2.skip = .ok () := by
  induction members generalizing slots with
  | nil => exact nofun
  | cons m rest ih =>
    obtain ⟨middle, ⟨key, hkey, hpasses⟩, hrest⟩ := fill_cons_iff.mp h
    have hskip : m.2.skip = .ok () := by
      rcases hpasses with hput | ⟨-, hskip, -⟩
      · exact whole.skip_of_put hput
      · exact hskip
    exact List.forall_mem_cons.mpr ⟨⟨Spelling.stop_of_text hkey, hskip⟩, ih hrest⟩

/-- **An object from which a record is decoded can be skipped,** if its fields are `Whole`: members
with a slot were decoded, and all others were skipped. -/
theorem Whole.skip_of_record (whole : fs.Whole) {name : String}
    {members : List (Spelling × Node)} {stop : Option Break} {a : τ}
    (h : record name fs p (.object members stop) = .ok a) :
    (Node.object members stop).skip = .ok () := by
  obtain ⟨hstop, inner, slots, -, hfill, -⟩ := record_object_iff.mp h
  exact Node.skip_object_iff.mpr ⟨whole.skip_of_fill hfill, hstop⟩

end Fields

end Lookout.Json

/-! ### Frames -/

namespace Lookout

open Json

/-- A session looks at the message in a frame, and at nothing else of it, so two frames with one
message are one step. -/
theorem World.step_frame_congr {frame frame' : List UInt8}
    (same : Envelope.ofBytes frame' = Envelope.ofBytes frame) (w : World) (conn : ConnId) :
    w.step (.frame conn frame') = w.step (.frame conn frame) := by
  have hdecide (s : Session) :
      s.decideFrame w.services frame' = s.decideFrame w.services frame := by
    rw [Session.decideFrame, Session.decideFrame, same]
  change w.handle conn (·.decideFrame w.services frame') =
    w.handle conn (·.decideFrame w.services frame)
  rw [funext hdecide]

namespace Envelope

theorem whole_fields : fields.Whole :=
  ⟨Decoder.whole_text, Decoder.whole_option Decoder.whole_text,
    Decoder.whole_option Decoder.whole_value, trivial⟩

/-- A message is read as a record of `fields`, and then made of what they have. -/
theorem exists_ofBytes_eq : ∃ f, ∀ frame, ofBytes frame =
    ((Fields.record "Envelope" fields).decodeDocument (.read frame)).map f :=
  ⟨_, fun _ => Decoder.decodeDocument_map _ _ _⟩

/-- **An object that is read as a message** is an `ObjectText`: all its members were used or
skipped, so that none of them has a break in it. -/
theorem exists_objectText {frame : List UInt8} {e : Envelope} {members : List (Spelling × Node)}
    {stop : Option Break} (isObject : (Document.read frame).root = .object members stop)
    (reads : ofBytes frame = .ok e) : ∃ o : ObjectText, o.bytes = frame := by
  obtain ⟨f, hrecord⟩ := exists_ofBytes_eq
  rw [hrecord] at reads
  obtain ⟨a, hdocument, -⟩ := map_eq_ok reads
  obtain ⟨a', hdecode, hwhole⟩ := bind_eq_ok hdocument
  rw [isObject] at hdecode
  -- Its known members are used and its foreign ones skipped, so that all of it could be skipped.
  have hskip : (Document.read frame).root.skip = .ok () := by
    rw [isObject]
    exact whole_fields.skip_of_record hdecode
  have hnothing : (Document.read frame).trailing = false := by
    cases htrailing : (Document.read frame).trailing with
    | false => rfl
    | true =>
      rw [htrailing] at hwhole
      cases hwhole
  exact ObjectText.exists_of_read isObject hskip hnothing

/-- **The order of the members of a frame does not matter, nor do unknown ones.** A frame that is an
object and is read as a message is an `ObjectText`; and whatever order its members are put in and
whatever members of other names are added or left out (`Rearranged`), the object is read as the same
message, and every session in every state does the same at both frames, as a step looks at a frame
through `ofBytes` only. -/
theorem rearranged_alike {frame : List UInt8} {e : Envelope}
    (isObject : ∃ members stop, (Document.read frame).root = .object members stop)
    (reads : ofBytes frame = .ok e) :
    (∃ o : ObjectText, o.bytes = frame) ∧
      ∀ o o' : ObjectText, o.bytes = frame →
        Rearranged ["type", "id", "payload"] o.members o'.members →
          ofBytes o'.bytes = .ok e ∧
            ∀ (w : World) (conn : ConnId),
              w.step (.frame conn o'.bytes) = w.step (.frame conn frame) := by
  obtain ⟨members, stop, hroot⟩ := isObject
  refine ⟨exists_objectText hroot reads, ?_⟩
  rintro o o' rfl hrearranged
  -- The fields do not see the order, nor the members that are foreign to them.
  have hreads : ofBytes o'.bytes = .ok e := by
    obtain ⟨f, hrecord⟩ := exists_ofBytes_eq
    rw [hrecord] at reads ⊢
    obtain ⟨a, hdecode, hsame⟩ := map_eq_ok reads
    have hnames : Rearranged fields.names o.members o'.members := hrearranged
    rw [hnames.record hdecode, ← hsame]
    rfl
  exact ⟨hreads, World.step_frame_congr (hreads.trans reads.symm)⟩

end Envelope

/-- The member `"\u0074ype":"ping"`, whose key is spelled with an escape. -/
def Json.Member.escapedType : Member where
  text :=
    { key := 0x22 :: (Utf8.encode "\\u0074ype".toList ++ [0x22])
      item := { value := 0x22 :: (Utf8.encode "ping".toList ++ [0x22]) } }
  laid :=
    { before := by decide
      key := by
        -- The first letter as an escape, the others as they are.
        let pieces : List (List UInt8) :=
          [[0x5C, 0x75, 0x30, 0x30, 0x37, 0x34], [0x79], [0x70], [0x65]]
        have hpieces : ∀ piece ∈ pieces, IsPiece piece := by
          simp only [pieces, List.forall_mem_cons]
          refine ⟨.unit ?_ ?_ ?_ ?_, .plain ?_ ?_ ?_, .plain ?_ ?_ ?_, .plain ?_ ?_ ?_, nofun⟩
          all_goals decide
        have hkey : IsString (0x22 :: (pieces.flatten ++ [0x22])) := .quoted hpieces
        exact hkey
      between := by decide
      item := ⟨by decide, by decide⟩ }
  isValue := .string (.plain (by decide))

/-- The member `"id":"7"`. -/
def Json.Member.seven : Member where
  text :=
    { key := 0x22 :: (Utf8.encode "id".toList ++ [0x22])
      item := { value := 0x22 :: (Utf8.encode "7".toList ++ [0x22]) } }
  laid := ⟨by decide, .plain (by decide), by decide, by decide, by decide⟩
  isValue := .string (.plain (by decide))

/-- The member `"x": [null]`, which no message has. -/
def Json.Member.unknown : Member where
  text :=
    { key := 0x22 :: (Utf8.encode "x".toList ++ [0x22])
      item := { before := [0x20], value := Utf8.encode "[null]".toList } }
  laid := ⟨by decide, .plain (by decide), by decide, by decide, by decide⟩
  isValue := by
    let items : List ItemText := [{ value := Utf8.encode "null".toList }]
    have hlaid : ∀ i ∈ items, i.Laid := List.forall_mem_singleton.mpr ⟨by decide, by decide⟩
    have hvalues : ∀ i ∈ items, IsValue i.value := List.forall_mem_singleton.mpr .null
    have harray : IsValue (0x5B :: ([0x2C].intercalate (items.map ItemText.bytes) ++ [0x5D])) :=
      .array (List.cons_ne_nil _ _) hlaid hvalues
    exact harray

/-- The identifier comes first, then a member that no message has, and the key of the type is
spelled with an escape. -/
theorem Envelope.rearranged_alike_escapedType :
    ofBytes (Utf8.encode "\x7b\"id\":\"7\",\"x\": [null],\"\\u0074ype\":\"ping\"\x7d".toList) =
      .ok ⟨"ping", some "7", none⟩ := by
  let o : ObjectText := { members := [.escapedType, .seven] }
  let o' : ObjectText := { members := [.seven, .unknown, .escapedType] }
  -- The two members change places, and an unknown one comes between them.
  have hforeign : Member.unknown.IsForeign ["type", "id", "payload"] :=
    ⟨"x", by rfl, by decide⟩
  have hswapped : Rearrangement ["type", "id", "payload"] o.members ([.seven] ++ [.escapedType]) :=
    .permute (.swap _ _ _)
  have hrearranged : Rearranged ["type", "id", "payload"] o.members o'.members :=
    .tail (.single hswapped) (.insert hforeign)
  have hobject : ∃ members stop, (Document.read o.bytes).root = .object members stop :=
    ⟨_, _, congrArg Document.root o.read_bytes⟩
  have hreads : ofBytes o.bytes = .ok ⟨"ping", some "7", none⟩ := by rfl
  obtain ⟨-, halike⟩ := rearranged_alike hobject hreads
  exact (halike o o' rfl hrearranged).1

end Lookout
