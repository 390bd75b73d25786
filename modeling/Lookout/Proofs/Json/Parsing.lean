import Lookout.Proofs.Json.Grammar
import Lookout.Proofs.Json.Record
import Lookout.Proofs.Json.Text

/-!
# Every value is read

Any text of a value is read as one tree, wherever it stands and however it is laid out, and the tree
can be skipped (`IsValue.reads`). The induction is over how the text is put together. A value leaves
the reader in a state of which only this matters, that blanks do not change it and a comma or a
closing bracket finds the value where it belongs (`Reader.Done`): a number is still under way then,
and all other values are over.

Numbers and strings are followed by their phases alone. Which digits a number has and which bytes a
string spells is not asked, so both are read without a bound on either. A container can be skipped
if and only if everything in it can, and it was read to its end (`Node.skip_array_iff`,
`Node.skip_object_iff`).

* `treeOf` — the tree of a text, and `Reads` — that it is the same everywhere;
* `Reader.Done` — a value was read, with blanks behind it or none;
* `NumeralReader.Leads` — how a part of a number moves its reader on;
* `IsValue.reads` — every value is read;
* `ObjectText.read_bytes` — an object has the trees of its members, in their order.
-/

namespace Lookout.Json

/-! ### Trees that can be skipped -/

theorem Fault.check_map_eq_ok_iff {stop : Option Break} {f : Break → Fault} :
    check (stop.map f) = .ok () ↔ stop = none := by
  cases stop with
  | none => exact iff_of_true rfl rfl
  | some b => exact iff_of_false nofun nofun

/-- A string can be skipped if it has no break; what it spells does not matter. -/
theorem Spelling.skip_eq_ok_iff {s : Spelling} : s.skip = .ok () ↔ s.stop = none := by
  unfold skip
  split
  · next f hstop => exact iff_of_false nofun (by rw [hstop]; nofun)
  · next hstop => exact iff_of_true rfl hstop

namespace Node

/-- Elements can be skipped if each of them can, one after the other. -/
theorem skipItems_eq_ok_iff {items : List Node} :
    skipItems items = .ok () ↔ ∀ n ∈ items, n.skip = .ok () := by
  induction items with
  | nil => exact iff_of_true rfl nofun
  | cons n rest ih =>
    rw [List.forall_mem_cons, ← ih, skipItems]
    constructor
    · intro h
      obtain ⟨⟨⟩, hn, hrest⟩ := bind_eq_ok h
      exact ⟨hn, hrest⟩
    · rintro ⟨hn, hrest⟩
      rw [hn]
      exact hrest

/-- Members can be skipped if each key has no break and each value can be skipped. -/
theorem skipMembers_eq_ok_iff {members : List (Spelling × Node)} :
    skipMembers members = .ok () ↔ ∀ m ∈ members, m.1.stop = none ∧ m.2.skip = .ok () := by
  induction members with
  | nil => exact iff_of_true rfl nofun
  | cons m rest ih =>
    obtain ⟨k, n⟩ := m
    rw [List.forall_mem_cons, ← ih, skipMembers, ← Spelling.skip_eq_ok_iff]
    constructor
    · intro h
      -- The key is skipped first, then the value, then the rest.
      obtain ⟨⟨⟩, hk, h⟩ := bind_eq_ok h
      obtain ⟨⟨⟩, hn, hrest⟩ := bind_eq_ok h
      exact ⟨⟨hk, hn⟩, hrest⟩
    · rintro ⟨⟨hk, hn⟩, hrest⟩
      rw [hk]
      change (n.skip >>= fun _ => skipMembers rest) = _
      rw [hn]
      exact hrest

/-- **An array can be skipped** if all its items can and it is closed. -/
theorem skip_array_iff {items : List Node} {stop : Option Break} :
    (array items stop).skip = .ok () ↔ (∀ n ∈ items, n.skip = .ok ()) ∧ stop = none := by
  rw [skip, ← skipItems_eq_ok_iff, ← Fault.check_map_eq_ok_iff]
  constructor
  · intro h
    obtain ⟨⟨⟩, hitems, hstop⟩ := bind_eq_ok h
    exact ⟨hitems, hstop⟩
  · rintro ⟨hitems, hstop⟩
    rw [hitems]
    exact hstop

/-- **An object can be skipped** if all its keys are closed and all its values can be, and it is
closed itself. -/
theorem skip_object_iff {members : List (Spelling × Node)} {stop : Option Break} :
    (object members stop).skip = .ok () ↔
      (∀ m ∈ members, m.1.stop = none ∧ m.2.skip = .ok ()) ∧ stop = none := by
  rw [skip, ← skipMembers_eq_ok_iff, ← Fault.check_map_eq_ok_iff]
  constructor
  · intro h
    obtain ⟨⟨⟩, hmembers, hstop⟩ := bind_eq_ok h
    exact ⟨hmembers, hstop⟩
  · rintro ⟨hmembers, hstop⟩
    rw [hmembers]
    exact hstop

end Node

/-- The tree of a text that stands alone. -/
def treeOf (text : List UInt8) : Node := (Document.read text).root

/-! ### What comes behind a value -/

namespace Reader

/-- **A value was read, and blanks may follow:** they leave it where it belongs. -/
structure Done (r : Reader) (stack : List Open) (n : Node) : Prop extends Past r stack n where
  blank : ∀ b, isBlank b = true → r.step b = accept stack n

variable (stack : List Open) {n : Node}

/-- Blanks behind a value leave it where it is, in each place that it may stand in. -/
theorem stepAfter_blank (n : Node) {b : UInt8} (h : isBlank b = true) :
    stepAfter (accept stack n) b = accept stack n := by
  rcases stack with - | ⟨_ | _, stack⟩
  · show stepComplete n false b = _
    rw [stepComplete, h]
    rfl
  · exact if_pos h
  · exact if_pos h

/-- After a value has been accepted the next byte is one behind it: `stepAfter`. -/
theorem step_accept (n : Node) (b : UInt8) :
    (accept stack n).step b = stepAfter (accept stack n) b := by
  rcases stack with - | ⟨_ | _, stack⟩ <;> rfl

theorem done_accept (n : Node) : (accept stack n).Done stack n where
  toPast := past_accept stack n
  blank b hb := by rw [step_accept, stepAfter_blank stack n hb]

variable {stack} in
theorem Done.blanks {r : Reader} (done : r.Done stack n) {bytes : List UInt8}
    (h : Blanks bytes) : (bytes.foldl step r).Done stack n := by
  induction bytes generalizing r with
  | nil => exact done
  | cons b rest ih =>
    obtain ⟨hb, hrest⟩ := List.forall_mem_cons.mp h
    rw [List.foldl_cons, done.blank b hb]
    exact ih (done_accept stack n) hrest

/-- Where one blank is passed over (`stays`), any number of them is. -/
theorem foldl_blanks {r : Reader} (stays : ∀ b, isBlank b = true → r.step b = r)
    {bytes : List UInt8} (h : Blanks bytes) : bytes.foldl step r = r := by
  induction bytes with
  | nil => rfl
  | cons b rest ih =>
    obtain ⟨hb, hrest⟩ := List.forall_mem_cons.mp h
    rw [List.foldl_cons, stays b hb, ih hrest]

theorem foldl_blanks_value {bytes : List UInt8} (h : Blanks bytes) :
    bytes.foldl step ⟨stack, .value⟩ = ⟨stack, .value⟩ :=
  foldl_blanks (fun _ hb => by exact if_pos hb) h

theorem foldl_blanks_key (done : List (Spelling × Node)) {bytes : List UInt8} (h : Blanks bytes) :
    bytes.foldl step ⟨stack, .key done⟩ = ⟨stack, .key done⟩ :=
  foldl_blanks (fun _ hb => by exact if_pos hb) h

theorem foldl_blanks_colon (done : List (Spelling × Node)) (key : Spelling) {bytes : List UInt8}
    (h : Blanks bytes) : bytes.foldl step ⟨stack, .colon done key⟩ = ⟨stack, .colon done key⟩ :=
  foldl_blanks (fun _ hb => by exact if_pos hb) h

end Reader

/-- **A text is read as a value,** whatever is open around it, and can be skipped. -/
structure Reads (text : List UInt8) : Prop where
  done : ∀ stack, (text.foldl Reader.step ⟨stack, .value⟩).Done stack (treeOf text)
  skip : (treeOf text).skip = .ok ()

/-- **A text is read if it comes to a value that is done** in every place where a value may stand.
That the tree is the same in all of them is seen in the outermost one. -/
theorem Reads.of_done {text : List UInt8} {n : Node} (skip : n.skip = .ok ())
    (h : ∀ stack, (text.foldl Reader.step ⟨stack, .value⟩).Done stack n) : Reads text := by
  have htree : treeOf text = n := congrArg Document.root (h []).finish
  exact ⟨htree ▸ h, htree ▸ skip⟩

/-- The last byte of most values tells that they are over, so the reader has accepted them. -/
theorem Reads.of_accept {text : List UInt8} {n : Node} (skip : n.skip = .ok ())
    (h : ∀ stack, text.foldl Reader.step ⟨stack, .value⟩ = Reader.accept stack n) : Reads text := by
  refine .of_done skip fun stack => ?_
  rw [h stack]
  exact Reader.done_accept stack n

theorem treeOf_of_accept {text : List UInt8} {n : Node}
    (h : text.foldl Reader.step ⟨[], .value⟩ = Reader.accept [] n) : treeOf text = n := by
  rw [treeOf, Document.read, h]
  rfl

/-! ### Numbers -/

/-- The phase of a number after a digit. -/
def NumeralPhase.afterDigit : NumeralPhase → NumeralPhase
  | .sign | .whole => .whole
  | .zero => .zero
  | .point | .fraction => .fraction
  | .mark | .markSign | .exponent => .exponent

/-- A number in this phase may be over. -/
def NumeralPhase.MayEnd (phase : NumeralPhase) : Prop :=
  phase = .zero ∨ phase = .whole ∨ phase = .fraction ∨ phase = .exponent

/-- A digit is written by its value: it is that number behind `0`. -/
theorem exists_of_isDigit {b : UInt8} (h : IsDigit b) : ∃ d < 10, b = UInt8.ofNat (d + 48) := by
  obtain ⟨hge, hle⟩ := h
  rw [UInt8.le_iff_toNat_le] at hge hle
  have hge' : 48 ≤ b.toNat := hge
  have hle' : b.toNat ≤ 57 := hle
  refine ⟨b.toNat - 48, by omega, ?_⟩
  rw [Nat.sub_add_cancel hge', UInt8.ofNat_toNat]

theorem digit?_of_isDigit {b : UInt8} (h : IsDigit b) : ∃ d, digit? b = some d := ⟨_, if_pos h⟩

namespace NumeralReader

/-- **These bytes move a number on** from one phase to another. -/
def Leads (bytes : List UInt8) (phase phase' : NumeralPhase) : Prop :=
  ∀ r : NumeralReader, r.phase = phase → ∃ r' : NumeralReader, r'.phase = phase' ∧
    ∀ stack, bytes.foldl Reader.step ⟨stack, .numeral r⟩ = ⟨stack, .numeral r'⟩

variable {phase phase' phase'' : NumeralPhase} {bytes bytes' : List UInt8} {b : UInt8}

theorem leads_nil (phase : NumeralPhase) : Leads [] phase phase := fun r h => ⟨r, h, fun _ => rfl⟩

/-- `Leads` goes on: bytes that lead from one phase to the next, and further bytes from there. -/
theorem Leads.append (h : Leads bytes phase phase') (h' : Leads bytes' phase' phase'') :
    Leads (bytes ++ bytes') phase phase'' := by
  intro r hr
  obtain ⟨r', hr', hfold⟩ := h r hr
  obtain ⟨r'', hr'', hfold'⟩ := h' r' hr'
  refine ⟨r'', hr'', fun stack => ?_⟩
  rw [List.foldl_append, hfold stack, hfold' stack]

theorem leads_byte (h : ∀ r : NumeralReader, r.phase = phase →
    ∃ r' : NumeralReader, r.step b = .more r' ∧ r'.phase = phase') : Leads [b] phase phase' := by
  intro r hr
  obtain ⟨r', hstep, hr'⟩ := h r hr
  refine ⟨r', hr', fun stack => ?_⟩
  simp only [List.foldl_cons, List.foldl_nil, Reader.step, hstep]

/-- A digit of the whole or the fraction leads to the phase that `digit` is given. -/
theorem phase_digit (r : NumeralReader) (d : Nat) (phase : NumeralPhase) :
    (r.digit d phase).phase = phase := by
  unfold digit
  split <;> rfl

/-- A digit is taken in all phases in which zeros in front do not matter. -/
theorem leads_digit (sign : phase ≠ .sign) (zero : phase ≠ .zero) (h : IsDigit b) :
    Leads [b] phase phase.afterDigit := by
  obtain ⟨d, hd⟩ := digit?_of_isDigit h
  refine leads_byte fun r hr => ?_
  cases phase with
  | sign => exact absurd rfl sign
  | zero => exact absurd rfl zero
  -- A digit of the number itself.
  | whole | point | fraction =>
    refine ⟨r.digit d _, ?_, phase_digit r d _⟩
    simp only [step, hr, hd]
    rfl
  -- A digit of the exponent.
  | mark | markSign | exponent =>
    refine ⟨{ r with exponent := r.exponent * 10 + d, phase := .exponent }, ?_, rfl⟩
    simp only [step, hr, hd]

/-- Many digits stay in the phase of the first, if a digit does not change it (`stays`). -/
theorem leads_digits (sign : phase ≠ .sign) (zero : phase ≠ .zero)
    (stays : phase.afterDigit = phase) (h : ∀ b ∈ bytes, IsDigit b) :
    Leads bytes phase phase := by
  induction bytes with
  | nil => exact leads_nil phase
  | cons b rest ih =>
    obtain ⟨hb, hrest⟩ := List.forall_mem_cons.mp h
    have hfirst : Leads [b] phase phase := by
      have hdigit := leads_digit sign zero hb
      rwa [stays] at hdigit
    exact hfirst.append (ih hrest)

theorem leads_point (h : phase = .zero ∨ phase = .whole) : Leads [0x2E] phase .point := by
  refine leads_byte fun r hr => ⟨{ r with full := false, phase := .point }, ?_, rfl⟩
  have hdigit : digit? 0x2E = none := rfl
  rcases h with rfl | rfl <;> simp only [step, hr, hdigit] <;> rfl

/-- A mark, `e` or `E`, comes after the whole or the fraction. -/
theorem leads_mark (h : phase = .zero ∨ phase = .whole ∨ phase = .fraction)
    (hb : b = 0x65 ∨ b = 0x45) : Leads [b] phase .mark := by
  refine leads_byte fun r hr => ⟨{ r with phase := .mark }, ?_, rfl⟩
  have hdigit : digit? b = none := by rcases hb with rfl | rfl <;> rfl
  have hpoint : b ≠ 0x2E := by rcases hb with rfl | rfl <;> decide
  rcases h with rfl | rfl | rfl <;> simp only [step, hr, hdigit, if_neg hpoint, if_pos hb]

theorem leads_markSign (hb : b = 0x2B ∨ b = 0x2D) : Leads [b] .mark .markSign := by
  refine leads_byte fun r hr => ?_
  rcases hb with rfl | rfl
  · refine ⟨{ r with phase := .markSign }, ?_, rfl⟩
    have hdigit : digit? 0x2B = none := rfl
    simp only [step, hr, hdigit]
    rfl
  · refine ⟨{ r with down := true, phase := .markSign }, ?_, rfl⟩
    have hdigit : digit? 0x2D = none := rfl
    simp only [step, hr, hdigit]
    rfl

theorem step_eq_ended {r : NumeralReader} (h : r.phase.MayEnd)
    (hb : isBlank b = true ∨ b = 0x2C ∨ b = 0x5D ∨ b = 0x7D) : r.step b = .ended := by
  have hmem : b ∈ [0x20, 0x0A, 0x09, 0x0D, 0x2C, 0x5D, 0x7D] := by
    simpa [isBlank, or_assoc] using hb
  have hother : ∀ b ∈ [0x20, 0x0A, 0x09, 0x0D, 0x2C, 0x5D, 0x7D],
      digit? b = none ∧ b ≠ 0x2E ∧ ¬(b = 0x65 ∨ b = 0x45) := by simp [digit?]
  obtain ⟨hdigit, hpoint, hmark⟩ := hother b hmem
  rcases h with h | h | h | h <;> simp only [step, h, hdigit, if_neg hpoint, if_neg hmark]

theorem isComplete_iff {r : NumeralReader} : r.isComplete = true ↔ r.phase.MayEnd :=
  decide_eq_true_iff

end NumeralReader

section

open NumeralReader

variable {phase : NumeralPhase}

/-- The first digit may change the phase, and the others leave it where it then is. -/
theorem Digits.leads {digits : List UInt8} (h : Digits digits) (sign : phase ≠ .sign)
    (zero : phase ≠ .zero) : Leads digits phase phase.afterDigit := by
  rcases digits with - | ⟨b, rest⟩
  · exact absurd rfl h.ne_nil
  · obtain ⟨hb, hrest⟩ := List.forall_mem_cons.mp h.digit
    have hothers : Leads rest phase.afterDigit phase.afterDigit := by
      cases phase with
      | sign => exact absurd rfl sign
      | zero => exact absurd rfl zero
      | whole | point | fraction | mark | markSign | exponent =>
        exact leads_digits nofun nofun rfl hrest
    exact (leads_digit sign zero hb).append hothers

/-- The digits before the point, from where the first one is to come. -/
theorem IsWhole.leads {whole : List UInt8} (h : IsWhole whole) (negative : Bool)
    (start : List Open → Reader) (first : ∀ d < 10, ∀ stack,
      (start stack).step (UInt8.ofNat (d + 48)) = ⟨stack, .numeral (.whole negative d)⟩) :
    ∃ r : NumeralReader, (r.phase = .zero ∨ r.phase = .whole) ∧
      ∀ stack, whole.foldl Reader.step (start stack) = ⟨stack, .numeral r⟩ := by
  cases h with
  | zero => exact ⟨.whole negative 0, Or.inl rfl, first 0 (by decide)⟩
  | @digits b rest digit ne_zero digits =>
    obtain ⟨d, hd, rfl⟩ := exists_of_isDigit digit
    have hne : d ≠ 0 := by
      rintro rfl
      exact ne_zero rfl
    -- A first digit that is not zero may have others behind it.
    have hphase : (NumeralReader.whole negative d).phase = .whole := if_neg hne
    have hrest : Leads rest .whole .whole := leads_digits nofun nofun rfl digits
    obtain ⟨r, hr, hfold⟩ := hrest _ hphase
    refine ⟨r, Or.inr hr, fun stack => ?_⟩
    rw [List.foldl_cons, first d hd, hfold stack]

theorem IsInteger.leads {front : List UInt8} (h : IsInteger front) :
    ∃ r : NumeralReader, (r.phase = .zero ∨ r.phase = .whole) ∧
      ∀ stack, front.foldl Reader.step ⟨stack, .value⟩ = ⟨stack, .numeral r⟩ := by
  obtain ⟨rfl | rfl, hwhole⟩ := h
  · refine hwhole.leads false (fun stack => ⟨stack, .value⟩) fun d hd stack => ?_
    interval_cases d <;> rfl
  · refine hwhole.leads true (fun stack => ⟨stack, .numeral { negative := true, phase := .sign }⟩)
      fun d hd stack => ?_
    interval_cases d <;> rfl

/-- The fraction leads to a phase in which the number may end or have an exponent. -/
theorem IsFraction.leads {fraction : List UInt8} (h : IsFraction fraction)
    (hphase : phase = .zero ∨ phase = .whole) :
    ∃ phase', (phase' = .zero ∨ phase' = .whole ∨ phase' = .fraction) ∧
      Leads fraction phase phase' := by
  cases h with
  | absent => exact ⟨phase, by tauto, leads_nil phase⟩
  | @point digits h =>
    have hdigits : Leads digits .point .fraction := h.leads nofun nofun
    exact ⟨.fraction, Or.inr (Or.inr rfl), (leads_point hphase).append hdigits⟩

/-- The exponent leads to a phase in which the number may end. -/
theorem IsExponent.leads {exponent : List UInt8} (h : IsExponent exponent)
    (hphase : phase = .zero ∨ phase = .whole ∨ phase = .fraction) :
    ∃ phase' : NumeralPhase, phase'.MayEnd ∧ Leads exponent phase phase' := by
  cases h with
  | absent => exact ⟨phase, by unfold NumeralPhase.MayEnd; tauto, leads_nil phase⟩
  | @marked mark sign digits hmark hsign hdigits =>
    have hletter : Leads [mark] phase .mark := leads_mark hphase hmark
    have hrest : Leads (sign ++ digits) .mark .exponent := by
      rcases hsign with rfl | rfl | rfl
      · exact hdigits.leads nofun nofun
      · exact (leads_markSign (Or.inl rfl)).append (hdigits.leads nofun nofun)
      · exact (leads_markSign (Or.inr rfl)).append (hdigits.leads nofun nofun)
    exact ⟨.exponent, Or.inr (Or.inr (Or.inr rfl)), hletter.append hrest⟩

end

theorem Reader.done_numeral {r : NumeralReader} (h : r.phase.MayEnd) (stack : List Open) :
    Done ⟨stack, .numeral r⟩ stack (.numeral r.numeral) where
  step b hb := by
    simp only [step, NumeralReader.step_eq_ended h (Or.inr hb)]
  blank b hb := by
    simp only [step, NumeralReader.step_eq_ended h (Or.inl hb)]
    exact stepAfter_blank stack _ hb
  finish := by
    simp only [finish, NumeralReader.isComplete_iff.mpr h, if_true]

/-- **A number is read** in the order of its parts, and the reader is in a phase in which it may
end. -/
theorem IsNumber.exists_numeral {text : List UInt8} (h : IsNumber text) :
    ∃ r : NumeralReader, r.phase.MayEnd ∧
      ∀ stack, text.foldl Reader.step ⟨stack, .value⟩ = ⟨stack, .numeral r⟩ := by
  obtain ⟨⟨hfront, hfraction⟩, hexponent⟩ := h
  obtain ⟨r, hr, hfirst⟩ := hfront.leads
  obtain ⟨phase, hphase, hpoint⟩ := hfraction.leads hr
  obtain ⟨phase', hend, hmark⟩ := hexponent.leads hphase
  obtain ⟨r', hr', hrest⟩ := (hpoint.append hmark) r rfl
  refine ⟨r', hr' ▸ hend, fun stack => ?_⟩
  rw [List.append_assoc, List.foldl_append, hfirst stack, hrest stack]

theorem IsNumber.reads {text : List UInt8} (h : IsNumber text) : Reads text := by
  obtain ⟨r, hend, hread⟩ := h.exists_numeral
  refine .of_done (n := .numeral r.numeral) rfl fun stack => ?_
  rw [hread stack]
  exact Reader.done_numeral hend stack

/-! ### Strings -/

theorem exists_of_isHexDigit {b : UInt8} (h : IsHexDigit b) : ∃ d, hexDigit? b = some d := by
  unfold hexDigit?
  split_ifs with digit upper lower
  · exact ⟨_, rfl⟩
  · exact ⟨_, rfl⟩
  · exact ⟨_, rfl⟩
  · rcases h with h | h | h
    · exact absurd h digit
    · exact absurd h upper
    · exact absurd h lower

namespace StringReader

theorem phase_unit (r : StringReader) (u : Nat) : (r.unit u).phase = .plain := by
  unfold unit
  dsimp only
  split
  · split_ifs <;> rfl
  · split_ifs <;> rfl

/-- A digit of a numbered escape that is not the last one: it is counted, and its value is added. -/
theorem more?_digit {r : StringReader} {left value d : Nat} {b : UInt8}
    (hr : r.phase = .hex left (some value)) (digit : hexDigit? b = some d) (more : 1 < left) :
    more? r b = some { r with phase := .hex (left - 1) (some (value * 16 + d)) } := by
  simp only [more?, step, hr, digit, if_pos more]
  rfl

theorem more?_lastDigit {r : StringReader} {value d : Nat} {b : UInt8}
    (hr : r.phase = .hex 1 (some value)) (digit : hexDigit? b = some d) :
    more? r b = some (r.unit (value * 16 + d)) := by
  simp only [more?, step, hr, digit]
  rfl

section

variable {r : StringReader} (hr : r.phase = .plain)

include hr

theorem foldlM_byte {b : UInt8} (quote : b ≠ 0x22) (backslash : b ≠ 0x5C) (control : ¬b < 0x20) :
    [b].foldlM more? r = some (r.unpaired.push [b]) := by
  simp only [List.foldlM_cons, more?, step, hr, if_neg quote, if_neg backslash, if_neg control]
  rfl

/-- An escape of one letter pushes the byte that it stands for. -/
theorem foldlM_letter {b e : UInt8} (letter : simpleEscape? b = some e) :
    [0x5C, b].foldlM more? r = some (r.unpaired.push [e]) := by
  -- `u` is not one of the letters: it begins a unit.
  have hne : b ≠ 0x75 := by
    rintro rfl
    cases letter
  have hbackslash : more? r 0x5C = some { r with phase := .escape } := by
    simp only [more?, step, hr]
    rfl
  have hletter : more? { r with phase := .escape } b =
      some ((unpaired { r with phase := .escape }).push [e]) := by
    simp only [more?, step, if_neg hne, letter]
    rfl
  have hphase : (unpaired { r with phase := .escape }).push [e] = r.unpaired.push [e] := by
    unfold unpaired
    split_ifs <;> rfl
  rw [List.foldlM_cons, hbackslash, Option.bind_eq_bind, Option.bind_some, List.foldlM_cons,
    hletter, hphase]
  rfl

/-- An escape of four digits makes one code unit of them. -/
theorem foldlM_unit {a b c d : UInt8} {w x y z : Nat} (ha : hexDigit? a = some w)
    (hb : hexDigit? b = some x) (hc : hexDigit? c = some y) (hd : hexDigit? d = some z) :
    [0x5C, 0x75, a, b, c, d].foldlM more? r =
      some (r.unit ((((0 * 16 + w) * 16 + x) * 16 + y) * 16 + z)) := by
  -- The backslash and `u`, after which four digits are to come.
  have hstart : [0x5C, 0x75].foldlM more? r = some { r with phase := .hex 4 (some 0) } := by
    simp only [List.foldlM_cons, List.foldlM_nil, more?, step, hr]
    rfl
  -- What the unit is added to does not depend on the phase.
  have hphase : ∀ phase u, unit { r with phase } u = r.unit u := by
    intro phase u
    unfold unit
    dsimp only
    split <;> split_ifs <;> rfl
  show ([0x5C, 0x75] ++ [a, b, c, d]).foldlM more? r = _
  rw [List.foldlM_append, hstart]
  simp only [List.foldlM_cons, Option.bind_eq_bind, Option.bind_some]
  rw [more?_digit rfl ha (by decide), Option.bind_some, more?_digit rfl hb (by decide),
    Option.bind_some, more?_digit rfl hc (by decide), Option.bind_some, more?_lastDigit rfl hd,
    hphase]
  rfl

/-- **A piece of a string** leaves the reader where the next one may come. -/
theorem exists_foldlM_piece {piece : List UInt8} (h : IsPiece piece) :
    ∃ r', piece.foldlM more? r = some r' ∧ r'.phase = .plain := by
  -- A piece is one byte, an escape of one letter, or an escape of four digits.
  cases h with
  | plain quote backslash control => exact ⟨_, foldlM_byte hr quote backslash control, rfl⟩
  | @escape b letter =>
    have hescapes : ∀ b ∈ [0x22, 0x5C, 0x2F, 0x62, 0x66, 0x6E, 0x72, 0x74],
        (simpleEscape? b).isSome := by simp [simpleEscape?]
    obtain ⟨e, he⟩ := Option.isSome_iff_exists.mp (hescapes b letter)
    exact ⟨_, foldlM_letter hr he, rfl⟩
  | unit ha hb hc hd =>
    obtain ⟨w, hw⟩ := exists_of_isHexDigit ha
    obtain ⟨x, hx⟩ := exists_of_isHexDigit hb
    obtain ⟨y, hy⟩ := exists_of_isHexDigit hc
    obtain ⟨z, hz⟩ := exists_of_isHexDigit hd
    exact ⟨_, foldlM_unit hr hw hx hy hz, phase_unit _ _⟩

end

/-- What stands between the quotes: the pieces one after the other, each from the phase `plain` to
it. -/
theorem exists_foldlM_pieces {pieces : List (List UInt8)} (h : ∀ piece ∈ pieces, IsPiece piece)
    (r : StringReader) (hr : r.phase = .plain) :
    ∃ r', pieces.flatten.foldlM more? r = some r' ∧ r'.phase = .plain := by
  induction pieces generalizing r with
  | nil => exact ⟨r, rfl, hr⟩
  | cons piece rest ih =>
    obtain ⟨hpiece, hrest⟩ := List.forall_mem_cons.mp h
    obtain ⟨r₁, hfirst, hr₁⟩ := exists_foldlM_piece hr hpiece
    obtain ⟨r', hothers, hr'⟩ := ih hrest r₁ hr₁
    refine ⟨r', ?_, hr'⟩
    rw [List.flatten_cons, List.foldlM_append, hfirst]
    exact hothers

end StringReader

/-- **A string is read between its quotes,** as a value and as a key. -/
theorem Reader.foldl_quoted {r : StringReader} {body : List UInt8}
    (hfold : body.foldlM StringReader.more? {} = some r) (hr : r.phase = .plain)
    (stack : List Open) :
    (0x22 :: (body ++ [0x22])).foldl step ⟨stack, .value⟩ =
        accept stack (.string (r.unpaired.spelling none)) ∧
    ∀ done, (0x22 :: (body ++ [0x22])).foldl step ⟨stack, .key done⟩ =
        ⟨stack, .colon done (r.unpaired.spelling none)⟩ := by
  have hquote : r.step 0x22 = .inr (r.unpaired.spelling none) := by
    simp only [StringReader.step, hr]
    rfl
  -- In a value and in a key alike the bytes are those of the string.
  have hbetween : ∀ (start : Reader) (into : StringReader → Reader), start.step 0x22 = into {} →
      (∀ r b r', r.step b = .inl r' → (into r).step b = into r') →
      (0x22 :: (body ++ [0x22])).foldl step start = (into r).step 0x22 := by
    intro start into hopen goes
    rw [List.foldl_cons, List.foldl_append, hopen, foldl_more hfold into goes]
    rfl
  constructor
  · rw [hbetween ⟨stack, .value⟩ (fun r => ⟨stack, .string r⟩) rfl
      fun _ _ _ h => step_string stack h]
    simp only [step, hquote]
    rfl
  · intro done
    rw [hbetween ⟨stack, .key done⟩ (fun r => ⟨stack, .inKey done r⟩) rfl
      fun _ _ _ h => step_inKey stack done h]
    simp only [step, hquote]
    rfl

/-- The spelling of a key. What is no string has none; the empty one stands for it. -/
def spellingOf (key : List UInt8) : Spelling :=
  match treeOf key with
  | .string s => s
  | _ => ⟨[], none, none⟩

/-- A string is closed, as a value and as a key. -/
theorem IsString.spells {text : List UInt8} (h : IsString text) :
    (spellingOf text).stop = none ∧
    (∀ stack, text.foldl Reader.step ⟨stack, .value⟩ =
      Reader.accept stack (.string (spellingOf text))) ∧
    ∀ stack done, text.foldl Reader.step ⟨stack, .key done⟩ =
      ⟨stack, .colon done (spellingOf text)⟩ := by
  cases h with
  | @quoted pieces h =>
    obtain ⟨r, hfold, hr⟩ := StringReader.exists_foldlM_pieces h {} rfl
    have hread := Reader.foldl_quoted hfold hr
    have htree : treeOf (0x22 :: (pieces.flatten ++ [0x22])) =
        .string (r.unpaired.spelling none) :=
      treeOf_of_accept (hread []).1
    have hspelling : spellingOf (0x22 :: (pieces.flatten ++ [0x22])) =
        r.unpaired.spelling none := by
      rw [spellingOf, htree]
    rw [hspelling]
    exact ⟨rfl, fun stack => (hread stack).1, fun stack => (hread stack).2⟩

theorem IsString.reads {text : List UInt8} (h : IsString text) : Reads text := by
  obtain ⟨hstop, hvalue, -⟩ := h.spells
  exact .of_accept (n := .string (spellingOf text)) (Spelling.skip_eq_ok_iff.mpr hstop) hvalue

/-! ### Arrays and objects -/

theorem ItemText.done {i : ItemText} (laid : i.Laid) (reads : Reads i.value) (stack : List Open) :
    (i.bytes.foldl Reader.step ⟨stack, .value⟩).Done stack (treeOf i.value) := by
  rw [bytes, List.foldl_append, List.foldl_append, Reader.foldl_blanks_value stack laid.before]
  exact (reads.done stack).blanks laid.after

/-- What a member spells: its key, and the tree of its value. -/
def MemberText.tree (m : MemberText) : Spelling × Node :=
  (spellingOf m.key, treeOf m.item.value)

theorem MemberText.done {m : MemberText} (laid : m.Laid) (reads : Reads m.item.value)
    (stack : List Open) (before : List (Spelling × Node)) :
    (m.bytes.foldl Reader.step ⟨stack, .key before⟩).Done
      (.member before m.tree.1 :: stack) m.tree.2 := by
  obtain ⟨-, -, hkey⟩ := laid.key.spells
  have hcolon : Reader.step ⟨stack, .colon before m.tree.1⟩ 0x3A =
      ⟨.member before m.tree.1 :: stack, .value⟩ := rfl
  rw [bytes, List.foldl_append, List.foldl_append, List.foldl_append, List.foldl_cons,
    Reader.foldl_blanks_key stack before laid.before, hkey stack before,
    Reader.foldl_blanks_colon stack before _ laid.between]
  exact m.item.done laid.item reads (.member before m.tree.1 :: stack)

theorem MemberText.skip_tree {m : MemberText} (laid : m.Laid) (reads : Reads m.item.value) :
    m.tree.1.stop = none ∧ m.tree.2.skip = .ok () := by
  obtain ⟨hstop, -, -⟩ := laid.key.spells
  exact ⟨hstop, reads.skip⟩

namespace Reader

variable (stack : List Open)

/-- The items of an array, up to its end. The induction is on the items, with those `before` them
general. -/
theorem foldl_itemTexts {items : List ItemText} (laid : ∀ i ∈ items, i.Laid)
    (reads : ∀ i ∈ items, Reads i.value) (nonempty : items ≠ []) (before : List Node) :
    ([0x2C].intercalate (items.map ItemText.bytes) ++ [0x5D]).foldl step
        ⟨.array before :: stack, .value⟩ =
      accept stack (.array (before.reverse ++ items.map (treeOf ·.value)) none) := by
  -- On the elements: the first one ends with a comma, the last one with the bracket.
  induction items generalizing before with
  | nil => exact absurd rfl nonempty
  | cons i rest ih =>
    obtain ⟨hi, hlaid⟩ := List.forall_mem_cons.mp laid
    obtain ⟨hreads, hothers⟩ := List.forall_mem_cons.mp reads
    have hfirst := (i.done hi hreads (.array before :: stack)).step
    have hbefore : (treeOf i.value :: before).reverse = before.reverse ++ [treeOf i.value] :=
      List.reverse_cons
    rcases rest with - | ⟨next, rest⟩
    · rw [List.map_singleton, List.intercalate_singleton, List.foldl_append, List.foldl_cons,
        List.foldl_nil, hfirst 0x5D (Or.inr (Or.inl rfl))]
      show accept stack (.array (treeOf i.value :: before).reverse none) = _
      rw [hbefore]
      rfl
    · have hrest := ih hlaid hothers nofun (treeOf i.value :: before)
      rw [List.map_cons, List.map_cons, List.intercalate_cons_cons, List.append_assoc,
        List.append_assoc, List.foldl_append, List.foldl_append, List.foldl_cons, List.foldl_nil,
        hfirst 0x2C (Or.inl rfl)]
      show List.foldl step ⟨.array (treeOf i.value :: before) :: stack, .value⟩ _ = _
      rw [← List.map_cons, hrest, hbefore, List.append_assoc]
      rfl

/-- The members of an object, up to its end. The induction is on the members, with those `before`
them general. -/
theorem foldl_memberTexts {members : List MemberText} (laid : ∀ m ∈ members, m.Laid)
    (reads : ∀ m ∈ members, Reads m.item.value) (nonempty : members ≠ [])
    (before : List (Spelling × Node)) :
    ([0x2C].intercalate (members.map MemberText.bytes) ++ [0x7D]).foldl step ⟨stack, .key before⟩ =
      accept stack (.object (before.reverse ++ members.map MemberText.tree) none) := by
  -- On the members, in the same way.
  induction members generalizing before with
  | nil => exact absurd rfl nonempty
  | cons m rest ih =>
    obtain ⟨hm, hlaid⟩ := List.forall_mem_cons.mp laid
    obtain ⟨hreads, hothers⟩ := List.forall_mem_cons.mp reads
    have hfirst := (m.done hm hreads stack before).step
    have hbefore : (m.tree :: before).reverse = before.reverse ++ [m.tree] := List.reverse_cons
    rcases rest with - | ⟨next, rest⟩
    · rw [List.map_singleton, List.intercalate_singleton, List.foldl_append, List.foldl_cons,
        List.foldl_nil, hfirst 0x7D (Or.inr (Or.inr rfl))]
      show accept stack (.object (m.tree :: before).reverse none) = _
      rw [hbefore]
      rfl
    · have hrest := ih hlaid hothers nofun (m.tree :: before)
      rw [List.map_cons, List.map_cons, List.intercalate_cons_cons, List.append_assoc,
        List.append_assoc, List.foldl_append, List.foldl_append, List.foldl_cons, List.foldl_nil,
        hfirst 0x2C (Or.inl rfl)]
      show List.foldl step ⟨stack, .key (m.tree :: before)⟩ _ = _
      rw [← List.map_cons, hrest, hbefore, List.append_assoc]
      rfl

theorem foldl_emptyArray {pad : List UInt8} (h : Blanks pad) :
    (0x5B :: (pad ++ [0x5D])).foldl step ⟨stack, .value⟩ = accept stack (.array [] none) := by
  have hopen : step ⟨stack, .value⟩ 0x5B = ⟨.array [] :: stack, .value⟩ := rfl
  rw [List.foldl_cons, List.foldl_append, hopen, foldl_blanks_value _ h]
  rfl

theorem foldl_array {items : List ItemText} (laid : ∀ i ∈ items, i.Laid)
    (reads : ∀ i ∈ items, Reads i.value) (nonempty : items ≠ []) :
    (0x5B :: ([0x2C].intercalate (items.map ItemText.bytes) ++ [0x5D])).foldl step
        ⟨stack, .value⟩ =
      accept stack (.array (items.map (treeOf ·.value)) none) := by
  have hopen : step ⟨stack, .value⟩ 0x5B = ⟨.array [] :: stack, .value⟩ := rfl
  rw [List.foldl_cons, hopen, foldl_itemTexts stack laid reads nonempty []]
  rfl

theorem foldl_emptyObject {pad : List UInt8} (h : Blanks pad) :
    (0x7B :: (pad ++ [0x7D])).foldl step ⟨stack, .value⟩ = accept stack (.object [] none) := by
  have hopen : step ⟨stack, .value⟩ 0x7B = ⟨stack, .key []⟩ := rfl
  rw [List.foldl_cons, List.foldl_append, hopen, foldl_blanks_key _ _ h]
  rfl

theorem foldl_object {members : List MemberText} (laid : ∀ m ∈ members, m.Laid)
    (reads : ∀ m ∈ members, Reads m.item.value) (nonempty : members ≠ []) :
    (0x7B :: ([0x2C].intercalate (members.map MemberText.bytes) ++ [0x7D])).foldl step
        ⟨stack, .value⟩ =
      accept stack (.object (members.map MemberText.tree) none) := by
  have hopen : step ⟨stack, .value⟩ 0x7B = ⟨stack, .key []⟩ := rfl
  rw [List.foldl_cons, hopen, foldl_memberTexts stack laid reads nonempty []]
  rfl

end Reader

/-- **Every value is read,** and skipped by whoever does not use it. The induction is on the
grammar, one case for each kind of value. -/
theorem IsValue.reads {text : List UInt8} (h : IsValue text) : Reads text := by
  -- On the grammar: each constructor is a text that is read, and the parts are by induction.
  induction h with
  | null => exact .of_accept (n := .null) rfl fun _ => rfl
  | true => exact .of_accept (n := .bool Bool.true) rfl fun _ => rfl
  | false => exact .of_accept (n := .bool Bool.false) rfl fun _ => rfl
  | number h => exact h.reads
  | string h => exact h.reads
  | emptyArray h => exact .of_accept rfl fun stack => Reader.foldl_emptyArray stack h
  | @array items nonempty laid values ih =>
    have hskip : ∀ n ∈ items.map (treeOf ·.value), n.skip = .ok () :=
      List.forall_mem_map.mpr fun i hi => (ih i hi).skip
    exact .of_accept (Node.skip_array_iff.mpr ⟨hskip, rfl⟩) fun stack =>
      Reader.foldl_array stack laid ih nonempty
  | emptyObject h => exact .of_accept rfl fun stack => Reader.foldl_emptyObject stack h
  | @object members nonempty laid values ih =>
    have hskip : ∀ m ∈ members.map MemberText.tree, m.1.stop = none ∧ m.2.skip = .ok () :=
      List.forall_mem_map.mpr fun m hm => m.skip_tree (laid m hm) (ih m hm)
    exact .of_accept (Node.skip_object_iff.mpr ⟨hskip, rfl⟩) fun stack =>
      Reader.foldl_object stack laid ih nonempty

/-! ### Objects whose members are at hand -/

namespace Member

variable (m : Member)

/-- The key and the tree of its value. -/
def tree : Spelling × Node := m.text.tree

theorem skip_tree : m.tree.2.skip = .ok () := (m.text.skip_tree m.laid m.isValue.reads).2

/-- **The name of a member** is what the spelling of its key means. -/
theorem name_eq : m.name = fromText m.tree.1.text := by
  obtain ⟨-, hvalue, -⟩ := m.laid.key.spells
  have hread : Document.read m.text.key = ⟨.string m.tree.1, false⟩ := by
    rw [Document.read, hvalue []]
    rfl
  rw [name, hread, Decoder.decodeDocument]
  cases htext : m.tree.1.text with
  | ok s => simp [Decoder.text, htext]; rfl
  | error f => simp [Decoder.text, htext]; rfl

end Member

/-- **An object is read** as the trees of its members, in their order. -/
theorem ObjectText.read_bytes (o : ObjectText) :
    Document.read o.bytes = ⟨.object (o.members.map Member.tree) none, false⟩ := by
  have hlead := Reader.foldl_blanks_value [] o.blank_lead
  have hopen : Reader.step ⟨[], .value⟩ 0x7B = ⟨[], .key []⟩ := rfl
  have hpad := Reader.foldl_blanks_key [] [] o.blank_pad
  -- Without members the object closes at once.
  have hmembers : ([0x2C].intercalate (o.members.map Member.bytes) ++ [0x7D]).foldl Reader.step
      ⟨[], .key []⟩ = Reader.accept [] (.object (o.members.map Member.tree) none) := by
    by_cases hnil : o.members = []
    · rw [hnil]
      rfl
    · have hlaid : ∀ m ∈ o.members.map Member.text, m.Laid :=
        List.forall_mem_map.mpr fun m _ => m.laid
      have hreads : ∀ m ∈ o.members.map Member.text, Reads m.item.value :=
        List.forall_mem_map.mpr fun m _ => m.isValue.reads
      have htexts := Reader.foldl_memberTexts [] hlaid hreads (by simpa using hnil) []
      rw [List.map_map, List.map_map] at htexts
      exact htexts
  have htrail := (Reader.done_accept [] (.object (o.members.map Member.tree) none)).blanks
    o.blank_trail
  rw [Document.read, bytes, List.foldl_append, hlead, List.foldl_cons, hopen, List.foldl_append,
    hpad, List.append_cons, List.foldl_append, hmembers]
  exact htrail.finish

end Lookout.Json
