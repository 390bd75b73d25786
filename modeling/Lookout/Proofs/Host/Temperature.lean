import Lookout.Host.Temperature
import Mathlib.Data.List.MinMax

/-!
# The sensor that is chosen

The readings are gone through once, and the best one so far is kept. What is kept is said without
the way it was found: it is plausible, and no other plausible reading has a higher priority, nor one
before it the same (`FirstBest`). Such a reading is there unless none is plausible, and there is
only one, so the choice is determined (`IsChoice.unique`). Where two lists are put together, the
best of either is the best of both if it is no worse than the other, and strictly better if it comes
second (`FirstBest.append_left`, `FirstBest.append_right`). One more reading is the case of a second
list with a single one in it.

Which readings are plausible is asked by ruling out those that are not. The two agree because any
two numbers can be compared, and only what is no number cannot (`Order.lt_iff_not_le`).

* `Reading.Plausible` — the readings that count;
* `FirstBest` — the first reading of the highest priority;
* `isChoice_readings` — it is what a pass through the readings finds;
* `topPriority` — the highest priority of a list;
* `selectTemperature_firstBest` — what is selected, and what it depends on.
-/

namespace Lookout

/-! ### Numbers in order -/

namespace Order

open Float.Model (UnpackedFloat)

/-- To compare two numbers the other way round swaps the answer. The cases are those of what a float
can be: nothing, endless, zero, or a sign with digits and an exponent. -/
theorem swap_compare (a b : UnpackedFloat) : (a.compare b).map Ordering.swap = b.compare a := by
  -- Two numbers of one sign are told apart by their exponents and digits.
  have hsame : ∀ (e f : Int) (m n : Nat),
      ((compare e f).then (compare m n)).swap = (compare f e).then (compare n m) := by
    intro e f m n
    rw [Ordering.swap_then, Nat.compare_swap, Int.compare_swap]
  rcases a with (_ | _) | _ | (_ | _) | ⟨_ | _, m, e, hm⟩ <;>
    rcases b with (_ | _) | _ | (_ | _) | ⟨_ | _, n, f, hn⟩ <;>
    first
    | rfl
    | exact congrArg some (hsame e f m n)
    | exact congrArg (fun o => some o.swap) (hsame e f m n)

theorem exists_compare {a b : UnpackedFloat} (ha : a.isNaN = false) (hb : b.isNaN = false) :
    ∃ o, a.compare b = some o := by
  rcases a with (_ | _) | _ | (_ | _) | ⟨_ | _, m, e, hm⟩ <;>
    rcases b with (_ | _) | _ | (_ | _) | ⟨_ | _, n, f, hn⟩ <;>
    first | exact ⟨_, rfl⟩ | exact absurd ha (by decide) | exact absurd hb (by decide)

variable {a b : Float32}

/-- `<` is one answer of `UnpackedFloat.compare`: the floats are taken apart first. -/
theorem lt_iff : a < b ↔ a.toModel.unpack.compare b.toModel.unpack = some .lt := by
  change decide (a.toModel < b.toModel) = true ↔ _
  rw [decide_eq_true_iff]
  change a.toModel.unpack.lt b.toModel.unpack = true ↔ _
  rw [UnpackedFloat.lt, beq_iff_eq]

/-- `≤` is any of two answers of the comparison, less or equal. -/
theorem le_iff : a ≤ b ↔ (a.toModel.unpack.compare b.toModel.unpack).any (·.isLE) = true := by
  change decide (a.toModel ≤ b.toModel) = true ↔ _
  rw [decide_eq_true_iff]
  rfl

/-- **Of two numbers one is the less** if it is not the other way round. Neither may be `isNaN`, of
which every comparison is false. -/
theorem lt_iff_not_le (ha : a.isNaN = false) (hb : b.isNaN = false) : b < a ↔ ¬a ≤ b := by
  obtain ⟨o, ho⟩ := exists_compare ha hb
  have hswap := swap_compare a.toModel.unpack b.toModel.unpack
  rw [ho] at hswap
  rw [lt_iff, le_iff, ← hswap, ho]
  cases o <;> simp

end Order

/-! ### Readings that count -/

namespace Reading

/-- **A reading counts** if it is a number above zero and at most 150. -/
structure Plausible (r : Reading) : Prop where
  number : r.celsius.isNaN = false
  pos : 0 < r.celsius
  le : r.celsius ≤ 150

variable {r : Reading}

/-- The check that runs, `isPlausible`, is passed by the readings that are `Plausible`. -/
theorem isPlausible_iff : r.isPlausible = true ↔ r.Plausible := by
  have hzero : (0 : Float32).isNaN = false := by decide
  have hmax : maxCelsius.isNaN = false := by decide
  have hsplit : r.isPlausible = true ↔
      r.celsius.isNaN = false ∧ ¬r.celsius ≤ 0 ∧ ¬maxCelsius < r.celsius := by
    simp [isPlausible, and_assoc]
  rw [hsplit]
  constructor
  -- The check asks for what must not be, and of numbers this is the same.
  · rintro ⟨number, pos, le⟩
    rw [Order.lt_iff_not_le number hmax, not_not] at le
    exact ⟨number, (Order.lt_iff_not_le number hzero).mpr pos, le⟩
  · rintro ⟨number, pos, le⟩
    refine ⟨number, (Order.lt_iff_not_le number hzero).mp pos, fun hlt => ?_⟩
    exact (Order.lt_iff_not_le number hmax).mp hlt le

instance : Decidable r.Plausible := decidable_of_iff _ isPlausible_iff

/-- How much a reading is worth, by its label. -/
def priority (r : Reading) : Nat := sensorPriority r.label

end Reading

/-! ### The best of a list -/

/-- **The first reading of the highest priority** among those that count. -/
def FirstBest (readings : List Reading) (best : Reading) : Prop :=
  ∃ before after, readings = before ++ best :: after ∧ best.Plausible ∧
    (∀ r ∈ before, r.Plausible → r.priority < best.priority) ∧
    ∀ r ∈ after, r.Plausible → r.priority ≤ best.priority

namespace FirstBest

variable {a b readings : List Reading} {best best' : Reading}

theorem mem (h : FirstBest readings best) : best ∈ readings := by
  obtain ⟨before, after, rfl, -⟩ := h
  exact List.mem_append_right before List.mem_cons_self

theorem counts (h : FirstBest readings best) : best.Plausible := by
  obtain ⟨before, after, -, counts, -⟩ := h
  exact counts

theorem le (h : FirstBest readings best) {r : Reading} (hr : r ∈ readings) (counts : r.Plausible) :
    r.priority ≤ best.priority := by
  obtain ⟨before, after, rfl, -, first, highest⟩ := h
  rcases List.mem_append.mp hr with hbefore | hafter
  · exact Nat.le_of_lt (first r hbefore counts)
  · rcases List.mem_cons.mp hafter with rfl | hafter
    · exact Nat.le_refl _
    · exact highest r hafter counts

/-- The first best stays so before readings that are no better, equal ones included: of equal ones
the first counts. -/
theorem append_left (h : FirstBest a best)
    (le : ∀ r ∈ b, r.Plausible → r.priority ≤ best.priority) : FirstBest (a ++ b) best := by
  obtain ⟨before, after, rfl, counts, first, highest⟩ := h
  refine ⟨before, after ++ b, by simp, counts, first, ?_⟩
  exact List.forall_mem_append.mpr ⟨highest, le⟩

/-- The first best stays so behind readings that are worse; here equal ones are not enough. -/
theorem append_right (h : FirstBest b best)
    (lt : ∀ r ∈ a, r.Plausible → r.priority < best.priority) : FirstBest (a ++ b) best := by
  obtain ⟨before, after, rfl, counts, first, highest⟩ := h
  refine ⟨a ++ before, after, by simp, counts, ?_, highest⟩
  exact List.forall_mem_append.mpr ⟨lt, first⟩

/-- **There is only one.** Of two, the one that stands behind the other would have to be better. -/
theorem unique (h : FirstBest readings best) (h' : FirstBest readings best') : best = best' := by
  obtain ⟨before, after, rfl, counts, first, highest⟩ := h
  obtain ⟨before', after', heq, counts', first', highest'⟩ := h'
  -- Whichever of the two comes first, the other one is not worth more.
  rcases List.append_eq_append_iff.mp heq with ⟨between, rfl, hrest⟩ | ⟨between, rfl, hrest⟩
  · rcases between with - | ⟨r, between⟩
    · exact (List.cons.inj hrest).1
    · obtain ⟨rfl, rfl⟩ := List.cons.inj hrest
      have hlt := first' best (by simp) counts
      have hle := highest best' (by simp) counts'
      omega
  · rcases between with - | ⟨r, between⟩
    · exact (List.cons.inj hrest).1.symm
    · obtain ⟨rfl, rfl⟩ := List.cons.inj hrest
      have hlt := first best' (by simp) counts'
      have hle := highest' best (by simp) counts
      omega

end FirstBest

/-- **What is to be chosen:** nothing if no reading counts, and the first of the best otherwise. -/
def IsChoice (readings : List Reading) : Option Reading → Prop
  | none => ∀ r ∈ readings, ¬r.Plausible
  | some best => FirstBest readings best

/-- The priority of what was chosen. -/
def level (choice : Option Reading) : WithBot Nat := choice.elim ⊥ fun r => .some r.priority

/-- The first of two choices unless the second is better. -/
def better (choice choice' : Option Reading) : Option Reading :=
  if level choice < level choice' then choice' else choice

/-- Nothing is better than anything: `none` is neutral for `better`. -/
theorem better_none (choice : Option Reading) : better none choice = choice := by
  cases choice with
  | none => rfl
  | some best => exact if_pos (WithBot.bot_lt_coe _)

namespace IsChoice

variable {a b readings : List Reading} {choice choice' : Option Reading}

theorem unique (h : IsChoice readings choice) (h' : IsChoice readings choice') :
    choice = choice' := by
  cases choice with
  | none =>
    cases choice' with
    | none => rfl
    | some best => exact absurd h'.counts (h best h'.mem)
  | some best =>
    cases choice' with
    | none => exact absurd h.counts (h' best h.mem)
    | some best' => exact congrArg some (h.unique h')

/-- Of one reading there is a choice if it is `Plausible`. -/
theorem single (r : Reading) : IsChoice [r] (if r.Plausible then some r else none) := by
  by_cases counts : r.Plausible
  · rw [if_pos counts]
    exact ⟨[], [], rfl, counts, nofun, nofun⟩
  · rw [if_neg counts]
    exact List.forall_mem_singleton.mpr counts

/-- No reading that counts is better than what is chosen, whose `level` is its priority. -/
theorem le_level (h : IsChoice readings choice) {r : Reading} (hr : r ∈ readings)
    (counts : r.Plausible) : WithBot.some r.priority ≤ level choice := by
  cases choice with
  | none => exact absurd counts (h r hr)
  | some best => exact WithBot.coe_le_coe.mpr (h.le hr counts)

/-- **The choice from two lists** is the better one of theirs, where `better` keeps the first of two
equal ones. -/
theorem append (h : IsChoice a choice) (h' : IsChoice b choice') :
    IsChoice (a ++ b) (better choice choice') := by
  unfold better
  split
  -- The second choice is strictly better, so that it beats all that came before.
  · next hlt =>
    cases choice' with
    | none => exact absurd hlt not_lt_bot
    | some best =>
      refine FirstBest.append_right h' fun r hr counts => ?_
      exact WithBot.coe_lt_coe.mp (lt_of_le_of_lt (h.le_level hr counts) hlt)
  -- It is not, and the first one stays.
  · next hle =>
    cases choice with
    | none =>
      refine List.forall_mem_append.mpr ⟨h, fun r hr counts => ?_⟩
      exact hle (lt_of_lt_of_le (WithBot.bot_lt_coe _) (h'.le_level hr counts))
    | some best =>
      refine FirstBest.append_left h fun r hr counts => ?_
      exact WithBot.coe_le_coe.mp ((h'.le_level hr counts).trans (not_lt.mp hle))

end IsChoice

/-! ### What is selected -/

/-- **One more reading is a choice of one,** put behind the others: `betterReading`, the step of the
loop, is the merge `better` of two choices. -/
theorem betterReading_eq (choice : Option Reading) (r : Reading) :
    betterReading choice r = better choice (if r.Plausible then some r else none) := by
  unfold betterReading
  by_cases counts : r.Plausible
  · rw [if_pos (Reading.isPlausible_iff.mpr counts), if_pos counts]
    cases choice with
    | none => exact (better_none _).symm
    | some best => simp [better, level, Reading.priority]
  · rw [if_neg (mt Reading.isPlausible_iff.mp counts), if_neg counts]
    exact (if_neg not_lt_bot).symm

/-- **What a pass through the readings finds** is what is to be chosen. The induction takes the
readings off the end, where `betterReading_eq` and `IsChoice.append` put one more. -/
theorem isChoice_readings (readings : List Reading) :
    IsChoice readings (readings.foldl betterReading none) := by
  induction readings using List.reverseRecOn with
  | nil => exact List.forall_mem_nil _
  | append_singleton readings r ih =>
    rw [List.foldl_concat, betterReading_eq]
    exact ih.append (.single r)

/-- The loop over two lists one after the other is the merge of their choices, as both are choices
of the same readings and there is only one. -/
theorem foldl_betterReading_append (a b : List Reading) :
    (a ++ b).foldl betterReading none =
      better (a.foldl betterReading none) (b.foldl betterReading none) :=
  (isChoice_readings (a ++ b)).unique ((isChoice_readings a).append (isChoice_readings b))

/-- **The highest priority** of the readings that count, if there are any. -/
def topPriority (readings : List Reading) : WithBot Nat :=
  ((readings.filter fun r => r.Plausible).map Reading.priority).maximum

/-- What a choice is worth is the most that any plausible reading is. -/
theorem IsChoice.level_eq {readings : List Reading} {choice : Option Reading}
    (h : IsChoice readings choice) : level choice = topPriority readings := by
  cases choice with
  | none =>
    have hnone : readings.filter (fun r => decide r.Plausible) = [] :=
      List.filter_eq_nil_iff.mpr fun r hr => by simpa using h r hr
    rw [topPriority, hnone]
    rfl
  | some best =>
    refine (List.maximum_eq_coe_iff.mpr ⟨?_, List.forall_mem_map.mpr fun r hr => ?_⟩).symm
    · exact List.mem_map_of_mem (List.mem_filter.mpr ⟨h.mem, decide_eq_true h.counts⟩)
    · obtain ⟨hmem, counts⟩ := List.mem_filter.mp hr
      exact h.le hmem (of_decide_eq_true counts)

/-- Readings that do not count are passed over by `betterReading`. -/
theorem foldl_betterReading_filter (readings : List Reading) :
    (readings.filter fun r => r.Plausible).foldl betterReading none =
      readings.foldl betterReading none := by
  rw [List.foldl_filter]
  congr 1
  funext choice r
  by_cases counts : r.Plausible
  · rw [if_pos (decide_eq_true counts)]
  · rw [if_neg (by simpa using counts), betterReading_eq, if_neg counts]
    exact (if_neg not_lt_bot).symm

/-- There is no temperature if and only if no reading is `Plausible`. -/
theorem selectTemperature_eq_none_iff {readings : List Reading} :
    selectTemperature readings = none ↔ ∀ r ∈ readings, ¬r.Plausible := by
  have hchoice := isChoice_readings readings
  rw [selectTemperature, Option.map_eq_none_iff]
  constructor
  · intro hnone
    rwa [hnone] at hchoice
  · exact fun none => hchoice.unique none

/-- There is a temperature if and only if there is a `FirstBest` reading, whose temperature it
is. -/
theorem selectTemperature_eq_some_iff {readings : List Reading} {celsius : Float} :
    selectTemperature readings = some celsius ↔
      ∃ best, FirstBest readings best ∧ best.celsius.toFloat = celsius := by
  have hchoice := isChoice_readings readings
  rw [selectTemperature, Option.map_eq_some_iff]
  constructor
  · rintro ⟨best, hbest, heq⟩
    rw [hbest] at hchoice
    exact ⟨best, hchoice, heq⟩
  · rintro ⟨best, hbest, heq⟩
    exact ⟨best, hchoice.unique hbest, heq⟩

/-- **The first of the best sensors tells the temperature.** Nothing is selected if no reading is
`Plausible`, and otherwise the `FirstBest` of the readings is, which is unique. Readings that do not
count may be put in or left out anywhere, since `betterReading` passes them over; and of two lists
the second one decides if its `topPriority` is above that of the first, or if nothing counts in the
first, which is how `better` merges their choices. -/
theorem selectTemperature_firstBest :
    (∀ readings, selectTemperature readings = none ↔ ∀ r ∈ readings, ¬r.Plausible) ∧
    (∀ readings celsius, selectTemperature readings = some celsius ↔
      ∃ best, FirstBest readings best ∧ best.celsius.toFloat = celsius) ∧
    (∀ readings readings' : List Reading,
      (readings.filter fun r => r.Plausible) = (readings'.filter fun r => r.Plausible) →
      selectTemperature readings = selectTemperature readings') ∧
    ∀ a b, selectTemperature (a ++ b) =
      if topPriority a < topPriority b ∨ ∀ r ∈ a, ¬r.Plausible then selectTemperature b
      else selectTemperature a := by
  -- The loop reads only what is plausible, and two lists one after the other are read as one.
  refine ⟨fun _ => selectTemperature_eq_none_iff, fun _ _ => selectTemperature_eq_some_iff, ?_, ?_⟩
  · intro readings readings' same
    rw [selectTemperature, ← foldl_betterReading_filter, same, foldl_betterReading_filter]
    rfl
  · intro a b
    have ha := isChoice_readings a
    have hb := isChoice_readings b
    rw [selectTemperature, foldl_betterReading_append, ← ha.level_eq, ← hb.level_eq]
    by_cases hnone : ∀ r ∈ a, ¬r.Plausible
    · have hnothing : IsChoice a none := hnone
      rw [if_pos (Or.inr hnone), ha.unique hnothing, better_none]
      rfl
    · simp only [hnone, or_false]
      rw [better, apply_ite (Option.map _)]
      rfl

/-- A package that reads zero degrees between two cores. -/
def coldPackage : List Reading := [⟨"Core 0", 55⟩, ⟨"Package id 0", 0⟩, ⟨"Core 1", 60⟩]

/-- The cold package does not count, though its priority is the highest, and the first of the cores
is taken. -/
theorem selectTemperature_firstBest_coldPackage :
    (coldPackage.filter fun r => r.Plausible) =
        ([⟨"Core 0", 55⟩, ⟨"Core 1", 60⟩].filter fun r => r.Plausible) ∧
      selectTemperature coldPackage = selectTemperature [⟨"Core 0", 55⟩, ⟨"Core 1", 60⟩] ∧
      selectTemperature coldPackage = some (55 : Float32).toFloat := by
  obtain ⟨-, selected, ignored, -⟩ := selectTemperature_firstBest
  refine ⟨rfl, ignored _ _ rfl, (selected _ _).mpr ⟨⟨"Core 0", 55⟩, ?_, rfl⟩⟩
  refine ⟨[], [⟨"Package id 0", 0⟩, ⟨"Core 1", 60⟩], rfl, by decide, nofun, ?_⟩
  decide

end Lookout
