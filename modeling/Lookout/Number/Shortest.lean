import Lookout.Number.Decimal

/-!
# The shortest decimal of a binary number

A number `m * 2 ^ q` of a binary format is the rounding of every real in an interval around it. Its
shortest decimal is the one with the fewest digits in that interval, and of those the nearest.
Everything is exact: lengths are counted in quarters of the unit `2 ^ q`, and two numbers are
compared by multiplying both out to naturals.
-/

namespace Lookout

/-- A positive number of a binary format. -/
structure BinaryNumber where
  significand : Nat
  exponent : Int
  /-- Whether the next lower number is only half a unit away, as at a power of two. -/
  narrow : Bool

namespace BinaryNumber

/-- The number itself, in quarters of its unit. -/
def quarters (x : BinaryNumber) : Nat := 4 * x.significand

/-- The lower end, in quarter units, of the reals that round to the number. -/
def low (x : BinaryNumber) : Nat := x.quarters - (if x.narrow then 1 else 2)

/-- The upper end, which is half a unit away from every number. -/
def high (x : BinaryNumber) : Nat := x.quarters + 2

/-- `n` quarter units as a natural, on the scale that `onGrid` shares for the same place. -/
def onScale (x : BinaryNumber) (place : Int) (n : Nat) : Nat :=
  n * twoTo (x.exponent - 2).toNat * tenTo (-place).toNat

/-- `c * 10 ^ place` as a natural, on the same scale. -/
def onGrid (x : BinaryNumber) (place : Int) (c : Nat) : Nat :=
  c * tenTo place.toNat * twoTo (2 - x.exponent).toNat

/-- Whether `c * 10 ^ place` rounds to the number; the ends count when the significand is even. -/
def holds (x : BinaryNumber) (place : Int) (c : Nat) : Bool :=
  let point := x.onGrid place c
  let low := x.onScale place x.low
  let high := x.onScale place x.high
  if x.significand % 2 = 0 then low ≤ point && point ≤ high else low < point && point < high

/-- The greatest `e` with `10 ^ e` at most the value. The estimate from the binary logarithm is off
by one at most. -/
def decimalExponent (x : BinaryNumber) : Int :=
  let estimate := ((x.significand.log2 : Int) + x.exponent) * 30103 / 100000
  let reaches := fun e => x.onGrid e 1 ≤ x.onScale e x.quarters
  if reaches (estimate + 1) then estimate + 1
  else if reaches estimate then estimate
  else estimate - 1

/-- The decimal at this place that rounds to the number and is nearest to it, of two equally near
ones the even one. Only the two grid points around the value can be nearest. -/
def atPlace (x : BinaryNumber) (place : Int) : Option Decimal :=
  let value := x.onScale place x.quarters
  let below := value / x.onGrid place 1
  let above := below + 1
  let toBelow := value - x.onGrid place below
  let toAbove := x.onGrid place above - value
  match x.holds place below, x.holds place above with
  | false, false => none
  | true, false => some ⟨below, place⟩
  | false, true => some ⟨above, place⟩
  | true, true =>
    if toBelow < toAbove ∨ (toBelow = toAbove ∧ below % 2 = 0) then some ⟨below, place⟩
    else some ⟨above, place⟩

/-- The shortest decimal of the number; seventeen digits always suffice. -/
def shortest (x : BinaryNumber) : Decimal :=
  -- From one digit upwards, so that the first decimal that is found is the shortest.
  let top := x.decimalExponent
  (((List.range 17).findSome? fun n : Nat => x.atPlace (top - n)).getD ⟨x.significand, 0⟩).stripped

end BinaryNumber

/-- What a 64-bit float is. -/
inductive FloatClass where
  | nan
  | infinite (negative : Bool)
  | zero (negative : Bool)
  /-- Any other number, as its sign and magnitude. -/
  | finite (negative : Bool) (magnitude : BinaryNumber)

/-- The class of a float, read off its bits. -/
def FloatClass.ofFloat (x : Float) : FloatClass :=
  let bits := x.toBits.toNat
  let negative := decide (twoTo 63 ≤ bits)
  let stored := bits % twoTo 63
  let fraction := stored % twoTo 52
  if stored = 0 then .zero negative
  else if stored / twoTo 52 = 2047 then
    if fraction = 0 then .infinite negative else .nan
  else
    let (significand, exponent) := Format.double.unpack stored
    -- At a power of two the number below is only half as far away, but for the least one.
    .finite negative ⟨significand, exponent, decide (fraction = 0 ∧ 1 < stored / twoTo 52)⟩

end Lookout
