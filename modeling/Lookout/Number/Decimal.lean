import Lookout.Number.Binary

/-!
# Decimal numerals

A `Decimal` is `digits * 10 ^ exponent`. It is read as the nearest number of a binary format, or in
few steps that each round (`Decimal.scaled?`), and written in a `DecimalStyle`, which says where
positional notation ends.
-/

namespace Lookout

/-- The number `digits * 10 ^ exponent`. -/
structure Decimal where
  /-- All digits, read as one natural number. -/
  digits : Nat
  exponent : Int
  deriving DecidableEq

namespace Decimal

/-- Decimal exponents beyond this bound, upwards or downwards, leave every format. -/
def reach : Nat := 400

/-- The nearest number of a format as it is stored; `none` when it is not finite. A decimal far out
of reach is settled by its exponent alone. -/
def round (f : Format) (d : Decimal) : Option Nat :=
  if d.digits = 0 then some 0
  else if (reach : Int) < d.exponent then none
  else if d.exponent + (d.digits.log2 + 1 : Nat) < -(reach : Int) then some 0
  else
    (f.nearest (d.digits * tenTo d.exponent.toNat) (tenTo (-d.exponent).toNat)).map
      fun (significand, exponent) => f.bits significand exponent

/-- The nearest 64-bit float, if it is finite. -/
def toFloat? (negative : Bool) (d : Decimal) : Option Float :=
  (d.round .double).map fun stored =>
    Float.ofBits (UInt64.ofNat (if negative then stored + twoTo 63 else stored))

/-- The nearest 32-bit float, if it is finite. -/
def toFloat32? (negative : Bool) (d : Decimal) : Option Float32 :=
  (d.round .single).map fun stored =>
    Float32.ofBits (UInt32.ofNat (if negative then stored + twoTo 31 else stored))

/-- The greatest exponent of a power of ten that is a finite 64-bit float. -/
def greatestPower : Nat := 308

/-- The float nearest to a power of ten; infinity beyond the greatest one. -/
def power (exponent : Nat) : Float :=
  (toFloat? false ⟨1, exponent⟩).getD (1.0 / 0.0)

/-- A float divided by a power of ten, in as few divisions as powers allow. -/
def shrink (x : Float) (exponent : Nat) : Float :=
  if exponent ≤ greatestPower then x / power exponent
  else if x == 0.0 then x
  else shrink (x / power greatestPower) (exponent - greatestPower)
termination_by exponent
decreasing_by simp only [greatestPower] at *; omega

/-- The decimal as a 64-bit float, if it is finite: the digits, of which a word's worth are given,
are rounded and then multiplied or divided by the power of ten. Two roundings need not give the
nearest float, but in most cases do. -/
def scaled? (d : Decimal) : Option Float :=
  -- Rounded here, and a second time by the multiplication or the division.
  let x := (UInt64.ofNat d.digits).toFloat
  if d.exponent < 0 then some (shrink x d.exponent.natAbs)
  else if d.exponent ≤ greatestPower then
    let y := x * power d.exponent.natAbs
    if y.isInf then none else some y
  else if d.digits = 0 then some x
  else none

/-- The same number without zeros at the end of its digits; zero stays as it is. -/
def stripped (d : Decimal) : Decimal :=
  let written := (Nat.toDigits 10 d.digits).reverse
  let zeros := (written.takeWhile (· == '0')).length
  -- Zero has nothing but zeros, and would lose all of its digits.
  if d.digits = 0 then d else ⟨d.digits / tenTo zeros, d.exponent + zeros⟩

end Decimal

/-- How decimals are written. A number is `0.d₁…dₙ * 10 ^ point`; between the two bounds on `point`
it is written positionally, with at least one digit on each side of the mark, and elsewhere with an
exponent. -/
structure DecimalStyle where
  /-- The least `point` written positionally. -/
  leastPoint : Int
  /-- The greatest `point` written positionally. -/
  greatestPoint : Int
  /-- Whether a positive exponent carries a sign. -/
  signed : Bool

namespace DecimalStyle

/-- The exponent with its sign. -/
def exponentText (style : DecimalStyle) (e : Int) : List Char :=
  if e < 0 then '-' :: Nat.toDigits 10 e.natAbs
  else (if style.signed then ['+'] else []) ++ Nat.toDigits 10 e.natAbs

/-- The text of a decimal without zeros at the end. -/
def write (style : DecimalStyle) (d : Decimal) : List Char :=
  if d.digits = 0 then ['0', '.', '0']
  else
    let digits := Nat.toDigits 10 d.digits
    let point := d.exponent + digits.length
    -- Positionally, where the point is near the digits.
    if style.leastPoint ≤ point ∧ point ≤ style.greatestPoint then
      -- Zeros before the digits; digits on both sides; or zeros behind them.
      if point ≤ 0 then ['0', '.'] ++ List.replicate (-point).toNat '0' ++ digits
      else
        let whole := digits.take point.toNat
        let fraction := digits.drop point.toNat
        whole ++ List.replicate (point.toNat - digits.length) '0' ++ ['.'] ++
          (if fraction.isEmpty then ['0'] else fraction)
    else
      let fraction := digits.drop 1
      digits.take 1 ++ (if fraction.isEmpty then [] else '.' :: fraction) ++ ['e'] ++
        style.exponentText (point - 1)

end DecimalStyle

end Lookout
