/-!
# Rounding to a binary format

A finite binary number is `significand * 2 ^ exponent`. A `Format` bounds both; `Format.nearest`
rounds an exact quotient of naturals to the nearest number of a format, a tie going to the even
significand, and says `none` when the result lies beyond the greatest finite number. `Format.bits`
packs a number as the format stores it.
-/

namespace Lookout

/-- A power of two. -/
def twoTo (n : Nat) : Nat := Nat.pow 2 n

/-- A power of ten. -/
def tenTo (n : Nat) : Nat := Nat.pow 10 n

/-- The quotient rounded to the nearest natural, a tie going to the even one. -/
def roundHalfEven (num den : Nat) : Nat :=
  let quotient := num / den
  let twice := 2 * (num % den)
  if twice < den ∨ (twice = den ∧ quotient % 2 = 0) then quotient else quotient + 1

/-- A binary interchange format. -/
structure Format where
  /-- Bits of a full significand, the leading one included. -/
  precision : Nat
  /-- The exponent of the least unit. -/
  least : Int
  /-- The exponent of the greatest unit. -/
  greatest : Int

namespace Format

/-- Numbers of 64 bits. -/
def double : Format := ⟨53, -1074, 971⟩

/-- Numbers of 32 bits. -/
def single : Format := ⟨24, -149, 104⟩

/-- The greatest `e` with `2 ^ e ≤ num / den`, for positive arguments. -/
def floorLog2 (num den : Nat) : Int :=
  let e : Int := (num.log2 : Int) - (den.log2 : Int)
  if den * twoTo e.toNat ≤ num * twoTo (-e).toNat then e else e - 1

/-- The number `(significand, exponent)` nearest to `num / den`, for positive arguments. -/
def nearest (f : Format) (num den : Nat) : Option (Nat × Int) :=
  let exponent := max f.least (floorLog2 num den - (f.precision - 1 : Nat))
  let significand := roundHalfEven (num * twoTo (-exponent).toNat) (den * twoTo exponent.toNat)
  let (significand, exponent) :=
    -- Rounding up may need one bit more, and then the last one is zero.
    if significand = twoTo f.precision then (twoTo (f.precision - 1), exponent + 1)
    else (significand, exponent)
  if exponent ≤ f.greatest then some (significand, exponent) else none

/-- The stored form of a non-negative number: without a leading one the significand alone, else the
leading one is replaced by the exponent. -/
def bits (f : Format) (significand : Nat) (exponent : Int) : Nat :=
  if significand < twoTo (f.precision - 1) then significand
  else (exponent - f.least + 1).toNat * twoTo (f.precision - 1) +
    (significand - twoTo (f.precision - 1))

/-- The significand and exponent of a stored non-negative finite number. -/
def unpack (f : Format) (stored : Nat) : Nat × Int :=
  let field := stored / twoTo (f.precision - 1)
  let fraction := stored % twoTo (f.precision - 1)
  if field = 0 then (fraction, f.least)
  else (fraction + twoTo (f.precision - 1), f.least + (field - 1 : Nat))

end Format

end Lookout
