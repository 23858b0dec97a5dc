namespace IpBlocks

/-!
# Decimal numbers

A number of a document that is no 64-bit integer is written in decimal digits
and held as a binary64 number. Its leading digits are taken as far as 64 bits
hold them, and the binary64 number nearest to them is multiplied or divided by
a power of ten. Since each step rounds, the number that is held may differ
from the nearest one in its last bit.
-/

namespace Document

/-- A decimal number: digits times a power of ten. -/
structure Decimal where
  negative : Bool
  digits : Nat
  exponent : Int
  deriving DecidableEq, Repr

namespace Decimal

/-- The nearest binary64 number to the magnitude of a decimal number. -/
def nearest (number : Decimal) : Float :=
  Float.ofScientific number.digits (decide (number.exponent < 0))
    number.exponent.natAbs

/-- The number with its last digits dropped until 64 bits hold the others. -/
def leading (number : Decimal) : Decimal :=
  if number.digits < 1 <<< 64 then
    number
  else
    leading ⟨number.negative, number.digits / 10, number.exponent + 1⟩
termination_by number.digits
decreasing_by
  exact Nat.div_lt_self (Nat.zero_lt_of_ne_zero (by rintro zero; simp_all))
    (by decide)

/-- The greatest power of ten that binary64 numbers are scaled by. -/
def greatestPower : Nat :=
  308

/-- The binary64 number for a power of ten, infinite beyond the greatest. -/
def powerOfTen (places : Nat) : Float :=
  Float.ofScientific 1 false (min places (greatestPower + 1))

/-- A binary64 number divided by a power of ten. -/
def shrunk (value : Float) (places : Nat) : Float :=
  if places ≤ greatestPower ∨ value == 0 then
    value / powerOfTen (min places greatestPower)
  else
    shrunk (value / powerOfTen greatestPower) (places - greatestPower)
termination_by places
decreasing_by
  simp only [greatestPower, not_or] at *
  omega

/-- The binary64 number that is held for the magnitude of a number. -/
def held (number : Decimal) : Float :=
  let leading := number.leading
  let significand := Float.ofScientific leading.digits false 0
  let places := leading.exponent.natAbs
  if leading.exponent < 0 then
    shrunk significand places
  else if leading.digits = 0 then
    significand
  else
    significand * powerOfTen places

end Decimal

end Document

end IpBlocks
