import IpBlocks.Positional

namespace IpBlocks

/-!
# Numerals

Numbers are read from and written as digits in bases up to sixteen. A reader
takes digits of either case and any number of leading zeros; a writer uses
lower-case digits, either as few as possible (`Nat.toDigits`) or a fixed
count (`fixed`).
-/

namespace Numeral

/-- The value of a digit of either case, if it is one in the base. -/
def digitValue? (base : Nat) (character : Char) : Option Nat :=
  let value :=
    if '0' ≤ character ∧ character ≤ '9' then
      character.toNat - '0'.toNat
    else if 'a' ≤ character ∧ character ≤ 'z' then
      character.toNat - 'a'.toNat + 10
    else if 'A' ≤ character ∧ character ≤ 'Z' then
      character.toNat - 'A'.toNat + 10
    else
      base
  if value < base then some value else none

/-- The values of all characters of a text, if all of them are digits. -/
def digitValues? (base : Nat) : List Char → Option (List Nat)
  | [] => some []
  | character :: rest => do
      let value ← digitValue? base character
      let values ← digitValues? base rest
      return value :: values

/-- The number that a nonempty text of digits spells. -/
def read? (base : Nat) (text : List Char) : Option Nat :=
  if text = [] then
    none
  else
    (digitValues? base text).map fun values =>
      values.foldl (fun spelled value => spelled * base + value) 0

/-- The lowest digits of a number as characters, padded with zeros. -/
def fixed (base count value : Nat) : List Char :=
  (Positional.digits base count value).map Nat.digitChar

end Numeral

end IpBlocks
