import IpBlocks.Text.Numeral

namespace IpBlocks

/-!
# Dotted quads

An IPv4 address is written as four decimal octets with dots between them. An
octet has one to three digits, is at most 255 and has no leading zero.
-/

namespace Quad

/-- The value of an octet text. -/
def octet? (text : List Char) : Option Nat :=
  if 3 < text.length ∨ (text.head? = some '0' ∧ text ≠ ['0']) then
    none
  else
    (Numeral.read? 10 text).filter fun value => value ≤ 255

/-- The values of octet texts, if all of them are octets. -/
def octets? : List (List Char) → Option (List Nat)
  | [] => some []
  | text :: rest => do
      let octet ← octet? text
      let octets ← octets? rest
      return octet :: octets

/-- The number that a dotted quad spells. -/
def read? (text : List Char) : Option Nat := do
  let octets ← octets? (text.splitOn '.')
  if octets.length = 4 then
    some (Positional.number 256 octets)
  else
    none

/-- The dotted quad that spells a number. -/
def chars (value : Nat) : List Char :=
  ['.'].intercalate
    ((Positional.digits 256 4 value).map (Nat.toDigits 10))

end Quad

end IpBlocks
