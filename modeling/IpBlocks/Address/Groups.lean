import IpBlocks.Address.Quad
import IpBlocks.Text.Cut

namespace IpBlocks

/-!
# Hexadecimal groups

An IPv6 address is written as eight groups of one to four hexadecimal digits
with colons between them. One double colon may stand for one or more zero
groups, and a dotted quad for the last two groups.

When written, the longest run of at least two zero groups becomes the double
colon (the first such run if several are longest). A dotted quad is written
only after five zero groups and one group of ones.
-/

namespace Groups

/-- The number of groups of an address. -/
def count : Nat :=
  8

/-- The value of a group text. -/
def group? (text : List Char) : Option Nat :=
  if 4 < text.length then
    none
  else
    Numeral.read? 16 text

/-- The groups between colons, where the last may be a dotted quad. -/
def groupsOf? (quadAllowed : Bool) : List (List Char) → Option (List Nat)
  | [] => some []
  | [last] =>
      if quadAllowed ∧ '.' ∈ last then
        (Quad.read? last).map (Positional.digits 65536 2)
      else
        (group? last).map fun group => [group]
  | text :: rest => do
      let group ← group? text
      let groups ← groupsOf? quadAllowed rest
      return group :: groups

/-- The groups of a text without a double colon, which may be empty. -/
def run? (quadAllowed : Bool) (text : List Char) : Option (List Nat) :=
  if text = [] then
    some []
  else
    groupsOf? quadAllowed (text.splitOn ':')

/-- The eight groups that a text spells. -/
def groups? (text : List Char) : Option (List Nat) :=
  match Text.cutDouble? ':' text with
  | none => do
      let groups ← run? true text
      if groups.length = count then some groups else none
  | some (before, after) => do
      let front ← run? false before
      let back ← run? true after
      let given := front.length + back.length
      if given < count then
        some (front ++ List.replicate (count - given) 0 ++ back)
      else
        none

/-- The number that a text of groups spells. -/
def read? (text : List Char) : Option Nat :=
  (groups? text).map (Positional.number 65536)

/-- The number of zeros at the front of a list. -/
def leadingZeros : List Nat → Nat
  | 0 :: rest => leadingZeros rest + 1
  | _ => 0

/-- The start and the length of the first longest run of zeros. -/
def zeroRun : List Nat → Nat × Nat
  | [] => (0, 0)
  | group :: rest =>
      let later := zeroRun rest
      let here := leadingZeros (group :: rest)
      if here < later.2 then (later.1 + 1, later.2) else (0, here)

/-- Groups with colons between them. -/
def plain (groups : List Nat) : List Char :=
  [':'].intercalate (groups.map (Nat.toDigits 16))

/-- Groups with their longest run of zeros shown as a double colon. -/
def compressed (groups : List Nat) : List Char :=
  let (start, length) := zeroRun groups
  if length < 2 then
    plain groups
  else
    plain (groups.take start) ++ [':', ':'] ++
      plain (groups.drop (start + length))

/-- The text of a 128-bit number. -/
def chars (value : Nat) : List Char :=
  if value >>> 32 = 0xffff then
    "::ffff:".toList ++ Quad.chars value
  else
    compressed (Positional.digits 65536 count value)

end Groups

end IpBlocks
