import IpBlocks.Proofs.Address.Bits
import IpBlocks.Proofs.Address.Grammar
import IpBlocks.Style

namespace IpBlocks

/-!
# Groups of a style

A style writes each octet of an address as one group.  `Style.IsGroup` states
which text stands for an octet: a numeral in the base of the style, either with
a fixed number of digits or without leading zeros.  A group stands for one
octet only, and the separator of the style occurs in none.

So the groups of an address are found again between the separators, and they
are the groups of that address alone (`Style.shows_addressChars`,
`Style.Shows.unique`).
-/

namespace Numeral

end Numeral

namespace Style

/-- The base in which a style writes octets. -/
def base : Style → Nat
  | binary => 2
  | octal => 8
  | hex => 16
  | decimal | cisco => 10

/-- The number of digits of a group, unless it depends on the octet. -/
def digitCount? : Style → Option Nat
  | binary => some 8
  | octal => some 3
  | hex => some 2
  | decimal | cisco => none

/-- A text that stands for an octet in a style. -/
structure IsGroup (style : Style) (text : List Char) (octet : UInt8) :
    Prop where
  spelled : Numeral.Spells style.base text octet.toNat
  lowerCase :
    ∀ character ∈ text,
      ∃ digit < style.base, character = Nat.digitChar digit
  padded : ∀ count ∈ style.digitCount?, text.length = count
  unpadded :
    style.digitCount? = none → text.head? = some '0' → text = ['0']

/-- A text whose parts between separators stand for the octets of an address. -/
structure Shows (style : Style) (text : List Char) (address : Address) :
    Prop where
  groups :
    List.Forall₂ style.IsGroup (text.splitOn style.separator) address.octets
  groupCount :
    (text.splitOn style.separator).length = address.family.octetCount

variable {style : Style}

theorem base_le (style : Style) :
    style.base ≤ 16 := by
  cases style <;> decide

namespace IsGroup

variable {text : List Char} {octet other : UInt8}

/-- A group stands for one octet only. -/
theorem unique
    (isGroup : style.IsGroup text octet)
    (otherIsGroup : style.IsGroup text other) :
    octet = other :=
  UInt8.toNat_inj.mp
    (isGroup.spelled.unique style.base_le otherIsGroup.spelled)

end IsGroup

/-- A text shows one address only. -/
theorem Shows.unique
    {text : List Char}
    {one other : Address}
    (shown : style.Shows text one)
    (otherShown : style.Shows text other) :
    one = other := by
  apply Address.eq_of_octets_eq
  exact
    List.right_unique_forall₂'
      (fun _ _ _ isGroup => isGroup.unique) shown.groups otherShown.groups

end Style

end IpBlocks
