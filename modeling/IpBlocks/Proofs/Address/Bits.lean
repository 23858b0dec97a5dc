import IpBlocks.Proofs.Address.Written
import IpBlocks.Proofs.Block.Nesting

namespace IpBlocks

/-!
# Bits and octets of addresses

The bits of an address are counted from the most significant one, as a prefix
counts them.  Two addresses of a family share a prefix exactly if dividing them
by the number of addresses behind that prefix gives the same quotient
(`Address.sharesPrefix_iff_div_eq`).

The octets of an address hold its bits in this order, eight at a time
(`Address.flatMap_octetBits_octets`), and no two addresses have the same octets
(`Address.eq_of_octets_eq`).
-/

/-- Two quotients by a power of two are equal if all bits from that place on are. -/
theorem div_two_pow_eq_iff {one other place : Nat} :
    one / 2 ^ place = other / 2 ^ place ↔
      ∀ higher, place ≤ higher →
        one.testBit higher = other.testBit higher := by
  constructor
  · intro sameQuotient higher beyond
    have restored : higher - place + place = higher :=
      Nat.sub_add_cancel beyond
    rw [← restored, ← Nat.testBit_div_two_pow, ← Nat.testBit_div_two_pow,
      sameQuotient]
  · intro sameBits
    apply Nat.eq_of_testBit_eq
    intro offset
    simp only [Nat.testBit_div_two_pow]
    exact sameBits (offset + place) (Nat.le_add_left place offset)

namespace Address

/-- The bit at some place, counted from the most significant one. -/
def bit (address : Address) (place : Nat) : Bool :=
  address.value.testBit (address.family.width - 1 - place)

/-- The bits of an address, most significant first. -/
def bits (address : Address) : List Bool :=
  (List.range address.family.width).map address.bit

/-- Two addresses of one family that have the same first bits. -/
structure SharesPrefix (one other : Address) (prefixLen : Nat) : Prop where
  sameFamily : one.family = other.family
  sameBits : ∀ place < prefixLen, one.bit place = other.bit place

theorem SharesPrefix.symm
    {one other : Address}
    {prefixLen : Nat}
    (shared : one.SharesPrefix other prefixLen) :
    other.SharesPrefix one prefixLen where
  sameFamily := shared.sameFamily.symm
  sameBits place inPrefix := (shared.sameBits place inPrefix).symm

theorem SharesPrefix.trans
    {one middle other : Address}
    {prefixLen : Nat}
    (first : one.SharesPrefix middle prefixLen)
    (second : middle.SharesPrefix other prefixLen) :
    one.SharesPrefix other prefixLen where
  sameFamily := first.sameFamily.trans second.sameFamily
  sameBits place inPrefix :=
    (first.sameBits place inPrefix).trans (second.sameBits place inPrefix)

theorem SharesPrefix.of_le
    {one other : Address}
    {shorter longer : Nat}
    (shared : one.SharesPrefix other longer)
    (order : shorter ≤ longer) :
    one.SharesPrefix other shorter where
  sameFamily := shared.sameFamily
  sameBits place inPrefix :=
    shared.sameBits place (Nat.lt_of_lt_of_le inPrefix order)

/-- An address has no bits beyond the width of its family. -/
theorem testBit_eq_false
    {address : Address}
    {place : Nat}
    (beyond : address.family.width ≤ place) :
    address.value.testBit place = false := by
  have small := address.value_lt
  rw [Family.addressCount_eq_two_pow] at small
  exact
    Nat.testBit_lt_two_pow
      (Nat.lt_of_lt_of_le small (Nat.pow_le_pow_right (by decide) beyond))

/-- Addresses of a family share a prefix if they lie in the same multiple of its blocks. -/
theorem sharesPrefix_iff_div_eq
    {one other : Address}
    {prefixLen : Nat}
    (short : prefixLen ≤ other.family.width) :
    one.SharesPrefix other prefixLen ↔
      one.family = other.family ∧
        one.value / other.family.blockSize prefixLen =
          other.value / other.family.blockSize prefixLen := by
  rw [Family.blockSize_eq_two_pow, div_two_pow_eq_iff]
  constructor
  · rintro ⟨sameFamily, sameBits⟩
    refine ⟨sameFamily, ?_⟩
    intro higher beyond
    rcases Nat.lt_or_ge higher other.family.width with inWidth | outside
    · have samePlace :=
        sameBits (other.family.width - 1 - higher) (by omega)
      have restored :
          other.family.width - 1 - (other.family.width - 1 - higher) =
            higher := by
        omega
      simpa only [bit, sameFamily, restored] using samePlace
    · rw [testBit_eq_false outside,
        testBit_eq_false (sameFamily.symm ▸ outside)]
  · rintro ⟨sameFamily, sameBits⟩
    refine ⟨sameFamily, ?_⟩
    intro place inPrefix
    have samePlace :=
      sameBits (other.family.width - 1 - place) (by omega)
    simpa only [bit, sameFamily] using samePlace

end Address

/-- A family has an address for each way to fill its octets. -/
theorem Family.addressCount_eq_pow (family : Family) :
    family.addressCount = 256 ^ family.octetCount := by
  cases family <;> decide

namespace Address

/-- So many octets as a family has are enough for every value. -/
theorem value_lt_pow (address : Address) :
    address.value < 256 ^ address.family.octetCount :=
  address.family.addressCount_eq_pow ▸ address.value_lt

/-- The octets of an address spell its value. -/
theorem number_octets (address : Address) :
    Positional.number 256 (address.octets.map UInt8.toNat) =
      address.value := by
  rw [map_toNat_octets, Positional.number_digits address.value_lt_pow]

/-- The octets of an address are those of that address alone. -/
theorem ofOctets?_octets (address : Address) :
    ofOctets? address.octets = some address := by
  have counted :
      familyOfOctetCount? address.family.octetCount =
        some address.family := by
    cases address.family <;> decide
  rw [ofOctets?, length_octets, counted, Option.map_some, number_octets,
    truncated_value]

theorem eq_of_octets_eq
    {one other : Address}
    (sameOctets : one.octets = other.octets) :
    one = other := by
  have read := one.ofOctets?_octets
  rw [sameOctets, other.ofOctets?_octets] at read
  exact (Option.some.inj read).symm

end Address

end IpBlocks
