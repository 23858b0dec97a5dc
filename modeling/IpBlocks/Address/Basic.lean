import IpBlocks.Family
import IpBlocks.Positional

namespace IpBlocks

/-!
# Addresses

An address is a number of its family's width. It can be seen as octets, most
significant first, and stepped to the address that follows it. Addresses are
ordered by family and then by value.
-/

/-- A number that fits the width of its family. -/
structure Address where
  family : Family
  value : Nat
  value_le : value ≤ family.allOnes
  deriving DecidableEq

namespace Address

/-- The address that the lowest bits of a number spell. -/
def truncated (family : Family) (value : Nat) : Address where
  family :=
    family
  value :=
    value % family.addressCount
  value_le :=
    Family.le_allOnes_iff.mpr (Nat.mod_lt value family.addressCount_pos)

/-- The following address, unless this is the last one of the family. -/
def next? (address : Address) : Option Address :=
  if small : address.value + 1 ≤ address.family.allOnes then
    some ⟨address.family, address.value + 1, small⟩
  else
    none

/-- The address that many steps further, unless the family ends before it. -/
def advance? (address : Address) : Nat → Option Address
  | 0 => some address
  | count + 1 => (address.advance? count).bind next?

/--
The addresses reached by stepping, up to a number of steps.

The list ends with `none` where a step leads past the end of the family.
-/
def walk (address : Address) : Nat → List (Option Address)
  | 0 => []
  | count + 1 =>
      match address.next? with
      | none => [none]
      | some following => some following :: following.walk count

/-- The octets of the value, most significant first. -/
def octets (address : Address) : List UInt8 :=
  (Positional.digits 256 address.family.octetCount address.value).map
    UInt8.ofNat

/-- The family whose addresses have a number of octets. -/
def familyOfOctetCount? (count : Nat) : Option Family :=
  [Family.v4, Family.v6].find? fun family => family.octetCount = count

/-- The address with the given octets, if there are four or sixteen. -/
def ofOctets? (octets : List UInt8) : Option Address :=
  (familyOfOctetCount? octets.length).map fun family =>
    truncated family (Positional.number 256 (octets.map UInt8.toNat))

/-- Addresses are ordered by family, and by value within a family. -/
instance : Ord Address where
  compare one other :=
    (compare one.family.rank other.family.rank).then
      (compare one.value other.value)

/-- Addresses of one family and one value are the same. -/
@[ext] theorem ext
    {one other : Address}
    (sameFamily : one.family = other.family)
    (sameValue : one.value = other.value) :
    one = other := by
  cases one
  cases other
  cases sameFamily
  cases sameValue
  rfl

/-- Addresses of one family are ordered by their values. -/
theorem compare_eq_compare_value
    {one other : Address}
    (sameFamily : one.family = other.family) :
    compare one other = compare one.value other.value := by
  have sameRank :
      compare one.family.rank other.family.rank = .eq :=
    Nat.compare_eq_eq.mpr (congrArg Family.rank sameFamily)
  change
    (compare one.family.rank other.family.rank).then
      (compare one.value other.value) = _
  rw [sameRank, Ordering.eq_then]

/-- A value counts fewer than the family has addresses. -/
theorem value_lt (address : Address) :
    address.value < address.family.addressCount :=
  Family.le_allOnes_iff.mp address.value_le

@[simp] theorem family_truncated (family : Family) (value : Nat) :
    (truncated family value).family = family :=
  rfl

@[simp] theorem value_truncated (family : Family) (value : Nat) :
    (truncated family value).value = value % family.addressCount :=
  rfl

/-- Nothing is cut off from the value of an address. -/
@[simp] theorem truncated_value (address : Address) :
    truncated address.family address.value = address :=
  Address.ext rfl (Nat.mod_eq_of_lt address.value_lt)

/-- A step adds one to the value. -/
theorem next?_eq_some_iff {address following : Address} :
    address.next? = some following ↔
      following.family = address.family ∧
        following.value = address.value + 1 := by
  rw [next?]
  split <;> rename_i small
  · rw [Option.some.injEq]
    constructor
    · rintro rfl
      exact ⟨rfl, rfl⟩
    · rintro ⟨sameFamily, sameValue⟩
      exact Address.ext sameFamily.symm sameValue.symm
  · constructor
    · intro impossible
      cases impossible
    · rintro ⟨sameFamily, sameValue⟩
      exact absurd (sameFamily ▸ sameValue ▸ following.value_le) small

/-- There is no step exactly from the last address of a family. -/
theorem next?_eq_none_iff {address : Address} :
    address.next? = none ↔ address.value = address.family.allOnes := by
  have bounded := address.value_le
  rw [next?]
  split <;> simp <;> omega

@[simp] theorem length_octets (address : Address) :
    address.octets.length = address.family.octetCount := by
  simp [octets]

end Address

end IpBlocks
