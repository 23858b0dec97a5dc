import IpBlocks.Address.Basic
import IpBlocks.Fault

namespace IpBlocks

/-!
# Blocks

A block is the set of addresses that share a prefix of some length. It is
named by its network, the address in which every bit after the prefix is
clear. The block around an address is found by masking the address.

Blocks are ordered by network and then by prefix length.
-/

/-- The addresses that agree with a network on its first bits. -/
structure Block where
  network : Address
  prefixLen : Nat
  prefixLen_le : prefixLen ≤ network.family.width
  host_clear : network.value &&& network.family.hostMask prefixLen = 0
  deriving DecidableEq

/-- Clearing the host bits of an address leaves none of them. -/
theorem Address.networkBits_and_hostMask
    (address : Address)
    (prefixLen : Nat) :
    (address.value &&& address.family.networkMask prefixLen) &&&
        address.family.hostMask prefixLen =
      0 := by
  rw [Nat.and_assoc, Family.networkMask_and_hostMask, Nat.and_zero]

/-- The block of a given prefix length around an address. -/
def Address.enclosing
    (address : Address)
    (prefixLen : Nat)
    (short : prefixLen ≤ address.family.width) :
    Block where
  network :=
    ⟨address.family,
      address.value &&& address.family.networkMask prefixLen,
      Nat.le_trans Nat.and_le_left address.value_le⟩
  prefixLen :=
    prefixLen
  prefixLen_le :=
    short
  host_clear :=
    address.networkBits_and_hostMask prefixLen

namespace Block

/-- The block around an address, if the prefix fits its family. -/
def around (address : Address) (prefixLen : Nat) : Except Fault Block :=
  if short : prefixLen ≤ address.family.width then
    .ok (address.enclosing prefixLen short)
  else
    .error (.prefixTooLong prefixLen address.family.width)

/-- The family of the addresses of a block. -/
def family (block : Block) : Family :=
  block.network.family

/-- The address whose bits are set exactly within the prefix. -/
def mask (block : Block) : Address where
  family :=
    block.family
  value :=
    block.family.networkMask block.prefixLen
  value_le :=
    Nat.sub_le _ _

/-- The address whose bits are set exactly after the prefix. -/
def wildcard (block : Block) : Address where
  family :=
    block.family
  value :=
    block.family.hostMask block.prefixLen
  value_le :=
    block.family.hostMask_le_allOnes block.prefixLen

/-- The last address of a block, in which every bit after the prefix is set. -/
def last (block : Block) : Address where
  family :=
    block.family
  value :=
    block.network.value ||| block.family.hostMask block.prefixLen
  value_le :=
    Family.le_allOnes_iff.mpr
      (Family.or_lt_addressCount block.network.value_lt
        block.wildcard.value_lt)

/-- The number of addresses of a block. -/
def size (block : Block) : Nat :=
  block.family.blockSize block.prefixLen

/-- An address belongs to a block of its family whose ends enclose it. -/
instance : Membership Address Block where
  mem block address :=
    address.family = block.family ∧
      block.network.value ≤ address.value ∧
        address.value ≤ block.last.value

instance (address : Address) (block : Block) :
    Decidable (address ∈ block) :=
  inferInstanceAs (Decidable (_ ∧ _ ∧ _))

/-- Blocks are ordered by network, and by prefix length on one network. -/
instance : Ord Block where
  compare one other :=
    (compare one.network other.network).then
      (compare one.prefixLen other.prefixLen)

/-- Blocks of one network and one prefix length are the same. -/
@[ext] theorem ext
    {one other : Block}
    (sameNetwork : one.network = other.network)
    (sameLength : one.prefixLen = other.prefixLen) :
    one = other := by
  cases one
  cases other
  cases sameNetwork
  cases sameLength
  rfl

/-- Blocks of a family are ordered by network, and then by prefix length. -/
theorem compare_eq_lt_iff
    {one other : Block}
    (sameFamily : one.family = other.family) :
    compare one other = .lt ↔
      one.network.value < other.network.value ∨
        one.network.value = other.network.value ∧
          one.prefixLen < other.prefixLen := by
  change
    (compare one.network other.network).then
        (compare one.prefixLen other.prefixLen) = .lt ↔ _
  rw [Address.compare_eq_compare_value sameFamily, Ordering.then_eq_lt,
    Nat.compare_eq_lt, Nat.compare_eq_eq, Nat.compare_eq_lt]

/-- The network of a block is a multiple of the size of the block. -/
theorem network_aligned (block : Block) :
    block.network.value % block.size = 0 := by
  have clear := block.host_clear
  rw [Family.and_hostMask] at clear
  exact clear

/-- The last address lies one less than the size behind the network. -/
theorem last_value (block : Block) :
    block.last.value = block.network.value + (block.size - 1) :=
  Family.or_hostMask block.network_aligned

/-- The network around an address is what is left without its offset. -/
theorem network_enclosing_value
    (address : Address)
    {prefixLen : Nat}
    (short : prefixLen ≤ address.family.width) :
    (address.enclosing prefixLen short).network.value =
      address.value - address.value % address.family.blockSize prefixLen :=
  Family.and_networkMask address.value_lt

/-- A block lies around an address if the prefix fits its family. -/
theorem around_eq_ok_iff
    {address : Address}
    {prefixLen : Nat}
    {block : Block} :
    around address prefixLen = .ok block ↔
      ∃ short : prefixLen ≤ address.family.width,
        address.enclosing prefixLen short = block := by
  rw [around]
  split <;> rename_i short
  · simp [short]
  · simp [short]

/-- A block around an address is refused exactly for too long a prefix. -/
theorem around_eq_error_iff
    {address : Address}
    {prefixLen : Nat}
    {fault : Fault} :
    around address prefixLen = .error fault ↔
      address.family.width < prefixLen ∧
        fault = .prefixTooLong prefixLen address.family.width := by
  rw [around]
  split <;> rename_i short
  · simp [Nat.not_lt.mpr short]
  · simp [Nat.not_le.mp short, eq_comm]

end Block

end IpBlocks
