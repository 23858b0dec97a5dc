import IpBlocks.Block.Basic
import Mathlib.Algebra.Order.Ring.Nat

namespace IpBlocks

/-!
# Nesting of blocks

The size of a block is a power of two, and its network is a multiple of its
size.  So the block of a shorter prefix cannot begin strictly inside a block
of a longer one: where the network of one block lies in another block, either
the whole block lies in it, or both begin at the same address.

Two blocks that share any address are nested for the same reason: the one with
the longer prefix lies in the other (`Block.mem_of_shared`).
-/

/-- A multiple of a size leaves room for that size below a greater multiple. -/
theorem add_le_of_dvd_of_lt
    {size lower upper : Nat}
    (lowerAligned : size ∣ lower)
    (upperAligned : size ∣ upper)
    (below : lower < upper) :
    lower + size ≤ upper := by
  have room : size ≤ upper - lower :=
    Nat.le_of_dvd (Nat.sub_pos_of_lt below)
      (Nat.dvd_sub upperAligned lowerAligned)
  omega

namespace Family

theorem blockSize_eq_two_pow (family : Family) (prefixLen : Nat) :
    family.blockSize prefixLen = 2 ^ (family.width - prefixLen) :=
  Nat.one_shiftLeft _

theorem addressCount_eq_two_pow (family : Family) :
    family.addressCount = 2 ^ family.width :=
  Nat.one_shiftLeft _

/-- A longer prefix divides a block into blocks of equal size. -/
theorem blockSize_dvd_blockSize
    (family : Family)
    {shorter longer : Nat}
    (order : shorter ≤ longer) :
    family.blockSize longer ∣ family.blockSize shorter := by
  rw [blockSize_eq_two_pow, blockSize_eq_two_pow]
  exact Nat.pow_dvd_pow 2 (Nat.sub_le_sub_left order family.width)

end Family

namespace Block

theorem size_pos (block : Block) :
    0 < block.size :=
  block.family.blockSize_pos block.prefixLen

theorem size_dvd_network (block : Block) :
    block.size ∣ block.network.value :=
  Nat.dvd_of_mod_eq_zero block.network_aligned

/-- What follows a block is one size behind its network. -/
theorem last_value_succ (block : Block) :
    block.last.value + 1 = block.network.value + block.size := by
  have positive := block.size_pos
  have final := block.last_value
  omega

theorem network_le_last (block : Block) :
    block.network.value ≤ block.last.value := by
  rw [last_value]
  exact Nat.le_add_right _ _

theorem mem_iff {block : Block} {address : Address} :
    address ∈ block ↔
      address.family = block.family ∧
        block.network.value ≤ address.value ∧
          address.value ≤ block.last.value :=
  Iff.rfl

@[simp] theorem network_mem (block : Block) :
    block.network ∈ block :=
  ⟨rfl, Nat.le_refl _, block.network_le_last⟩

@[simp] theorem last_mem (block : Block) :
    block.last ∈ block :=
  ⟨rfl, block.network_le_last, Nat.le_refl _⟩

/-- Blocks of one family with the longer prefix have the smaller size. -/
theorem size_dvd_size
    {outer inner : Block}
    (sameFamily : inner.family = outer.family)
    (longer : outer.prefixLen ≤ inner.prefixLen) :
    inner.size ∣ outer.size := by
  rw [size, size, sameFamily]
  exact outer.family.blockSize_dvd_blockSize longer

/--
A block whose network lies in a block of no longer prefix lies in that block
as a whole.
-/
theorem mem_of_network_mem
    {outer inner : Block}
    (member : inner.network ∈ outer)
    (longer : outer.prefixLen ≤ inner.prefixLen)
    {address : Address}
    (inside : address ∈ inner) :
    address ∈ outer := by
  have sameFamily : inner.family = outer.family := member.1
  have divides := size_dvd_size sameFamily longer
  -- The network of the inner block and the end of the outer one are multiples
  -- of the inner size, so the inner block ends in time.
  have endAligned : inner.size ∣ outer.network.value + outer.size :=
    Nat.dvd_add (divides.trans outer.size_dvd_network) divides
  have outerEnd := outer.last_value_succ
  have innerEnd := inner.last_value_succ
  have below : inner.network.value < outer.network.value + outer.size := by
    have := member.2.2
    omega
  have room :=
    add_le_of_dvd_of_lt inner.size_dvd_network endAligned below
  refine ⟨inside.1.trans sameFamily, member.2.1.trans inside.2.1, ?_⟩
  have := inside.2.2
  omega

/--
A block whose network lies in a block of no shorter prefix begins where that
block begins.
-/
theorem network_eq_of_network_mem
    {outer inner : Block}
    (member : outer.network ∈ inner)
    (longer : outer.prefixLen ≤ inner.prefixLen) :
    outer.network = inner.network := by
  have sameFamily : outer.family = inner.family := member.1
  have divides := size_dvd_size sameFamily.symm longer
  have outerAligned : inner.size ∣ outer.network.value :=
    divides.trans outer.size_dvd_network
  have innerEnd := inner.last_value_succ
  have inFront := member.2.1
  have behind := member.2.2
  have notLater : ¬ inner.network.value < outer.network.value := by
    intro later
    have room :=
      add_le_of_dvd_of_lt inner.size_dvd_network outerAligned later
    omega
  exact Address.ext sameFamily (by omega)

/-- A block of a family is known by its two ends. -/
theorem eq_of_ends
    {one other : Block}
    (sameNetwork : one.network = other.network)
    (sameLast : one.last.value = other.last.value) :
    one = other := by
  have sameFamily : one.family = other.family := by
    rw [family, family, sameNetwork]
  have oneEnd := one.last_value_succ
  have otherEnd := other.last_value_succ
  have sameSize : one.size = other.size := by
    rw [sameNetwork] at oneEnd
    omega
  have sameExponent :
      other.family.width - one.prefixLen =
        other.family.width - other.prefixLen := by
    rw [size, size, sameFamily, Family.blockSize_eq_two_pow,
      Family.blockSize_eq_two_pow] at sameSize
    exact Nat.pow_right_injective (Nat.le_refl 2) sameSize
  have oneShort : one.prefixLen ≤ other.family.width :=
    sameFamily ▸ one.prefixLen_le
  have otherShort : other.prefixLen ≤ other.family.width :=
    other.prefixLen_le
  exact Block.ext sameNetwork (by omega)

/-- Blocks with the same addresses are the same. -/
theorem eq_of_mem_iff
    {one other : Block}
    (sameMembers : ∀ address, address ∈ one ↔ address ∈ other) :
    one = other := by
  have oneNetwork := (sameMembers one.network).mp one.network_mem
  have oneLast := (sameMembers one.last).mp one.last_mem
  have otherNetwork := (sameMembers other.network).mpr other.network_mem
  have otherLast := (sameMembers other.last).mpr other.last_mem
  exact eq_of_ends
    (Address.ext oneNetwork.1
      (Nat.le_antisymm otherNetwork.2.1 oneNetwork.2.1))
    (Nat.le_antisymm oneLast.2.2 otherLast.2.2)

/-- The block around an address holds that address. -/
theorem mem_enclosing
    (address : Address)
    {prefixLen : Nat}
    (short : prefixLen ≤ address.family.width) :
    address ∈ address.enclosing prefixLen short := by
  have network := network_enclosing_value address short
  have final := (address.enclosing prefixLen short).last_value_succ
  have offset :
      address.value % address.family.blockSize prefixLen <
        address.family.blockSize prefixLen :=
    Nat.mod_lt _ (address.family.blockSize_pos prefixLen)
  have atMost :=
    Nat.mod_le address.value (address.family.blockSize prefixLen)
  change
    (address.enclosing prefixLen short).last.value + 1 =
      (address.enclosing prefixLen short).network.value +
        address.family.blockSize prefixLen at final
  exact ⟨rfl, by omega, by omega⟩

/-- Of two blocks that share an address, the one with the longer prefix begins in the other. -/
theorem network_mem_of_shared
    {outer inner : Block}
    {shared : Address}
    (inOuter : shared ∈ outer)
    (inInner : shared ∈ inner)
    (longer : outer.prefixLen ≤ inner.prefixLen) :
    inner.network ∈ outer := by
  have sameFamily : inner.family = outer.family :=
    inInner.1.symm.trans inOuter.1
  have outerAligned : inner.size ∣ outer.network.value :=
    (size_dvd_size sameFamily longer).trans outer.size_dvd_network
  have innerEnd := inner.last_value_succ
  have behind := inOuter.2.1
  have within := inInner.2.2
  have notEarlier : ¬ inner.network.value < outer.network.value := by
    intro earlier
    have room :=
      add_le_of_dvd_of_lt inner.size_dvd_network outerAligned earlier
    omega
  exact
    ⟨sameFamily, Nat.le_of_not_lt notEarlier,
      inInner.2.1.trans inOuter.2.2⟩

/-- Of two blocks that share an address, the one with the longer prefix lies in the other. -/
theorem mem_of_shared
    {outer inner : Block}
    {shared : Address}
    (inOuter : shared ∈ outer)
    (inInner : shared ∈ inner)
    (longer : outer.prefixLen ≤ inner.prefixLen)
    {address : Address}
    (inside : address ∈ inner) :
    address ∈ outer :=
  mem_of_network_mem (network_mem_of_shared inOuter inInner longer) longer
    inside

/-- A block that lies within a block of no shorter prefix is that block. -/
theorem eq_of_contains
    {outer inner : Block}
    (contains : ∀ address ∈ inner, address ∈ outer)
    (longer : inner.prefixLen ≤ outer.prefixLen) :
    inner = outer := by
  apply eq_of_mem_iff
  intro address
  refine ⟨contains address, ?_⟩
  exact
    mem_of_shared inner.network_mem (contains _ inner.network_mem) longer

end Block

end IpBlocks
