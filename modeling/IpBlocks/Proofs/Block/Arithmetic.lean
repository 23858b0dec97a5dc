import IpBlocks.Proofs.Words.Agreement

namespace IpBlocks

/-!
# The arithmetic of blocks

A block is found by masking an address, and its ends, its masks and its size
are all made of masks.  In numbers, masking drops the remainder by the size of
the block, which is a power of two (`Block.Measures`).

So a block is at once an interval of that size, the set of all addresses around
which it lies (`Block.around_eq_ok_iff_mem`), and the set of all addresses that
share its prefix (`Block.mem_iff_sharesPrefix`).  On machine words, where the
masks come from shifting the whole word, the same block is found
(`Block.HasWords`).
-/

namespace Block

/-- What a block around an address is in numbers, with so many addresses in it. -/
structure Measures (block : Block) (address : Address) (count : Nat) :
    Prop where
  network_family : block.network.family = address.family
  network_value : block.network.value = address.value - address.value % count
  last_family : block.last.family = address.family
  last_value : block.last.value = block.network.value + count - 1
  size_eq : block.size = count
  size_between_ends :
    block.size = block.last.value - block.network.value + 1
  wildcard_value : block.wildcard.value = count - 1
  masks_sum :
    block.mask.value + block.wildcard.value = 2 ^ address.family.width - 1
  masks_differ :
    ∀ place < address.family.width,
      block.mask.bit place = !block.wildcard.bit place

/-- The operations on words find a block around an address, and its parts, as well. -/
structure HasWords (block : Block) (address : Address) : Prop where
  around :
    BlockWords.around? address.words (BitVec.ofNat 8 block.prefixLen) =
      some block.words
  mask : block.words.mask = block.mask.words
  wildcard : block.words.wildcard = block.wildcard.words
  last : block.words.last = block.last.words
  size : block.words.size = block.size

variable {block : Block} {address : Address}

/-- A bit of the mask is set if it belongs to the prefix. -/
theorem bit_mask {place : Nat} (inWidth : place < block.family.width) :
    block.mask.bit place = decide (place < block.prefixLen) := by
  have hostSmall :
      block.family.hostMask block.prefixLen < 2 ^ block.family.width := by
    have bounded := block.wildcard.value_lt
    rw [Family.addressCount_eq_two_pow] at bounded
    exact bounded
  have shape :
      block.mask.value =
        2 ^ block.family.width -
          (block.family.hostMask block.prefixLen + 1) := by
    change block.family.networkMask block.prefixLen = _
    rw [Family.networkMask, Family.allOnes_eq]
    omega
  have short : block.prefixLen ≤ block.family.width := block.prefixLen_le
  change block.mask.value.testBit (block.family.width - 1 - place) = _
  rw [shape, Nat.testBit_two_pow_sub_succ hostSmall, Family.hostMask,
    Family.blockSize_eq_two_pow, Nat.testBit_two_pow_sub_one,
    ← decide_not, ← Bool.decide_and, decide_eq_decide]
  omega

/-- A bit of the wildcard is set if it stands behind the prefix. -/
theorem bit_wildcard {place : Nat} (inWidth : place < block.family.width) :
    block.wildcard.bit place = decide (block.prefixLen ≤ place) := by
  change
    (block.family.hostMask block.prefixLen).testBit
        (block.family.width - 1 - place) =
      _
  rw [Family.hostMask, Family.blockSize_eq_two_pow,
    Nat.testBit_two_pow_sub_one, decide_eq_decide]
  omega

/-- The mask and the wildcard add up to the greatest address. -/
theorem mask_add_wildcard (block : Block) :
    block.mask.value + block.wildcard.value = block.family.allOnes :=
  block.family.networkMask_add_hostMask block.prefixLen

/-- The addresses of a block are those with one quotient by its size. -/
theorem mem_iff_div :
    address ∈ block ↔
      address.family = block.family ∧
        address.value / block.size = block.network.value / block.size := by
  obtain ⟨quotient, network⟩ := block.size_dvd_network
  have positive := block.size_pos
  have ends := block.last_value_succ
  have next : block.size * (quotient + 1) = block.last.value + 1 := by
    rw [Nat.mul_succ, ← network, ends]
  have sameQuotient :
      address.value / block.size = quotient ↔
        block.network.value ≤ address.value ∧
          address.value ≤ block.last.value := by
    rw [Nat.div_eq_iff positive, Nat.mul_comm quotient, ← network]
    omega
  rw [mem_iff, network, Nat.mul_div_cancel_left quotient positive,
    ← network, sameQuotient]

/-- The addresses of a block are those that share its prefix. -/
theorem mem_iff_sharesPrefix :
    address ∈ block ↔
      address.SharesPrefix block.network block.prefixLen :=
  mem_iff_div.trans
    (Address.sharesPrefix_iff_div_eq block.prefixLen_le).symm

/-- The addresses of a block are those around which it lies. -/
theorem around_eq_ok_iff_mem {prefixLen : Nat} :
    around address prefixLen = .ok block ↔
      prefixLen = block.prefixLen ∧ address ∈ block := by
  rw [around_eq_ok_iff]
  constructor
  · rintro ⟨short, rfl⟩
    exact ⟨rfl, mem_enclosing address short⟩
  · rintro ⟨rfl, inside⟩
    have short : block.prefixLen ≤ address.family.width :=
      inside.1 ▸ block.prefixLen_le
    have around := mem_enclosing address short
    refine ⟨short, eq_of_mem_iff fun other => ⟨?_, ?_⟩⟩
    · exact mem_of_shared inside around (Nat.le_refl _)
    · exact mem_of_shared around inside (Nat.le_refl _)

/-- The block around an address measures a power of two. -/
theorem measures_enclosing
    (address : Address)
    {prefixLen : Nat}
    (short : prefixLen ≤ address.family.width) :
    (address.enclosing prefixLen short).Measures address
      (2 ^ (address.family.width - prefixLen)) := by
  have size :
      (address.enclosing prefixLen short).size =
        2 ^ (address.family.width - prefixLen) :=
    address.family.blockSize_eq_two_pow prefixLen
  have network := network_enclosing_value address short
  rw [Family.blockSize_eq_two_pow] at network
  have positive := (address.enclosing prefixLen short).size_pos
  have ends := (address.enclosing prefixLen short).last_value_succ
  refine
    { network_family := rfl
      network_value := network
      last_family := rfl
      last_value := ?_
      size_eq := size
      size_between_ends := ?_
      wildcard_value := ?_
      masks_sum := ?_
      masks_differ := ?_ }
  · rw [← size]
    omega
  · omega
  · rw [← size]
    rfl
  · rw [← Family.allOnes_eq]
    exact (address.enclosing prefixLen short).mask_add_wildcard
  · intro place inWidth
    rw [bit_mask inWidth, bit_wildcard inWidth, ← decide_not,
      decide_eq_decide]
    omega

/-- The block around an address is found on words as well. -/
theorem hasWords_enclosing
    (address : Address)
    {prefixLen : Nat}
    (short : prefixLen ≤ address.family.width) :
    (address.enclosing prefixLen short).HasWords address where
  around := by
    have read := (address.enclosing prefixLen short).toNat_prefixLen_words
    have found :
        around address prefixLen =
          .ok (address.enclosing prefixLen short) :=
      around_eq_ok_iff.mpr ⟨short, rfl⟩
    change (BitVec.ofNat 8 prefixLen).toNat = prefixLen at read
    change BlockWords.around? address.words (BitVec.ofNat 8 prefixLen) = _
    rw [around?_words, read, found]
    rfl
  mask := mask_words _
  wildcard := wildcard_words _
  last := last_words _
  size := size_words _

/--
Around every address lies a block of each prefix length within the width, and
masking with that prefix is division by the size of the block, on numbers and
on machine words alike.  Of all addresses of any family, exactly those between
the ends of the block have it around them, and they are those that share the
prefix.  A longer prefix is refused.
-/
theorem masking_is_division (address : Address) (prefixLen : Nat) :
    (prefixLen ≤ address.family.width →
      ∃ block : Block,
        around address prefixLen = .ok block ∧
        block.prefixLen = prefixLen ∧
        block.Measures address (2 ^ (address.family.width - prefixLen)) ∧
        block.HasWords address ∧
        ∀ other : Address,
          ((other.family = block.family ∧
              block.network.value ≤ other.value ∧
                other.value ≤ block.last.value) ↔
            around other prefixLen = .ok block) ∧
          (around other prefixLen = .ok block ↔
            other.SharesPrefix address prefixLen)) ∧
    (address.family.width < prefixLen →
      around address prefixLen =
          .error (.prefixTooLong prefixLen address.family.width) ∧
        ∀ word : BitVec 8,
          word.toNat = prefixLen →
            BlockWords.around? address.words word = none) := by
  constructor
  · intro short
    have found :
        around address prefixLen =
          .ok (address.enclosing prefixLen short) :=
      around_eq_ok_iff.mpr ⟨short, rfl⟩
    have around_iff (other : Address) :
        around other prefixLen =
            .ok (address.enclosing prefixLen short) ↔
          other ∈ address.enclosing prefixLen short := by
      rw [around_eq_ok_iff_mem]
      exact and_iff_right rfl
    refine
      ⟨_, found, rfl, measures_enclosing address short,
        hasWords_enclosing address short, ?_⟩
    intro other
    refine ⟨(around_iff other).symm, (around_iff other).trans ?_⟩
    -- The prefix of the network is that of the address.
    have ofNetwork :=
      mem_iff_sharesPrefix.mp (mem_enclosing address short)
    rw [mem_iff_sharesPrefix]
    exact
      ⟨fun shared => shared.trans ofNetwork.symm,
        fun shared => shared.trans ofNetwork⟩
  · intro long
    have refused :
        around address prefixLen =
          .error (.prefixTooLong prefixLen address.family.width) :=
      around_eq_error_iff.mpr ⟨long, rfl⟩
    refine ⟨refused, ?_⟩
    rintro word rfl
    rw [around?_words, refused]
    rfl

/-- All addresses of the greater family, and a prefix of one bit too many. -/
theorem masking_is_division_at_both_ends :
    let address := Address.truncated .v6 0x20010db8000000000000000000000001
    let other := Address.truncated .v6 5
    let short := Address.truncated .v4 0x0a000001
    (0 ≤ address.family.width ∧
      ∃ block : Block,
        around address 0 = .ok block ∧
        block.size = 2 ^ 128 ∧
        block.mask.value + block.wildcard.value = 2 ^ 128 - 1 ∧
        block.words.size = 2 ^ 128 ∧
        around other 0 = .ok block ∧
        other.SharesPrefix address 0) ∧
    (short.family.width < 33 ∧
      around short 33 = .error (.prefixTooLong 33 32) ∧
      (33 : BitVec 8).toNat = 33 ∧
      BlockWords.around? short.words 33 = none) := by
  intro address other short
  have within : 0 ≤ address.family.width := Nat.zero_le _
  have beyond : short.family.width < 33 := by decide
  have read : (33 : BitVec 8).toNat = 33 := by decide
  obtain ⟨block, found, -, measures, hasWords, isAround⟩ :=
    (masking_is_division address 0).1 within
  obtain ⟨refused, unfound⟩ := (masking_is_division short 33).2 beyond
  have sharesNothing : other.SharesPrefix address 0 :=
    ⟨rfl, fun place inPrefix => absurd inPrefix (Nat.not_lt_zero place)⟩
  exact
    ⟨⟨within, block, found, measures.size_eq, measures.masks_sum,
        hasWords.size.trans measures.size_eq,
        (isAround other).2.mpr sharesNothing, sharesNothing⟩,
      beyond, refused, read, unfound 33 read⟩

end Block

end IpBlocks
