import IpBlocks.Proofs.Span.Tiling

namespace IpBlocks

/-!
# IPv4 inside IPv6

Under any 96 leading bits there is a copy of the IPv4 addresses among the IPv6
addresses.  A block of `n` leading bits corresponds to the block of `n + 96`
leading bits of the copy, which has the same size and the same host bits.

Splitting runs through the copy step by step as it runs through the original
(`Span.Greedy.embed`): no block that starts in the copy and is wider than the
copy could end in it, so the wider family never offers a wider block.
-/

/-- The 96 bits in front of the copy of an IPv4 address. -/
abbrev LeadingBits : Type :=
  Fin (2 ^ 96)

namespace Family

/-- What is left behind a prefix has the same size in the copy. -/
theorem blockSize_add (prefixLen : Nat) :
    v6.blockSize (prefixLen + 96) = v4.blockSize prefixLen := by
  have sameBits : 128 - (prefixLen + 96) = 32 - prefixLen := by
    omega
  exact congrArg (1 <<< ·) sameBits

/-- The leading bits of the copy leave every IPv4 prefix aligned. -/
theorem blockSize_dvd_leading (prefixLen upper : Nat) :
    v4.blockSize prefixLen ∣ 2 ^ 32 * upper :=
  Dvd.dvd.mul_right (v4.blockSize_dvd_addressCount prefixLen) upper

end Family

namespace Address

/-- The copy of an IPv4 address behind some leading bits. -/
def embed
    (upper : LeadingBits)
    (address : Address)
    (isV4 : address.family = .v4) :
    Address where
  family :=
    .v6
  value :=
    2 ^ 32 * upper + address.value
  value_le := by
    have leading := upper.isLt
    have trailing := address.value_le
    rw [isV4] at trailing
    have shortLast : Family.v4.allOnes = 2 ^ 32 - 1 := rfl
    have longLast : Family.v6.allOnes = 2 ^ 128 - 1 := rfl
    omega

end Address

namespace Block

/-- The copy of an IPv4 block behind some leading bits. -/
def embed
    (upper : LeadingBits)
    (block : Block)
    (isV4 : block.family = .v4) :
    Block where
  network :=
    block.network.embed upper isV4
  prefixLen :=
    block.prefixLen + 96
  prefixLen_le := by
    have short := block.prefixLen_le
    rw [show block.network.family = .v4 from isV4] at short
    exact Nat.add_le_add_right short 96
  host_clear := by
    have aligned := block.size_dvd_network
    rw [size, isV4] at aligned
    rw [Family.and_hostMask]
    apply Nat.mod_eq_zero_of_dvd
    change Family.v6.blockSize (block.prefixLen + 96) ∣ _
    rw [Family.blockSize_add]
    exact Nat.dvd_add (Family.blockSize_dvd_leading _ _) aligned

variable
  (upper : LeadingBits)
  {block : Block}
  (isV4 : block.family = .v4)

theorem size_embed :
    (block.embed upper isV4).size = block.size := by
  rw [size, size, isV4]
  exact Family.blockSize_add block.prefixLen

theorem wildcard_embed :
    (block.embed upper isV4).wildcard.value = block.wildcard.value :=
  congrArg (· - 1) (size_embed upper isV4)

theorem last_embed :
    (block.embed upper isV4).last = block.last.embed upper isV4 := by
  refine Address.ext rfl ?_
  rw [last_value, size_embed]
  change _ = 2 ^ 32 * upper + block.last.value
  rw [last_value, ← Nat.add_assoc]
  rfl

/-- The block around the copy of an address is the copy of the block around it. -/
theorem around_embed
    {address : Address}
    (addressV4 : address.family = .v4)
    {prefixLen : Nat}
    (short : prefixLen ≤ 32) :
    ∃ block, ∃ isV4 : block.family = .v4,
      around address prefixLen = .ok block ∧
        around (address.embed upper addressV4) (prefixLen + 96) =
          .ok (block.embed upper isV4) := by
  have shortHere : prefixLen ≤ address.family.width := by
    rw [addressV4]
    exact short
  have shortThere :
      prefixLen + 96 ≤ (address.embed upper addressV4).family.width :=
    Nat.add_le_add_right short 96
  refine
    ⟨address.enclosing prefixLen shortHere, addressV4,
      around_eq_ok_iff.mpr ⟨shortHere, rfl⟩,
      around_eq_ok_iff.mpr
        ⟨shortThere, Block.ext (Address.ext rfl ?_) rfl⟩⟩
  rw [network_enclosing_value]
  change
    2 ^ 32 * upper + address.value -
        (2 ^ 32 * upper + address.value) %
          Family.v6.blockSize (prefixLen + 96) =
      2 ^ 32 * upper + (address.enclosing prefixLen shortHere).network.value
  rw [network_enclosing_value, Family.blockSize_add, addressV4]
  obtain ⟨count, leading⟩ := Family.blockSize_dvd_leading prefixLen upper
  rw [leading, Nat.mul_add_mod, Nat.add_sub_assoc (Nat.mod_le _ _)]

end Block

namespace Span

/-- The copy of a span of IPv4 addresses behind some leading bits. -/
def embed
    (upper : LeadingBits)
    (span : Span)
    (isV4 : span.family = .v4) :
    Span where
  first :=
    span.first.embed upper isV4
  last :=
    span.last.embed upper (span.sameFamily.symm.trans isV4)
  sameFamily :=
    rfl
  ordered :=
    Nat.add_le_add_left span.ordered _

variable
  (upper : LeadingBits)
  {span : Span}
  (isV4 : span.family = .v4)

/-- The copy of a span lies between the copies of the ends of the span. -/
theorem between_embed
    {one other : Address}
    (oneV4 : one.family = .v4)
    (otherV4 : other.family = .v4) :
    ∃ span, ∃ isV4 : span.family = .v4,
      between one other = .ok span ∧
        between (one.embed upper oneV4) (other.embed upper otherV4) =
          .ok (span.embed upper isV4) := by
  have sameFamily : one.family = other.family :=
    oneV4.trans otherV4.symm
  by_cases ordered : one.value ≤ other.value
  · refine ⟨⟨one, other, sameFamily, ordered⟩, oneV4, ?_, ?_⟩
    · simp [between, sameFamily, ordered]
    · simp [between, Address.embed, ordered, embed]
  · refine
      ⟨⟨other, one, sameFamily.symm, Nat.le_of_not_le ordered⟩, otherV4,
        ?_, ?_⟩
    · simp [between, sameFamily, ordered]
    · simp [between, Address.embed, ordered, embed]

/--
A block that starts in the copy of a span and ends in it has all leading bits
in its prefix: a wider one would reach beyond the last copy.
-/
theorem le_prefixLen_of_embed
    {cursor : Address}
    (member : cursor ∈ span)
    {other : Block}
    (network : other.network = cursor.embed upper (member.1.trans isV4))
    (within : other.last.value ≤ (span.embed upper isV4).last.value) :
    96 ≤ other.prefixLen := by
  have isV6 : other.family = .v6 :=
    congrArg Address.family network
  have starts : other.network.value = 2 ^ 32 * upper + cursor.value :=
    congrArg Address.value network
  have lastSmall : span.last.value < 2 ^ 32 := by
    have bounded := span.last.value_lt
    rwa [← span.sameFamily, show span.first.family = .v4 from isV4]
      at bounded
  have ended := other.last_value_succ
  change other.last.value ≤ 2 ^ 32 * upper + span.last.value at within
  by_contra wider
  have moreBits : 33 ≤ other.hostBits := by
    rw [Block.hostBits, isV6]
    change 33 ≤ 128 - other.prefixLen
    omega
  have larger : 2 ^ 33 ≤ other.size := by
    rw [other.size_eq_two_pow]
    exact Nat.pow_le_pow_right Nat.two_pos moreBits
  omega

/-- A block that starts in the copy of a span and ends in it is itself a copy. -/
theorem exists_block_of_embed
    {cursor : Address}
    (member : cursor ∈ span)
    {other : Block}
    (network : other.network = cursor.embed upper (member.1.trans isV4))
    (within : other.last.value ≤ (span.embed upper isV4).last.value) :
    ∃ inner : Block, ∃ innerV4 : inner.family = .v4,
      inner.network = cursor ∧
        inner.last.value ≤ span.last.value ∧
          inner.embed upper innerV4 = other := by
  have cursorV4 : cursor.family = .v4 := member.1.trans isV4
  obtain ⟨prefixLen, length⟩ :=
    Nat.exists_eq_add_of_le'
      (le_prefixLen_of_embed upper isV4 member network within)
  have short : prefixLen ≤ cursor.family.width := by
    have bounded := other.prefixLen_le
    rw [length, network] at bounded
    rw [cursorV4]
    exact Nat.le_of_add_le_add_right bounded
  -- The leading bits are a multiple of every size that fits into the copy.
  have aligned : cursor.family.blockSize prefixLen ∣ cursor.value := by
    have copyAligned := other.size_dvd_network
    rw [Block.size, Block.family, network, length] at copyAligned
    rw [cursorV4]
    exact
      (Nat.dvd_add_right (Family.blockSize_dvd_leading prefixLen upper)).mp
        (Family.blockSize_add prefixLen ▸ copyAligned)
  obtain ⟨inner, rfl, rfl⟩ :=
    Block.exists_network_eq cursor prefixLen short aligned
  have innerV4 : inner.family = .v4 := cursorV4
  have isCopy : inner.embed upper innerV4 = other :=
    Block.ext network.symm length.symm
  refine ⟨inner, innerV4, rfl, ?_, isCopy⟩
  rw [← isCopy, Block.last_embed] at within
  exact Nat.le_of_add_le_add_left within

namespace Takes

variable {cursor : Address} {block : Block}

/-- The widest block in the copy is the copy of the widest block. -/
theorem embed
    (taken : span.Takes cursor block)
    (member : cursor ∈ span)
    (blockV4 : block.family = .v4) :
    (span.embed upper isV4).Takes
      (cursor.embed upper (member.1.trans isV4))
      (block.embed upper blockV4) := by
  refine ⟨?_, ?_, ?_⟩
  · obtain rfl := taken.network_eq
    rfl
  · rw [Block.last_embed]
    exact Nat.add_le_add_left taken.last_le _
  · intro other network within
    obtain ⟨inner, innerV4, innerNetwork, innerLast, rfl⟩ :=
      exists_block_of_embed upper isV4 member network within
    exact
      Nat.add_le_add_right (taken.widest inner innerNetwork innerLast) 96

end Takes

/-- A run in the copy takes the copies of the blocks of the run. -/
theorem Greedy.embed
    {cursor : Address}
    {blocks : List Block}
    (run : span.Greedy cursor blocks)
    (member : cursor ∈ span)
    (allV4 : ∀ block ∈ blocks, block.family = .v4) :
    (span.embed upper isV4).Greedy
      (cursor.embed upper (member.1.trans isV4))
      (blocks.pmap (Block.embed upper) allV4) := by
  induction run with
  | @final cursor block taken reached =>
      have blockV4 := allV4 block List.mem_cons_self
      refine .final (taken.embed upper isV4 member blockV4) ?_
      rw [Block.last_embed]
      exact congrArg (2 ^ 32 * upper.val + ·) reached
  | @step cursor following block later taken inFront next run
      inductionHypothesis =>
      have blockV4 := allV4 block List.mem_cons_self
      have followingMember := following_mem member taken inFront next
      obtain ⟨sameFamily, value⟩ := Address.next?_eq_some_iff.mp next
      have copiedNext :
          (block.embed upper blockV4).last.next? =
            some (following.embed upper (followingMember.1.trans isV4)) := by
        rw [Block.last_embed, Address.next?_eq_some_iff]
        exact ⟨rfl, congrArg (2 ^ 32 * upper.val + ·) value⟩
      refine
        .step (taken.embed upper isV4 member blockV4) ?_ copiedNext
          (inductionHypothesis followingMember
            fun other otherMember =>
              allV4 other (List.mem_cons_of_mem block otherMember))
      rw [Block.last_embed]
      exact Nat.add_lt_add_left inFront _

end Span

/--
IPv6 blocks around the copies of IPv4 addresses, their ends, sizes and host
bits, and the blocks between two copies, are the copies of what there is for
the IPv4 addresses themselves.
-/
theorem copies_are_handled_alike
    (upper : LeadingBits)
    {one other : Address}
    (oneV4 : one.family = .v4)
    (otherV4 : other.family = .v4) :
    (∀ prefixLen ≤ 32, ∃ block, ∃ isV4 : block.family = .v4,
      Block.around one prefixLen = .ok block ∧
        Block.around (one.embed upper oneV4) (prefixLen + 96) =
          .ok (block.embed upper isV4)) ∧
      (∀ (block : Block) (isV4 : block.family = .v4),
        (block.embed upper isV4).network =
            block.network.embed upper isV4 ∧
          (block.embed upper isV4).prefixLen = block.prefixLen + 96 ∧
          (block.embed upper isV4).last = block.last.embed upper isV4 ∧
          (block.embed upper isV4).size = block.size ∧
          (block.embed upper isV4).wildcard.value =
            block.wildcard.value) ∧
      ∃ (blocks : List Block) (allV4 : ∀ block ∈ blocks, block.family = .v4),
        split one other = .ok blocks ∧
          split (one.embed upper oneV4) (other.embed upper otherV4) =
            .ok (blocks.pmap (Block.embed upper) allV4) := by
  refine ⟨?_, ?_, ?_⟩
  · intro prefixLen short
    exact Block.around_embed upper oneV4 short
  · intro block isV4
    exact
      ⟨rfl, rfl, Block.last_embed upper isV4, Block.size_embed upper isV4,
        Block.wildcard_embed upper isV4⟩
  · obtain ⟨span, isV4, spanned, copied⟩ :=
      Span.between_embed upper oneV4 otherV4
    obtain ⟨blocks, splits, run, -⟩ := span.blocks_eq_ok
    have allV4 : ∀ block ∈ blocks, block.family = .v4 := by
      intro block member
      have tiles := run.tiles span.first_mem
      exact (tiles.bounds_of_mem member).1.trans isV4
    have copiedRun := run.embed upper isV4 span.first_mem allV4
    have bounded := copiedRun.length_le (span.embed upper isV4).first_mem
    refine ⟨blocks, allV4, ?_, ?_⟩
    · rw [split, spanned]
      exact splits
    · rw [split, copied]
      exact
        copiedRun.blocksFrom_eq_ok (span.embed upper isV4).first_mem
          (Nat.le_trans bounded (Nat.sub_le _ 2))

/-- Behind the bits of mapped addresses, up to the last IPv4 address. -/
theorem copies_are_handled_alike_when_mapped :
    let upper : LeadingBits := 0xffff
    let one := Address.truncated .v4 Family.v4.allOnes
    let other := Address.truncated .v4 1
    ∃ (oneV4 : one.family = .v4) (otherV4 : other.family = .v4),
      (∃ block, ∃ isV4 : block.family = .v4,
        Block.around one 0 = .ok block ∧
          Block.around (one.embed upper oneV4) 96 =
            .ok (block.embed upper isV4)) ∧
        ∃ (blocks : List Block)
          (allV4 : ∀ block ∈ blocks, block.family = .v4),
          split one other = .ok blocks ∧
            blocks.length = 32 ∧
              split (one.embed upper oneV4) (other.embed upper otherV4) =
                .ok (blocks.pmap (Block.embed upper) allV4) := by
  intro upper one other
  have counted : (split one other).toOption.map List.length = some 32 := by
    decide +kernel
  obtain ⟨around, -, blocks, allV4, splits, copied⟩ :=
    @copies_are_handled_alike upper one other rfl rfl
  rw [splits] at counted
  exact
    ⟨rfl, rfl, around 0 (Nat.zero_le 32), blocks, allV4, splits,
      Option.some.inj counted, copied⟩

end IpBlocks
