import IpBlocks.Proofs.Target.Showing
import IpBlocks.Proofs.Words.Composition

namespace IpBlocks

/-!
# Invariants of compositions

The words of a value have the invariants that the type of the value carries,
and a composition computes the words of a value (`Composition.exists_value`).
So whatever a composition computes has these invariants, and the operations
that rely on them neither underflow nor lose a bit.
-/

/-- The value of an address is confined to its family. -/
theorem Address.value_words_le (address : Address) :
    address.words.value ≤ address.words.family.allOnesWord := by
  rw [BitVec.le_def, toNat_value_words, family_words,
    Family.toNat_allOnesWord]
  exact address.value_le

namespace Block

theorem prefixLen_words_le (block : Block) :
    block.words.prefixLen ≤ block.words.family.widthWord := by
  rw [BitVec.le_def, toNat_prefixLen_words, family_words,
    Family.toNat_widthWord]
  exact block.prefixLen_le

/-- The network of a block has no host bits. -/
theorem host_clear_words (block : Block) :
    block.words.network.value &&&
        block.words.family.hostMaskWord block.words.prefixLen =
      0 := by
  apply BitVec.eq_of_toNat_eq
  rw [BitVec.toNat_and, Family.toNat_hostMaskWord, toNat_prefixLen_words,
    network_words, Address.toNat_value_words, family_words]
  exact block.host_clear

end Block

theorem Span.ordered_words (span : Span) :
    span.words.first.value ≤ span.words.last.value := by
  rw [BitVec.le_def]
  simpa only [words, Address.toNat_value_words] using span.ordered

/-- Every block of a target has the family of its span. -/
theorem Target.family_of_mem_blocks
    {target : Target}
    {blocks : List Block}
    (splits : target.blocks = .ok blocks)
    {block : Block}
    (member : block ∈ blocks) :
    block.words.family = target.words.range.first.family := by
  obtain ⟨tiling, tiled, tiles⟩ := target.exists_tiles
  obtain rfl := Except.ok.inj (splits.symm.trans tiled)
  have sameFamily := (tiles.bounds_of_mem member).1
  cases target with
  | block single => exact sameFamily
  | span whole => exact sameFamily

namespace Composition

/-- A list of blocks is that of a target with the same range. -/
theorem exists_target
    {made : Composition .blocks}
    {blocks : List Block}
    (computed : made.value? = some blocks) :
    ∃ target : Target,
      made.range? = some target.words.range ∧ target.blocks = .ok blocks := by
  match made with
  | .step .spanBlocks composed =>
      obtain ⟨span, spanned, listed⟩ := Option.bind_eq_some_iff.mp computed
      refine ⟨.span span, ?_, Outcome.toOption_eq_some_iff.mp listed⟩
      rw [range?, words?_eq, spanned]
      rfl
  | .step .targetBlocks composed =>
      obtain ⟨target, targeted, listed⟩ := Option.bind_eq_some_iff.mp computed
      refine ⟨target, ?_, Outcome.toOption_eq_some_iff.mp listed⟩
      rw [range?, words?_eq, targeted]
      rfl
  | .pairing .split one other =>
      obtain ⟨first, isFirst, rest⟩ := Option.bind_eq_some_iff.mp computed
      obtain ⟨last, isLast, listed⟩ := Option.bind_eq_some_iff.mp rest
      have splits := Outcome.toOption_eq_some_iff.mp listed
      cases spanned : Span.between first last with
      | error fault =>
          rw [IpBlocks.split, spanned] at splits
          cases splits
      | ok span =>
          rw [IpBlocks.split, spanned] at splits
          refine ⟨.span span, ?_, splits⟩
          have made : (pairing .between one other).value? = some span := by
            rw [value?, isFirst, Option.bind_some, isLast, Option.bind_some,
              Pairing.value?, spanned]
            rfl
          rw [range?, words?_eq, made]
          rfl

end Composition

/--
What compositions of operations on words compute, they compute as the
operations on values do, and it has the invariants of values.

An address is at most the greatest one of its family, so that the cast of an
IPv4 address to 32 bits keeps its value and the way to the networking library
and back leads to the same address.  A block has a prefix within the width of
its family and no host bits, so that the subtraction for its size does not
underflow.  A span has two ends of one family in order, and each block of a
list has the family of the span that is split.
-/
theorem compositions_keep_invariants :
    (∀ (kind : ValueKind) (made : Composition kind),
      made.words? = made.value?.map kind.words) ∧
    (∀ address : Address, address.words.toHost.octets = address.octets) ∧
    (∀ (made : Composition .address) (address : AddressWords),
      made.words? = some address →
        address.value ≤ address.family.allOnesWord ∧
        (address.family = .v4 →
          (address.value.setWidth 32).toNat = address.value.toNat) ∧
        AddressWords.ofHost address.toHost = address) ∧
    (∀ (made : Composition .block) (block : BlockWords),
      made.words? = some block →
        block.prefixLen ≤ block.family.widthWord ∧
        block.network.value &&& block.family.hostMaskWord block.prefixLen =
          0 ∧
        BitVec.usubOverflow block.family.widthWord block.prefixLen = false) ∧
    (∀ (made : Composition .span) (span : SpanWords),
      made.words? = some span →
        span.first.family = span.last.family ∧
        span.first.value ≤ span.last.value) ∧
    ∀ (made : Composition .blocks) (blocks : List BlockWords),
      made.words? = some blocks →
        ∃ range,
          made.range? = some range ∧
          ∀ block ∈ blocks, block.family = range.first.family := by
  refine
    ⟨fun _ made => made.words?_eq, Address.octets_toHost, ?_, ?_, ?_, ?_⟩
  · intro made address computed
    obtain ⟨value, -, rfl⟩ := made.exists_value computed
    refine ⟨value.value_words_le, ?_, value.ofHost_toHost⟩
    intro family
    exact (value.toNat_cast_words family).trans value.toNat_value_words.symm
  · intro made block computed
    obtain ⟨value, -, rfl⟩ := made.exists_value computed
    have short := value.prefixLen_words_le
    refine ⟨short, value.host_clear_words, ?_⟩
    exact decide_eq_false (Nat.not_lt.mpr (BitVec.le_def.mp short))
  · intro made span computed
    obtain ⟨value, -, rfl⟩ := made.exists_value computed
    exact ⟨value.sameFamily, value.ordered_words⟩
  · intro made blocks computed
    obtain ⟨values, valued, rfl⟩ := made.exists_value computed
    obtain ⟨target, range, splits⟩ := made.exists_target valued
    refine ⟨target.words.range, range, ?_⟩
    intro block member
    obtain ⟨value, isMember, rfl⟩ := List.mem_map.mp member
    exact Target.family_of_mem_blocks splits isMember

/-- A span with ends from two blocks, one of its blocks, and a word of 33 bits cut to an address. -/
theorem compositions_keep_invariants_across_octets :
    let first : Composition .address :=
      .step .next (.source (.parseAddress "10.0.0.254"))
    let last : Composition .address :=
      .step .last (.source (.parseBlock "10.0.1.0/29"))
    let span : Composition .span := .pairing .between last first
    let blocks : Composition .blocks := .step .spanBlocks span
    let block : Composition .block := .step (.item 1) blocks
    let cut : Composition .address :=
      .source (.truncate .v4 0x10a0000ff)
    let ends : SpanWords := ⟨⟨.v4, 0x0a0000ff⟩, ⟨.v4, 0x0a000107⟩⟩
    let listed : List BlockWords :=
      [⟨⟨.v4, 0x0a0000ff⟩, 32⟩, ⟨⟨.v4, 0x0a000100⟩, 29⟩]
    (span.words? = some ends ∧ ends.first.value ≤ ends.last.value) ∧
    (blocks.words? = some listed ∧ ∀ block ∈ listed, block.family = .v4) ∧
    (block.words? = some ⟨⟨.v4, 0x0a000100⟩, 29⟩ ∧
      BitVec.usubOverflow Family.v4.widthWord 29 = false) ∧
    (cut.words? = some ends.first ∧
      AddressWords.ofHost ends.first.toHost = ends.first) := by
  intro first last span blocks block cut ends listed
  obtain ⟨-, -, addresses, single, spans, lists⟩ :=
    compositions_keep_invariants
  have spanned : span.words? = some ends := by
    decide +kernel
  have split : blocks.words? = some listed := by
    decide +kernel
  have picked : block.words? = some ⟨⟨.v4, 0x0a000100⟩, 29⟩ := by
    decide +kernel
  have kept : cut.words? = some ends.first := by
    decide +kernel
  refine
    ⟨⟨spanned, (spans span ends spanned).2⟩, ⟨split, ?_⟩,
      ⟨picked, (single block _ picked).2.2⟩,
      ⟨kept, (addresses cut _ kept).2.2⟩⟩
  obtain ⟨range, ranged, sameFamily⟩ := lists blocks listed split
  obtain rfl := Option.some.inj (spanned.symm.trans ranged)
  exact sameFamily

/-- Words that no composition computes: one bit too many, and the subtraction underflows. -/
example :
    BitVec.usubOverflow Family.v4.widthWord 33 = true ∧
      (BlockWords.mk ⟨.v4, 0⟩ 33).size = 2 ^ 255 := by
  decide +kernel

end IpBlocks
