import IpBlocks.Proofs.Span.Minimality

namespace IpBlocks

/-!
# Maximal blocks of a span

The parent of a block has one bit less in its prefix and twice the size.  It
lies within every wider block that meets the block, because blocks that share
an address are nested.

A block of a greedy run absorbs every block of the span that begins in it.  If
the parent of an emitted block lay within the span, it would have to lie within
that block, which is half its size.  Conversely, a block within a wider emitted
block lies there together with its parent.  So the emitted blocks are the
maximal ones (`split_consists_of_maximal_blocks`).
-/

namespace Block

/-- The block of twice the size around a block. -/
def parent (block : Block) : Block :=
  block.network.enclosing (block.prefixLen - 1)
    ((Nat.sub_le _ 1).trans block.prefixLen_le)

theorem around_parent (block : Block) :
    around block.network (block.prefixLen - 1) = .ok block.parent :=
  around_eq_ok_iff.mpr ⟨_, rfl⟩

theorem network_mem_parent (block : Block) :
    block.network ∈ block.parent :=
  mem_enclosing block.network _

/-- A block with a prefix is half of its parent. -/
theorem size_parent
    {block : Block}
    (some : block.prefixLen ≠ 0) :
    block.parent.size = 2 * block.size := by
  have short := block.prefixLen_le
  change
    block.family.blockSize (block.prefixLen - 1) =
      2 * block.family.blockSize block.prefixLen
  rw [Family.blockSize_eq_two_pow, Family.blockSize_eq_two_pow, ← pow_succ']
  congr 1
  change block.prefixLen ≤ block.family.width at short
  omega

/-- No block with a prefix holds its parent. -/
theorem not_contains_parent
    {block : Block}
    (some : block.prefixLen ≠ 0) :
    ¬ ∀ address ∈ block.parent, address ∈ block := by
  intro contains
  have begins := (contains _ block.parent.network_mem).2.1
  have ends := (contains _ block.parent.last_mem).2.2
  have doubled := size_parent some
  have positive := block.size_pos
  have blockEnd := block.last_value_succ
  have parentEnd := block.parent.last_value_succ
  omega

/-- A block lies between two values if its first and its last address do. -/
structure LiesBetween (lowest highest : Nat) (block : Block) : Prop where
  begins : lowest ≤ block.network.value
  ends : block.last.value ≤ highest

/--
A block lies between two values, and no wider block around it does: it is a
whole family, or its parent reaches beyond one of the values.
-/
structure IsMaximalBetween (lowest highest : Nat) (block : Block) :
    Prop where
  liesBetween : block.LiesBetween lowest highest
  widest :
    block.prefixLen = 0 ∨
      ∃ wider,
        around block.network (block.prefixLen - 1) = .ok wider ∧
          ¬ wider.LiesBetween lowest highest

/-- A block within a block that lies between two values does so too. -/
theorem LiesBetween.of_contains
    {lowest highest : Nat}
    {outer inner : Block}
    (lies : outer.LiesBetween lowest highest)
    (contains : ∀ address ∈ inner, address ∈ outer) :
    inner.LiesBetween lowest highest where
  begins := lies.begins.trans (contains _ inner.network_mem).2.1
  ends := (contains _ inner.last_mem).2.2.trans lies.ends

end Block

namespace Span.Greedy

variable {span : Span} {blocks : List Block} {block : Block}

/-- The blocks of a run lie between the ends of the span. -/
theorem liesBetween
    (run : span.Greedy span.first blocks)
    (member : block ∈ blocks) :
    block.LiesBetween span.first.value span.last.value :=
  have bounds := (run.tiles span.first_mem).bounds_of_mem member
  ⟨bounds.2.1, bounds.2.2⟩

/-- A block between the ends of a span lies within exactly one block of a run. -/
theorem existsUnique_outer
    (run : span.Greedy span.first blocks)
    (sameFamily : block.family = span.family)
    (lies : block.LiesBetween span.first.value span.last.value) :
    ∃! outer, outer ∈ blocks ∧ ∀ address ∈ block, address ∈ outer := by
  obtain ⟨outer, member, contains⟩ :=
    run.absorbs span.first_mem sameFamily lies.begins lies.ends
  refine ⟨outer, ⟨member, contains⟩, ?_⟩
  rintro other ⟨otherMember, otherContains⟩
  exact
    (run.tiles span.first_mem).eq_of_mem otherMember member
      (otherContains _ block.network_mem) (contains _ block.network_mem)

/-- No block of a run has a parent between the ends of the span. -/
theorem isMaximalBetween
    (run : span.Greedy span.first blocks)
    (member : block ∈ blocks) :
    block.IsMaximalBetween span.first.value span.last.value := by
  refine ⟨run.liesBetween member, ?_⟩
  rcases Nat.eq_zero_or_pos block.prefixLen with whole | positive
  · exact .inl whole
  · refine .inr ⟨block.parent, block.around_parent, ?_⟩
    intro parentLies
    have sameFamily : block.parent.family = span.family :=
      ((run.tiles span.first_mem).bounds_of_mem member).1
    obtain ⟨outer, ⟨outerMember, contains⟩, -⟩ :=
      run.existsUnique_outer sameFamily parentLies
    -- The network of the block lies in both, so the parent goes into the block.
    have same : outer = block :=
      (run.tiles span.first_mem).eq_of_mem outerMember member
        (contains _ block.network_mem_parent) block.network_mem
    rw [same] at contains
    exact Block.not_contains_parent (Nat.ne_of_gt positive) contains

/-- A maximal block between the ends of a span is one of every run. -/
theorem mem_of_isMaximalBetween
    (run : span.Greedy span.first blocks)
    (sameFamily : block.family = span.family)
    (maximal : block.IsMaximalBetween span.first.value span.last.value) :
    block ∈ blocks := by
  obtain ⟨outer, ⟨member, contains⟩, -⟩ :=
    run.existsUnique_outer sameFamily maximal.liesBetween
  rcases Nat.lt_or_ge outer.prefixLen block.prefixLen with wider | notWider
  · exfalso
    have containsParent : ∀ address ∈ block.parent, address ∈ outer := by
      intro address inParent
      exact
        Block.mem_of_shared (contains _ block.network_mem)
          block.network_mem_parent (Nat.le_sub_one_of_lt wider) inParent
    have parentLies := (run.liesBetween member).of_contains containsParent
    rcases maximal.widest with whole | ⟨parent, isParent, beyond⟩
    · omega
    · rw [block.around_parent, Except.ok.injEq] at isParent
      exact beyond (isParent ▸ parentLies)
  · rw [Block.eq_of_contains contains notWider]
    exact member

end Span.Greedy

/--
The split between two addresses of one family consists of the blocks of the
family that are maximal between them.  So every block between them lies within
exactly one block of the split, and none is ever broken into pieces.
-/
theorem split_consists_of_maximal_blocks
    {one other : Address}
    (sameFamily : one.family = other.family) :
    ∃ blocks : List Block,
      split one other = .ok blocks ∧
        blocks.Nodup ∧
        (∀ block : Block,
          block.family = one.family →
            (block ∈ blocks ↔
              block.IsMaximalBetween (min one.value other.value)
                (max one.value other.value))) ∧
        ∀ block : Block,
          block.family = one.family →
          block.LiesBetween (min one.value other.value)
            (max one.value other.value) →
            ∃! outer, outer ∈ blocks ∧ ∀ address ∈ block, address ∈ outer := by
  obtain ⟨span, blocks, splits, run, -, family, first, last⟩ :=
    split_eq_ok sameFamily
  rw [← first, ← last, ← family]
  refine
    ⟨blocks, splits, (run.tiles span.first_mem).nodup, ?_, ?_⟩
  · intro block blockFamily
    exact ⟨run.isMaximalBetween, run.mem_of_isMaximalBetween blockFamily⟩
  · intro block blockFamily lies
    exact run.existsUnique_outer blockFamily lies

/-- The addresses from 6 down to 1: a pair whose parent begins too early, and a single within it. -/
theorem split_consists_of_maximal_blocks_six_to_one :
    let one := Address.truncated .v4 6
    let other := Address.truncated .v4 1
    let pair : Block := ⟨.truncated .v4 2, 31, by decide, by decide⟩
    let single : Block := ⟨.truncated .v4 3, 32, by decide, by decide⟩
    one.family = other.family ∧
      (pair.family = one.family ∧ pair.IsMaximalBetween 1 6) ∧
      (single.family = one.family ∧ single.LiesBetween 1 6 ∧
        ¬ single.IsMaximalBetween 1 6) ∧
      ∃ blocks : List Block,
        split one other = .ok blocks ∧
          pair ∈ blocks ∧
            single ∉ blocks ∧
              ∃! outer,
                outer ∈ blocks ∧ ∀ address ∈ single, address ∈ outer := by
  intro one other pair single
  have sameFamily : one.family = other.family := rfl
  have pairMaximal : pair.IsMaximalBetween 1 6 := by
    refine ⟨⟨by decide, by decide⟩, .inr ⟨pair.parent, rfl, ?_⟩⟩
    intro parentLies
    exact absurd parentLies.begins (by decide)
  have singleLies : single.LiesBetween 1 6 :=
    ⟨by decide, by decide⟩
  have singleNotMaximal : ¬ single.IsMaximalBetween 1 6 := by
    rintro ⟨-, whole | ⟨wider, isWider, beyond⟩⟩
    · exact absurd whole (by decide)
    · obtain rfl : single.parent = wider := Except.ok.inj isWider
      exact beyond ⟨by decide, by decide⟩
  obtain ⟨blocks, splits, -, mem_iff, unbroken⟩ :=
    split_consists_of_maximal_blocks sameFamily
  exact
    ⟨sameFamily, ⟨rfl, pairMaximal⟩, ⟨rfl, singleLies, singleNotMaximal⟩,
      blocks, splits, (mem_iff pair rfl).mpr pairMaximal,
      fun member => singleNotMaximal ((mem_iff single rfl).mp member),
      unbroken single rfl singleLies⟩

end IpBlocks
