import IpBlocks.Proofs.Span.Tiling
import Mathlib.Data.List.Nodup
import Mathlib.Data.List.Pairwise
import Mathlib.Data.List.Perm.Subperm
import Mathlib.Tactic.Choose

namespace IpBlocks

/-!
# Minimality of a split

Every block that lies within a span lies within one of the blocks of a greedy
run (`Span.Greedy.absorbs`): the first emitted block that reaches the network
of the given block would otherwise not have been the widest one.

So each block of a competing cover goes into one emitted block, and each
emitted block is needed for some of them.  This gives the bound on the length
of the cover, and leaves no choice where the bound is met.
-/

namespace Span

namespace Takes

variable {span : Span} {cursor : Address} {taken block : Block}

/-- The block taken reaches from the cursor to its last address. -/
theorem network_mem
    (takes : span.Takes cursor taken)
    (member : cursor ∈ span)
    (sameFamily : block.family = span.family)
    (behind : cursor.value ≤ block.network.value)
    (reached : block.network.value ≤ taken.last.value) :
    block.network ∈ taken := by
  refine ⟨sameFamily.trans (takes.family_eq member).symm, ?_, reached⟩
  rw [takes.network_eq]
  exact behind

/-- A block that starts within the block taken is not wider than that. -/
theorem absorbs
    (takes : span.Takes cursor taken)
    (starts : block.network ∈ taken)
    (within : block.last.value ≤ span.last.value)
    {address : Address}
    (inside : address ∈ block) :
    address ∈ taken := by
  have longer : taken.prefixLen ≤ block.prefixLen := by
    by_contra wider
    have sameNetwork : block.network = taken.network :=
      Block.network_eq_of_network_mem starts (Nat.le_of_not_le wider)
    exact wider (takes.widest block (sameNetwork.trans takes.network_eq) within)
  exact Block.mem_of_network_mem starts longer inside

end Takes

namespace Greedy

variable {span : Span} {cursor : Address} {blocks : List Block}

/-- A block within the rest of a span lies within a block of the run. -/
theorem absorbs
    (run : span.Greedy cursor blocks)
    (member : cursor ∈ span)
    {block : Block}
    (sameFamily : block.family = span.family)
    (behind : cursor.value ≤ block.network.value)
    (within : block.last.value ≤ span.last.value) :
    ∃ outer ∈ blocks, ∀ address ∈ block, address ∈ outer := by
  have order := block.network_le_last
  induction run with
  | @final cursor taken takes reached =>
      have starts : block.network ∈ taken :=
        takes.network_mem member sameFamily behind
          (reached ▸ order.trans within)
      refine ⟨taken, List.mem_singleton_self taken, ?_⟩
      intro address inside
      exact takes.absorbs starts within inside
  | @step cursor following taken later takes inFront next run
      inductionHypothesis =>
      by_cases inHead : block.network.value ≤ taken.last.value
      · have starts : block.network ∈ taken :=
          takes.network_mem member sameFamily behind inHead
        refine ⟨taken, List.mem_cons_self, ?_⟩
        intro address inside
        exact takes.absorbs starts within inside
      · have value := (Address.next?_eq_some_iff.mp next).2
        obtain ⟨outer, inLater, contains⟩ :=
          inductionHypothesis (following_mem member takes inFront next)
            (by omega)
        exact ⟨outer, List.mem_cons_of_mem taken inLater, contains⟩

end Greedy

end Span

/-- No address lies in two blocks of a tiling. -/
theorem Tiles.eq_of_mem
    {family : Family}
    {first last : Nat}
    {blocks : List Block}
    (tiles : Tiles family last first blocks)
    {one other : Block}
    (oneMember : one ∈ blocks)
    (otherMember : other ∈ blocks)
    {address : Address}
    (inOne : address ∈ one)
    (inOther : address ∈ other) :
    one = other := by
  have symmetric :
      Std.Symm fun one other : Block =>
        ∀ address ∈ one, address ∉ other :=
    ⟨fun _ _ apart address inside outside => apart address outside inside⟩
  have apart :
      blocks.Pairwise fun one other =>
        ∀ address ∈ one, address ∉ other := by
    apply tiles.pairwise_last_lt.imp
    intro earlier later inFront address inEarlier inLater
    have := inEarlier.2.2
    have := inLater.2.1
    omega
  by_contra different
  exact apart.forall oneMember otherMember different address inOne inOther

namespace Span.Greedy

variable {span : Span} {blocks cover : List Block}

/-- Each block of a cover lies in a block of the run. -/
theorem exists_outer
    (run : span.Greedy span.first blocks)
    (covers :
      ∀ address : Address,
        (∃ block ∈ cover, address ∈ block) ↔ address ∈ span)
    {block : Block}
    (member : block ∈ cover) :
    ∃ outer ∈ blocks, ∀ address ∈ block, address ∈ outer := by
  have network : block.network ∈ span :=
    (covers block.network).mp ⟨block, member, block.network_mem⟩
  have last : block.last ∈ span :=
    (covers block.last).mp ⟨block, member, block.last_mem⟩
  exact run.absorbs span.first_mem network.1 network.2.1 last.2.2

/--
Each block of a cover goes into one block of the run, and those that go into
a block of the run cover it.
-/
theorem exists_assignment
    (run : span.Greedy span.first blocks)
    (covers :
      ∀ address : Address,
        (∃ block ∈ cover, address ∈ block) ↔ address ∈ span) :
    ∃ outer : Block → Block,
      (∀ block ∈ cover,
        outer block ∈ blocks ∧ ∀ address ∈ block, address ∈ outer block) ∧
      ∀ emitted ∈ blocks, ∀ address ∈ emitted,
        ∃ block ∈ cover, outer block = emitted ∧ address ∈ block := by
  have tiles := run.tiles span.first_mem
  have exists_outer :
      ∀ block : Block, ∃ outer : Block,
        block ∈ cover →
          outer ∈ blocks ∧ ∀ address ∈ block, address ∈ outer := by
    intro block
    by_cases member : block ∈ cover
    · obtain ⟨outer, outerMember, contains⟩ :=
        run.exists_outer covers member
      exact ⟨outer, fun _ => ⟨outerMember, contains⟩⟩
    · exact ⟨block, fun present => absurd present member⟩
  choose outer outerOf using exists_outer
  refine ⟨outer, outerOf, ?_⟩
  intro emitted emittedMember address inside
  obtain ⟨emittedFamily, behind, within⟩ :=
    tiles.bounds_of_mem emittedMember
  have inSpan : address ∈ span :=
    ⟨inside.1.trans emittedFamily, behind.trans inside.2.1,
      inside.2.2.trans within⟩
  obtain ⟨block, member, inBlock⟩ := (covers address).mpr inSpan
  obtain ⟨outerMember, contains⟩ := outerOf block member
  -- An address lies in one emitted block only, so its block goes into that.
  exact
    ⟨block, member,
      tiles.eq_of_mem outerMember emittedMember
        (contains address inBlock) inside,
      inBlock⟩

/--
A cover has at least as many blocks as the run, and if it has no more, then
it consists of the blocks of the run.
-/
theorem length_le_of_covers
    (run : span.Greedy span.first blocks)
    (covers :
      ∀ address : Address,
        (∃ block ∈ cover, address ∈ block) ↔ address ∈ span) :
    blocks.length ≤ cover.length ∧
      (cover.length = blocks.length → cover.Perm blocks) := by
  have nodup := (run.tiles span.first_mem).nodup
  obtain ⟨outer, outerOf, covered⟩ := run.exists_assignment covers
  have needed : blocks ⊆ cover.map outer := by
    intro emitted emittedMember
    obtain ⟨block, member, goesInto, -⟩ :=
      covered emitted emittedMember emitted.network emitted.network_mem
    exact List.mem_map.mpr ⟨block, member, goesInto⟩
  have subperm : blocks.Subperm (cover.map outer) :=
    List.subperm_of_subset nodup needed
  have bounded := subperm.length_le
  rw [List.length_map] at bounded
  refine ⟨bounded, ?_⟩
  intro sameLength
  have perm : blocks.Perm (cover.map outer) := by
    apply subperm.perm_of_length_le
    rw [List.length_map, sameLength]
  have distinct : (cover.map outer).Nodup :=
    perm.nodup_iff.mp nodup
  -- Alone in its emitted block, a block has to fill it.
  have fills : ∀ block ∈ cover, outer block = block := by
    intro block member
    obtain ⟨outerMember, contains⟩ := outerOf block member
    apply Block.eq_of_mem_iff
    intro address
    refine ⟨?_, contains address⟩
    intro inside
    obtain ⟨other, otherMember, sameOuter, inOther⟩ :=
      covered (outer block) outerMember address inside
    have same : other = block :=
      List.inj_on_of_nodup_map distinct otherMember member sameOuter
    exact same ▸ inOther
  have unchanged : cover.map outer = cover := by
    rw [List.map_congr_left fills, List.map_id']
  rw [unchanged] at perm
  exact perm.symm

end Span.Greedy

/--
No list of blocks that covers exactly the addresses between two addresses is
shorter than the split, and none of the same length has other blocks.
-/
theorem split_is_smallest_cover
    {one other : Address}
    (sameFamily : one.family = other.family) :
    ∃ blocks : List Block,
      split one other = .ok blocks ∧
        ∀ cover : List Block,
          (∀ address : Address,
            (∃ block ∈ cover, address ∈ block) ↔
              address.family = one.family ∧
                min one.value other.value ≤ address.value ∧
                  address.value ≤ max one.value other.value) →
            blocks.length ≤ cover.length ∧
              (cover.length = blocks.length → cover.Perm blocks) := by
  obtain ⟨span, blocks, splits, run, -, family, first, last⟩ :=
    split_eq_ok sameFamily
  refine ⟨blocks, splits, ?_⟩
  intro cover covers
  apply run.length_le_of_covers
  intro address
  rw [covers, Span.mem_iff, family, first, last]

/-- The addresses from 1 to 4 as a single, a pair and a single, in any order. -/
theorem split_is_smallest_cover_one_to_four :
    let one := Address.truncated .v4 1
    let other := Address.truncated .v4 4
    let cover : List Block :=
      [⟨.truncated .v4 2, 31, by decide, by decide⟩,
        ⟨.truncated .v4 4, 32, by decide, by decide⟩,
        ⟨.truncated .v4 1, 32, by decide, by decide⟩]
    one.family = other.family ∧
      (∀ address : Address,
        (∃ block ∈ cover, address ∈ block) ↔
          address.family = one.family ∧
            min one.value other.value ≤ address.value ∧
              address.value ≤ max one.value other.value) ∧
      ∃ blocks : List Block,
        split one other = .ok blocks ∧
          cover.length = blocks.length ∧ cover.Perm blocks := by
  intro one other cover
  have sameFamily : one.family = other.family := rfl
  have covers :
      ∀ address : Address,
        (∃ block ∈ cover, address ∈ block) ↔
          address.family = one.family ∧
            min one.value other.value ≤ address.value ∧
              address.value ≤ max one.value other.value := by
    intro address
    simp only [cover, List.mem_cons, List.not_mem_nil, or_false,
      exists_eq_or_imp, exists_eq_left]
    change
      address.family = .v4 ∧ 2 ≤ address.value ∧ address.value ≤ 3 ∨
          address.family = .v4 ∧ 4 ≤ address.value ∧ address.value ≤ 4 ∨
            address.family = .v4 ∧ 1 ≤ address.value ∧ address.value ≤ 1 ↔
        address.family = .v4 ∧ 1 ≤ address.value ∧ address.value ≤ 4
    constructor
    · rintro (pair | four | one)
      · exact ⟨pair.1, by omega, by omega⟩
      · exact ⟨four.1, by omega, by omega⟩
      · exact ⟨one.1, by omega, by omega⟩
    · rintro ⟨family, behind, within⟩
      simp only [family, true_and]
      omega
  have splits :
      (split one other).toOption.map List.length = some 3 := by
    decide +kernel
  obtain ⟨blocks, splitsInto, smallest⟩ :=
    split_is_smallest_cover sameFamily
  rw [splitsInto] at splits
  have sameLength : cover.length = blocks.length :=
    (Option.some.inj splits).symm
  exact
    ⟨sameFamily, covers, blocks, splitsInto, sameLength,
      (smallest cover covers).2 sameLength⟩

end IpBlocks
