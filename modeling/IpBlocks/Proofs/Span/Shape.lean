import IpBlocks.Proofs.Span.Tiling
import Mathlib.Data.List.Nodup
import Mathlib.Data.List.Pairwise

namespace IpBlocks

/-!
# The shape of a split

A splitting step is stopped by the alignment of the cursor or by the end of the
span.  After a step that the end has stopped, less than the block just taken is
left, and so every later block is narrower than the one before it
(`Span.Greedy.descends`).  After a step that alignment has stopped, the cursor
is more aligned than before, so that the next block is wider or the end stops
that step as well (`Span.Greedy.exists_shape`).

The prefixes of a split therefore fall and then rise
(`split_falls_then_rises`), and none of them occurs more than twice.
-/

namespace Block

/-- A block is wider than another one by at least one bit of its prefix. -/
structure IsWiderThan (wide narrow : Block) : Prop where
  prefixLen_lt : wide.prefixLen < narrow.prefixLen
  size_le : 2 * narrow.size ≤ wide.size

/-- Within a family, a block with more bits after its prefix is wider. -/
theorem isWiderThan_of_hostBits_lt
    {wide narrow : Block}
    (sameFamily : wide.family = narrow.family)
    (fewer : narrow.hostBits < wide.hostBits) :
    wide.IsWiderThan narrow where
  prefixLen_lt := by
    rw [hostBits, hostBits, sameFamily] at fewer
    omega
  size_le := by
    rw [size_eq_two_pow, size_eq_two_pow, ← pow_succ']
    exact Nat.pow_le_pow_right Nat.two_pos fewer

end Block

namespace Span

namespace Takes

variable {span : Span} {cursor following : Address} {block : Block}

/-- A block that ends before its span does has a prefix. -/
theorem hostBits_lt_width
    (taken : span.Takes cursor block)
    (inFront : block.last.value < span.last.value) :
    block.hostBits < span.family.width := by
  have ended := taken.last_succ
  have bounded : span.last.value < 2 ^ span.family.width := by
    rw [← Family.addressCount_eq_two_pow, Span.family, span.sameFamily]
    exact span.last.value_lt
  exact (Nat.pow_lt_pow_iff_right Nat.one_lt_two).mp (by omega)

/-- A block is narrower than what reaches beyond the end of the span. -/
theorem hostBits_lt_of_close
    (taken : span.Takes cursor block)
    {bits : Nat}
    (close : span.last.value + 1 < cursor.value + 2 ^ bits) :
    block.hostBits < bits := by
  have ended := taken.last_succ
  have within := taken.last_le
  exact (Nat.pow_lt_pow_iff_right Nat.one_lt_two).mp (by omega)

/--
If the cursor would have allowed for a wider block, then less than the block
just taken is left behind it.
-/
theorem close_behind
    (taken : span.Takes cursor block)
    (member : cursor ∈ span)
    (inFront : block.last.value < span.last.value)
    (next : block.last.next? = some following)
    (aligned : 2 ^ (block.hostBits + 1) ∣ cursor.value) :
    span.last.value + 1 < following.value + 2 ^ block.hostBits := by
  have value := following_value taken next
  have doubled : 2 ^ (block.hostBits + 1) = 2 * 2 ^ block.hostBits :=
    pow_succ' 2 block.hostBits
  by_contra notClose
  have wider :=
    taken.le_hostBits member (block.hostBits + 1)
      (taken.hostBits_lt_width inFront) aligned (by omega)
  omega

/-- What follows a block is aligned as the block is. -/
theorem aligned_behind
    (taken : span.Takes cursor block)
    (next : block.last.next? = some following) :
    2 ^ block.hostBits ∣ following.value := by
  rw [following_value taken next]
  exact Nat.dvd_add taken.aligned (Nat.dvd_refl _)

end Takes

namespace Greedy

variable {span : Span} {cursor : Address} {blocks : List Block}

/-- The first block of a run is taken at its cursor. -/
theorem head_takes
    {block : Block}
    {later : List Block}
    (run : span.Greedy cursor (block :: later)) :
    span.Takes cursor block := by
  cases run with
  | final taken reached => exact taken
  | step taken inFront next run => exact taken

/--
From an aligned cursor close to the end of the span on, each block is narrower
than the alignment and than all blocks before it.
-/
theorem descends
    (run : span.Greedy cursor blocks)
    (member : cursor ∈ span)
    {bits : Nat}
    (short : bits ≤ span.family.width)
    (aligned : 2 ^ bits ∣ cursor.value)
    (close : span.last.value + 1 < cursor.value + 2 ^ bits) :
    (∀ block ∈ blocks, block.hostBits < bits) ∧
      blocks.Pairwise fun earlier later =>
        later.hostBits < earlier.hostBits := by
  induction run generalizing bits with
  | @final cursor block taken reached =>
      refine ⟨?_, List.pairwise_singleton _ block⟩
      intro single isSingle
      rw [List.mem_singleton.mp isSingle]
      exact taken.hostBits_lt_of_close close
  | @step cursor following block later taken inFront next run
      inductionHypothesis =>
      have below := taken.hostBits_lt_of_close close
      have closeBehind :=
        taken.close_behind member inFront next
          ((Nat.pow_dvd_pow 2 below).trans aligned)
      obtain ⟨laterBelow, descending⟩ :=
        inductionHypothesis (following_mem member taken inFront next)
          (taken.hostBits_le member) (taken.aligned_behind next) closeBehind
      refine
        ⟨List.forall_mem_cons.mpr ⟨below, ?_⟩,
          List.pairwise_cons.mpr ⟨laterBelow, descending⟩⟩
      intro other otherMember
      exact (laterBelow other otherMember).trans below

/-- A run takes wider and wider blocks, and then narrower and narrower ones. -/
theorem exists_shape
    (run : span.Greedy cursor blocks)
    (member : cursor ∈ span) :
    ∃ front back : List Block,
      blocks = front ++ back ∧
        (front.Pairwise fun earlier later =>
          earlier.hostBits < later.hostBits) ∧
        back.Pairwise fun earlier later =>
          later.hostBits < earlier.hostBits := by
  induction run with
  | @final cursor block taken reached =>
      exact ⟨[], [block], rfl, .nil, List.pairwise_singleton _ block⟩
  | @step cursor following block later taken inFront next run
      inductionHypothesis =>
      have followingMember := following_mem member taken inFront next
      by_cases moreAligned : 2 ^ (block.hostBits + 1) ∣ cursor.value
      · -- The end has stopped this step, so the descent begins with it.
        obtain ⟨laterBelow, descending⟩ :=
          run.descends followingMember (taken.hostBits_le member)
            (taken.aligned_behind next)
            (taken.close_behind member inFront next moreAligned)
        exact
          ⟨[], block :: later, rfl, .nil,
            List.pairwise_cons.mpr ⟨laterBelow, descending⟩⟩
      · have short := taken.hostBits_lt_width inFront
        have aligned : 2 ^ (block.hostBits + 1) ∣ following.value := by
          rw [following_value taken next]
          exact two_pow_succ_dvd_add taken.aligned moreAligned
        by_cases close :
          span.last.value + 1 <
            following.value + 2 ^ (block.hostBits + 1)
        · have descending :=
            (run.descends followingMember short aligned close).2
          exact
            ⟨[block], later, rfl, List.pairwise_singleton _ block,
              descending⟩
        · obtain ⟨front, back, rfl, ascending, descending⟩ :=
            inductionHypothesis followingMember
          refine ⟨block :: front, back, rfl, ?_, descending⟩
          refine List.pairwise_cons.mpr ⟨?_, ascending⟩
          cases front with
          | nil =>
              exact fun other impossible => (nomatch impossible)
          | cons second others =>
              have wider : block.hostBits < second.hostBits :=
                run.head_takes.le_hostBits followingMember
                  (block.hostBits + 1) short aligned
                  (Nat.le_of_not_lt close)
              have widest := (List.pairwise_cons.mp ascending).1
              exact
                List.forall_mem_cons.mpr
                  ⟨wider, fun other otherMember =>
                    wider.trans (widest other otherMember)⟩

end Greedy

end Span

/-- Among blocks of different prefixes, none occurs twice. -/
theorem count_prefixLen_le_one
    {blocks : List Block}
    (distinct :
      blocks.Pairwise fun one other => one.prefixLen ≠ other.prefixLen)
    (prefixLen : Nat) :
    (blocks.map Block.prefixLen).count prefixLen ≤ 1 :=
  List.nodup_iff_count_le_one.mp (List.pairwise_map.mpr distinct) prefixLen

/--
The prefixes in the split between two addresses of one family fall strictly up
to some place and rise strictly from there on, so that each block before that
place is at least twice as large as the one before it, and each block behind it
at most half as large.  No prefix length occurs more than twice.
-/
theorem split_falls_then_rises
    {one other : Address}
    (sameFamily : one.family = other.family) :
    ∃ blocks : List Block,
      split one other = .ok blocks ∧
        (∃ place ≤ blocks.length,
          ((blocks.take place).Pairwise fun earlier later =>
            later.IsWiderThan earlier) ∧
          (blocks.drop place).Pairwise fun earlier later =>
            earlier.IsWiderThan later) ∧
        ∀ prefixLen : Nat,
          (blocks.map Block.prefixLen).count prefixLen ≤ 2 := by
  obtain ⟨span, blocks, splits, run, -, -, -, -⟩ := split_eq_ok sameFamily
  obtain ⟨front, back, rfl, ascending, descending⟩ :=
    run.exists_shape span.first_mem
  have families :
      ∀ block ∈ front ++ back, block.family = span.family :=
    fun block member =>
      ((run.tiles span.first_mem).bounds_of_mem member).1
  have falls :
      front.Pairwise fun earlier later => later.IsWiderThan earlier := by
    apply ascending.imp_of_mem
    intro earlier later earlierMember laterMember fewer
    have laterFamily := families later (List.mem_append_left back laterMember)
    have earlierFamily :=
      families earlier (List.mem_append_left back earlierMember)
    exact
      Block.isWiderThan_of_hostBits_lt
        (laterFamily.trans earlierFamily.symm) fewer
  have rises :
      back.Pairwise fun earlier later => earlier.IsWiderThan later := by
    apply descending.imp_of_mem
    intro earlier later earlierMember laterMember fewer
    have laterFamily := families later (List.mem_append_right front laterMember)
    have earlierFamily :=
      families earlier (List.mem_append_right front earlierMember)
    exact
      Block.isWiderThan_of_hostBits_lt
        (earlierFamily.trans laterFamily.symm) fewer
  refine ⟨front ++ back, splits, ⟨front.length, ?_, ?_, ?_⟩, ?_⟩
  · rw [List.length_append]
    exact Nat.le_add_right _ _
  · rw [List.take_left]
    exact falls
  · rw [List.drop_left]
    exact rises
  · intro prefixLen
    have frontOnce :=
      count_prefixLen_le_one
        (falls.imp fun wider => Nat.ne_of_gt wider.prefixLen_lt) prefixLen
    have backOnce :=
      count_prefixLen_le_one
        (rises.imp fun wider => Nat.ne_of_lt wider.prefixLen_lt) prefixLen
    rw [List.map_append, List.count_append]
    exact Nat.add_le_add frontOnce backOnce

/-- The addresses from 1 to 6: up by one bit, on at the same width, down by one bit. -/
theorem split_falls_then_rises_one_to_six :
    let one := Address.truncated .v4 1
    let other := Address.truncated .v4 6
    one.family = other.family ∧
      ∃ blocks : List Block,
        split one other = .ok blocks ∧
          blocks.map Block.prefixLen = [32, 31, 31, 32] ∧
          (∃ place ≤ blocks.length,
            ((blocks.take place).Pairwise fun earlier later =>
              later.IsWiderThan earlier) ∧
            (blocks.drop place).Pairwise fun earlier later =>
              earlier.IsWiderThan later) ∧
          (blocks.map Block.prefixLen).count 31 ≤ 2 := by
  intro one other
  have sameFamily : one.family = other.family := rfl
  have prefixes :
      (split one other).toOption.map (List.map Block.prefixLen) =
        some [32, 31, 31, 32] := by
    decide +kernel
  obtain ⟨blocks, splits, shape, twice⟩ := split_falls_then_rises sameFamily
  rw [splits] at prefixes
  exact
    ⟨sameFamily, blocks, splits, Option.some.inj prefixes, shape, twice 31⟩

end IpBlocks
