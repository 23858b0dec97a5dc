import IpBlocks.Proofs.Span.Convergence
import Mathlib.Data.List.Chain

namespace IpBlocks

/-!
# Tilings

A list of blocks tiles the values from a first to a last one if each block
starts where the block before it ended.  Then every address in between lies
in exactly one block, and the blocks are in ascending order.

A greedy run tiles the rest of its span, so splitting between two addresses
gives a tiling of all values between them (`split_tiles_exactly`).
-/

/-- Blocks of one family that follow each other without gap or overlap. -/
inductive Tiles (family : Family) (last : Nat) : Nat → List Block → Prop where
  | final
      {first : Nat}
      {block : Block}
      (sameFamily : block.family = family)
      (starts : block.network.value = first)
      (ended : block.last.value = last) :
      Tiles family last first [block]
  | step
      {first : Nat}
      {block : Block}
      {later : List Block}
      (sameFamily : block.family = family)
      (starts : block.network.value = first)
      (tiled : Tiles family last (block.last.value + 1) later) :
      Tiles family last first (block :: later)

namespace Tiles

variable
  {family : Family}
  {first last : Nat}
  {blocks : List Block}

theorem ne_nil (tiles : Tiles family last first blocks) :
    blocks ≠ [] := by
  cases tiles <;> exact List.cons_ne_nil _ _

theorem first_le_last (tiles : Tiles family last first blocks) :
    first ≤ last := by
  induction tiles with
  | @final first block sameFamily starts ended =>
      have order := block.network_le_last
      omega
  | @step first block later sameFamily starts tiled inductionHypothesis =>
      have order := block.network_le_last
      omega

/-- Every block of a tiling lies within its bounds. -/
theorem bounds_of_mem
    (tiles : Tiles family last first blocks)
    {block : Block}
    (member : block ∈ blocks) :
    block.family = family ∧
      first ≤ block.network.value ∧
        block.last.value ≤ last := by
  induction tiles with
  | final sameFamily starts ended =>
      obtain rfl := List.mem_singleton.mp member
      exact ⟨sameFamily, Nat.le_of_eq starts.symm, Nat.le_of_eq ended⟩
  | @step first head later sameFamily starts tiled inductionHypothesis =>
      have order := head.network_le_last
      have rest := tiled.first_le_last
      rcases List.mem_cons.mp member with isHead | inLater
      · subst block
        exact ⟨sameFamily, Nat.le_of_eq starts.symm, by omega⟩
      · obtain ⟨laterFamily, behind, within⟩ := inductionHypothesis inLater
        exact ⟨laterFamily, by omega, within⟩

theorem head?_network (tiles : Tiles family last first blocks) :
    (blocks.head?.map fun block => block.network.value) = some first := by
  cases tiles with
  | final sameFamily starts ended =>
      exact congrArg some starts
  | step sameFamily starts tiled =>
      exact congrArg some starts

theorem getLast?_last (tiles : Tiles family last first blocks) :
    (blocks.getLast?.map fun block => block.last.value) = some last := by
  induction tiles with
  | final sameFamily starts ended =>
      exact congrArg some ended
  | step sameFamily starts tiled inductionHypothesis =>
      rw [List.getLast?_cons_of_ne_nil tiled.ne_nil]
      exact inductionHypothesis

theorem isChain (tiles : Tiles family last first blocks) :
    blocks.IsChain fun earlier later =>
      later.network.value = earlier.last.value + 1 := by
  induction tiles with
  | final sameFamily starts ended =>
      exact .singleton _
  | step sameFamily starts tiled inductionHypothesis =>
      cases tiled with
      | final _ follows _ =>
          exact .cons_cons follows inductionHypothesis
      | step _ follows _ =>
          exact .cons_cons follows inductionHypothesis

/-- Each block ends before all later blocks begin. -/
theorem pairwise_last_lt (tiles : Tiles family last first blocks) :
    blocks.Pairwise fun earlier later =>
      earlier.last.value < later.network.value := by
  induction tiles with
  | final sameFamily starts ended =>
      exact List.pairwise_singleton _ _
  | step sameFamily starts tiled inductionHypothesis =>
      refine List.pairwise_cons.mpr ⟨?_, inductionHypothesis⟩
      intro later member
      exact (tiled.bounds_of_mem member).2.1

/-- The blocks of a tiling are in ascending order. -/
theorem pairwise_compare (tiles : Tiles family last first blocks) :
    blocks.Pairwise fun earlier later =>
      compare earlier later = .lt := by
  apply tiles.pairwise_last_lt.imp_of_mem
  intro earlier later earlierMember laterMember inFront
  have sameFamily :=
    (tiles.bounds_of_mem earlierMember).1.trans
      (tiles.bounds_of_mem laterMember).1.symm
  exact
    (Block.compare_eq_lt_iff sameFamily).mpr
      (.inl (Nat.lt_of_le_of_lt earlier.network_le_last inFront))

theorem nodup (tiles : Tiles family last first blocks) :
    blocks.Nodup := by
  apply tiles.pairwise_last_lt.imp
  intro earlier later inFront same
  have order := earlier.network_le_last
  rw [same] at inFront order
  omega

/-- An address within the bounds of a tiling lies in exactly one block. -/
theorem countP_mem
    (tiles : Tiles family last first blocks)
    {address : Address}
    (sameFamily : address.family = family)
    (behind : first ≤ address.value)
    (within : address.value ≤ last) :
    (blocks.countP fun block => address ∈ block) = 1 := by
  induction tiles with
  | @final first block blockFamily starts ended =>
      have inside : address ∈ block :=
        ⟨sameFamily.trans blockFamily.symm, starts ▸ behind,
          ended ▸ within⟩
      simp [inside]
  | @step first block later blockFamily starts tiled inductionHypothesis =>
      by_cases inHead : address.value ≤ block.last.value
      · have inside : address ∈ block :=
          ⟨sameFamily.trans blockFamily.symm, starts ▸ behind, inHead⟩
        have nowhereElse :
            (later.countP fun block => address ∈ block) = 0 := by
          rw [List.countP_eq_zero]
          intro other member
          have otherBehind := (tiled.bounds_of_mem member).2.1
          rw [decide_eq_true_eq]
          intro otherInside
          have := otherInside.2.1
          omega
        rw [List.countP_cons, nowhereElse]
        simp [inside]
      · have outside : address ∉ block :=
          fun inside => inHead inside.2.2
        rw [List.countP_cons, inductionHypothesis (by omega)]
        simp [outside]

end Tiles

/-- A run tiles what is left of its span. -/
theorem Span.Greedy.tiles
    {span : Span}
    {cursor : Address}
    {blocks : List Block}
    (run : span.Greedy cursor blocks)
    (member : cursor ∈ span) :
    Tiles span.family span.last.value cursor.value blocks := by
  induction run with
  | final taken reached =>
      exact
        .final (taken.family_eq member)
          (congrArg Address.value taken.network_eq) reached
  | step taken inFront next run inductionHypothesis =>
      have rest :=
        inductionHypothesis (following_mem member taken inFront next)
      rw [(Address.next?_eq_some_iff.mp next).2] at rest
      exact
        .step (taken.family_eq member)
          (congrArg Address.value taken.network_eq) rest

/--
Splitting between two addresses of one family gives blocks that cover the
values between them without gap or overlap, in ascending order.
-/
theorem split_tiles_exactly
    {one other : Address}
    (sameFamily : one.family = other.family) :
    ∃ blocks : List Block,
      split one other = .ok blocks ∧
        blocks ≠ [] ∧
        (∀ block ∈ blocks, block.family = one.family) ∧
        (blocks.head?.map fun block => block.network.value) =
          some (min one.value other.value) ∧
        (blocks.getLast?.map fun block => block.last.value) =
          some (max one.value other.value) ∧
        (blocks.IsChain fun earlier later =>
          later.network.value = earlier.last.value + 1) ∧
        (∀ address : Address,
          address.family = one.family →
            min one.value other.value ≤ address.value →
              address.value ≤ max one.value other.value →
                (blocks.countP fun block => address ∈ block) = 1) ∧
        (∀ address : Address, ∀ block ∈ blocks, address ∈ block →
          address.family = one.family ∧
            min one.value other.value ≤ address.value ∧
              address.value ≤ max one.value other.value) ∧
        blocks.Pairwise fun earlier later =>
          compare earlier later = .lt := by
  obtain ⟨span, blocks, splits, run, -, family, first, last⟩ :=
    split_eq_ok sameFamily
  have tiles := run.tiles span.first_mem
  rw [family, first, last] at tiles
  refine
    ⟨blocks, splits, tiles.ne_nil, ?_, tiles.head?_network,
      tiles.getLast?_last, tiles.isChain, ?_, ?_, tiles.pairwise_compare⟩
  · intro block member
    exact (tiles.bounds_of_mem member).1
  · intro address addressFamily behind within
    exact tiles.countP_mem addressFamily behind within
  · intro address block member inside
    obtain ⟨blockFamily, behind, within⟩ := tiles.bounds_of_mem member
    exact
      ⟨inside.1.trans blockFamily, behind.trans inside.2.1,
        inside.2.2.trans within⟩

/-- All addresses of a family but its first one, with the ends reversed. -/
theorem split_tiles_exactly_all_but_first :
    (Address.truncated .v6 Family.v6.allOnes).family =
        (Address.truncated .v6 1).family ∧
      ∃ blocks : List Block,
        split (.truncated .v6 Family.v6.allOnes) (.truncated .v6 1) =
            .ok blocks ∧
          (blocks.head?.map fun block => block.network.value) = some 1 ∧
          (blocks.getLast?.map fun block => block.last.value) =
            some Family.v6.allOnes ∧
          (blocks.countP fun block =>
            Address.truncated .v6 0xffff ∈ block) = 1 := by
  have sameFamily :
      (Address.truncated .v6 Family.v6.allOnes).family =
        (Address.truncated .v6 1).family := rfl
  obtain ⟨blocks, splits, -, -, first, last, -, once, -, -⟩ :=
    split_tiles_exactly sameFamily
  refine ⟨sameFamily, blocks, splits, ?_, ?_, ?_⟩
  · rw [first]
    decide
  · rw [last]
    decide
  · exact once (.truncated .v6 0xffff) rfl (by decide) (by decide)

end IpBlocks
