import IpBlocks.Proofs.Span.Convergence
import IpBlocks.Proofs.Target.Reading
import IpBlocks.Proofs.Target.Showing

namespace IpBlocks

/-!
# Blocks as spans

The addresses of a block form a span, and no block that starts at the network
and stays within this span is wider than the block itself
(`Block.takes_span`).  So the first step of splitting that span takes the whole
block and ends there.

It makes no difference, then, whether a target is named as a block or by the
two ends of the block, in whichever order (`block_and_ends_are_one_target`).
-/

namespace Block

/-- The span from the network of a block to its last address. -/
def span (block : Block) : Span where
  first :=
    block.network
  last :=
    block.last
  sameFamily :=
    rfl
  ordered :=
    block.network_le_last

/-- Of blocks with one network, the one that ends first has the longest prefix. -/
theorem prefixLen_le_of_last_le
    {one other : Block}
    (sameNetwork : one.network = other.network)
    (endsFirst : one.last.value ≤ other.last.value) :
    other.prefixLen ≤ one.prefixLen := by
  have sameFamily : one.family = other.family :=
    congrArg Address.family sameNetwork
  have oneEnd := one.last_value_succ
  have otherEnd := other.last_value_succ
  rw [sameNetwork] at oneEnd
  have smaller : one.size ≤ other.size := by
    omega
  rw [one.size_eq_two_pow, other.size_eq_two_pow] at smaller
  have fewer : one.hostBits ≤ other.hostBits :=
    (Nat.pow_le_pow_iff_right (by decide)).mp smaller
  rw [hostBits, hostBits, sameFamily] at fewer
  have oneShort : one.prefixLen ≤ other.family.width :=
    sameFamily ▸ one.prefixLen_le
  have otherShort : other.prefixLen ≤ other.family.width :=
    other.prefixLen_le
  omega

/-- A block is the widest one that starts at its network and stays within it. -/
theorem takes_span (block : Block) :
    block.span.Takes block.network block where
  network_eq := rfl
  last_le := Nat.le_refl _
  widest _ sameNetwork within :=
    prefixLen_le_of_last_le sameNetwork within

/-- The span of a block consists of that block. -/
theorem span_blocks (block : Block) :
    block.span.blocks = .ok [block] := by
  have run : block.span.Greedy block.network [block] :=
    .final block.takes_span rfl
  have enough : 1 ≤ block.span.blockCap := by
    rw [Span.blockCap]
    cases block.span.family <;> decide
  exact run.blocksFrom_eq_ok block.span.first_mem enough

end Block

namespace Span

/-- A span lies between its own ends in reversed order as well. -/
theorem between_reversed (span : Span) :
    between span.last span.first = .ok span := by
  have sameFamily := span.sameFamily.symm
  by_cases single : span.last.value ≤ span.first.value
  · have sameEnds : span.first = span.last :=
      Address.ext span.sameFamily (Nat.le_antisymm span.ordered single)
    have same :
        (⟨span.last, span.first, sameFamily, single⟩ : Span) = span :=
      Span.ext sameEnds.symm sameEnds
    simp [between, sameFamily, single, same]
  · simp [between, sameFamily, single]

end Span

/-- Splitting between the ends of a span is splitting the span. -/
theorem split_ends (span : Span) :
    split span.first span.last = span.blocks ∧
      split span.last span.first = span.blocks := by
  rw [split, split, span.between_ends, span.between_reversed]
  exact ⟨rfl, rfl⟩

/--
Splitting between the two ends of a block, in either order, gives that block
alone.  In every mode the block shows the same single line, whether it is named
by its network and its prefix length or by its two ends, in either order.
-/
theorem block_and_ends_are_one_target (block : Block) :
    split block.network block.last = .ok [block] ∧
      split block.last block.network = .ok [block] ∧
      ∀ mode : Mode,
        mode.lines
            (toString block.network ++ "/" ++ toString block.prefixLen) =
          .ok [mode.line block] ∧
        mode.lines (toString block.network ++ "-" ++ toString block.last) =
          .ok [mode.line block] ∧
        mode.lines (toString block.last ++ "-" ++ toString block.network) =
          .ok [mode.line block] := by
  obtain ⟨inOrder, reversed⟩ := split_ends block.span
  refine
    ⟨inOrder.trans block.span_blocks, reversed.trans block.span_blocks, ?_⟩
  intro mode
  have shown :
      ∀ (text : String) (target : Target),
        Target.parse text = .ok target → target.blocks = .ok [block] →
          mode.lines text = .ok [mode.line block] := by
    intro text target read consists
    rw [mode.lines_eq_map, Target.blocksOf, read, Outcome.ok_bind, consists]
    rfl
  refine ⟨?_, ?_, ?_⟩
  · rw [← block.toString_eq]
    exact shown _ _ (Target.parse_block block) rfl
  · apply shown _ (.span block.span) _ block.span_blocks
    rw [Target.parse_ends]
    exact congrArg (Except.map Target.span) block.span.between_ends
  · apply shown _ (.span block.span) _ block.span_blocks
    rw [Target.parse_ends]
    exact congrArg (Except.map Target.span) block.span.between_reversed

/-- The two ends of a family name the block of all its addresses. -/
example :
    Mode.cidr.lines "255.255.255.255-0.0.0.0" = .ok ["0.0.0.0/0"] := by
  decide +kernel

end IpBlocks
