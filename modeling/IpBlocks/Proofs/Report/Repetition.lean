import IpBlocks.Proofs.Report.Concatenation
import IpBlocks.Proofs.Target.Reading
import IpBlocks.Proofs.Target.Showing
import IpBlocks.Proofs.Text.Lines

namespace IpBlocks

/-!
# Runs over the lines of a run

The results of a run are the lines of the blocks that its targets name
(`Report.exists_run_shows`).  If the blocks are shown as their texts, these
lines are targets again, and each of them names the block that it shows.  A run
over them therefore shows the blocks of the first run, in whichever mode
(`Report.cidr_output_is_fixed_point`).
-/

namespace Target

/-- The blocks that a text names, which are none if it is refused. -/
def namedBlocks (text : String) : List Block :=
  (blocksOf text).toOption.getD []

/-- The text of a block names this block alone. -/
theorem blocksOf_toString (block : Block) :
    blocksOf (toString block) = .ok [block] := by
  rw [blocksOf, parse_block]
  rfl

/-- The texts of blocks name these blocks. -/
theorem flatMap_namedBlocks (blocks : List Block) :
    (blocks.map toString).flatMap namedBlocks = blocks := by
  have named :
      ∀ block : Block, namedBlocks (toString block) = [block] := by
    intro block
    rw [namedBlocks, blocksOf_toString]
    rfl
  simp only [List.flatMap_map, named, List.flatMap_singleton']

end Target

/-- What a mode shows of blocks, one line for each of them. -/
def Mode.page (mode : Mode) (blocks : List Block) : String :=
  String.join (blocks.map fun block => mode.line block ++ "\n")

namespace Mode

theorem page_append (mode : Mode) (front back : List Block) :
    mode.page (front ++ back) = mode.page front ++ mode.page back := by
  rw [page, List.map_append, String.join_append]
  rfl

/-- The lines of the texts of blocks are these texts. -/
theorem lines_page_cidr (blocks : List Block) :
    Text.lines (cidr.page blocks) = blocks.map toString := by
  have unbroken :
      ∀ text ∈ blocks.map toString,
        '\n' ∉ text.toList ∧ '\r' ∉ text.toList := by
    intro text member
    obtain ⟨block, -, rfl⟩ := List.mem_map.mp member
    rw [Block.toList_toString]
    exact
      ⟨block.notMem_chars (by decide) (by decide) (by decide) (by decide),
        block.notMem_chars (by decide) (by decide) (by decide) (by decide)⟩
  rw [← Text.lines_join unbroken, List.map_map]
  rfl

end Mode

namespace Report

namespace Layout

/-- To the results a target adds the lines of the blocks that it names. -/
theorem entry_out (layout : Layout) (target : String) :
    layout.entry .out target =
      layout.mode.page (Target.namedBlocks target) := by
  have shown := layout.mode.lines_eq_map target
  rw [Target.namedBlocks]
  cases named : Target.blocksOf target with
  | error fault =>
      rw [named] at shown
      simp only [entry, shown]
      rfl
  | ok blocks =>
      rw [named] at shown
      simp only [entry, shown, Except.map, List.map_map]
      rfl

/-- To the refusals the texts of blocks add nothing. -/
theorem join_entry_err_blocks (layout : Layout) (blocks : List Block) :
    String.join ((blocks.map toString).map (layout.entry .err)) = "" := by
  have nothing :
      ∀ block : Block, layout.entry .err (toString block) = "" := by
    intro block
    simp only [entry, layout.mode.lines_eq_map, Target.blocksOf_toString,
      Except.map]
  induction blocks with
  | nil =>
      rfl
  | cons block rest inductionHypothesis =>
      rw [List.map_cons, List.map_cons, String.join_cons, nothing,
        inductionHypothesis]
      rfl

theorem refuses_block (layout : Layout) (block : Block) :
    layout.refuses (toString block) = false := by
  rw [refuses, layout.mode.lines_eq_map, Target.blocksOf_toString]
  rfl

/-- Targets in a row add the lines of all blocks that they name. -/
theorem join_entry_out (layout : Layout) (targets : List String) :
    String.join (targets.map (layout.entry .out)) =
      layout.mode.page (targets.flatMap Target.namedBlocks) := by
  induction targets with
  | nil =>
      rfl
  | cons target rest inductionHypothesis =>
      rw [List.map_cons, String.join_cons, inductionHypothesis,
        List.flatMap_cons, Mode.page_append, entry_out]

end Layout

/-- A run leaves the lines of all blocks that its targets name. -/
theorem exists_run_shows (layout : Layout) (targets : List String) :
    ∃ whole,
      run layout .unlimited targets = .ok whole ∧
        whole.sinks.out.accepted =
          Text.bytes
            (layout.mode.page (targets.flatMap Target.namedBlocks)) := by
  obtain ⟨whole, ran, -, left⟩ := exists_run_unlimited layout targets
  refine ⟨whole, ran, ?_⟩
  rw [← layout.join_entry_out]
  exact left .out

/-- A run over the texts of blocks shows these blocks and refuses nothing. -/
theorem exists_run_blocks (layout : Layout) (blocks : List Block) :
    ∃ whole,
      run layout .unlimited (blocks.map toString) = .ok whole ∧
        whole.sinks.out.accepted = Text.bytes (layout.mode.page blocks) ∧
          whole.sinks.err.accepted = #[] ∧
            whole.tally.processed = blocks.length ∧
              whole.tally.failed = 0 := by
  obtain ⟨whole, ran, tally, left⟩ :=
    exists_run_unlimited layout (blocks.map toString)
  have shown := left .out
  rw [layout.join_entry_out, Target.flatMap_namedBlocks] at shown
  have quiet := left .err
  rw [layout.join_entry_err_blocks] at quiet
  refine ⟨whole, ran, shown, quiet, ?_, ?_⟩
  · rw [tally, Layout.tally, List.length_map]
  · simp [tally, Layout.tally, Layout.refuses_block]

/--
The lines that a run leaves for blocks shown as their texts are targets again.
A run over them leaves the same lines, refuses nothing, and counts each line.
And however blocks are shown, a run over them leaves the same results as a run
over the targets of the first run.
-/
theorem cidr_output_is_fixed_point
    (colored : Bool)
    (targets : List String) :
    ∃ first,
      run ⟨.cidr, colored⟩ .unlimited targets = .ok first ∧
        let lines := Text.lines first.sinks.out.text
        (∃ second,
          run ⟨.cidr, colored⟩ .unlimited lines = .ok second ∧
            second.sinks.out.accepted = first.sinks.out.accepted ∧
            second.sinks.err.accepted = #[] ∧
            second.tally.processed = lines.length ∧
            second.tally.failed = 0) ∧
          ∀ layout : Layout,
            ∃ original repeated,
              run layout .unlimited targets = .ok original ∧
                run layout .unlimited lines = .ok repeated ∧
                repeated.sinks.out.accepted =
                  original.sinks.out.accepted := by
  obtain ⟨first, firstRan, firstShown⟩ :=
    exists_run_shows ⟨.cidr, colored⟩ targets
  refine ⟨first, firstRan, ?_⟩
  intro lines
  have blockTexts :
      lines = (targets.flatMap Target.namedBlocks).map toString := by
    rw [← Mode.lines_page_cidr, ← Text.ofBytes_bytes (Mode.page _ _),
      ← firstShown]
    rfl
  rw [blockTexts]
  constructor
  · obtain ⟨second, secondRan, shown, quiet, counted, unfailed⟩ :=
      exists_run_blocks ⟨.cidr, colored⟩
        (targets.flatMap Target.namedBlocks)
    refine
      ⟨second, secondRan, shown.trans firstShown.symm, quiet, ?_, unfailed⟩
    rw [counted, List.length_map]
  · intro layout
    obtain ⟨original, originalRan, originalShown⟩ :=
      exists_run_shows layout targets
    obtain ⟨repeated, repeatedRan, shown, -⟩ :=
      exists_run_blocks layout (targets.flatMap Target.namedBlocks)
    exact
      ⟨original, repeated, originalRan, repeatedRan,
        shown.trans originalShown.symm⟩

end Report

end IpBlocks
