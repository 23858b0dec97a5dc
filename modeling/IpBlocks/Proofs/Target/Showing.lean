import IpBlocks.Mode
import IpBlocks.Proofs.Outcome
import IpBlocks.Proofs.Span.Extents

namespace IpBlocks

/-!
# What the modes show of a target

A target that is read consists of blocks that tile its addresses from the
lowest to the highest one (`Target.exists_tiles`).  Every mode shows these
blocks, one line for each of them, and refuses the same texts for the same
faults.  So whatever the mode, the lines tell of the same addresses
(`modes_show_the_same_blocks`).
-/

namespace Block

/-- The text of a block names its network and its prefix length. -/
theorem toString_eq (block : Block) :
    toString block =
      toString block.network ++ "/" ++ toString block.prefixLen := by
  apply String.toList_inj.mp
  simp [chars]

/-- A styled block is its network and its mask in the digits of the style. -/
theorem styled_eq (block : Block) (style : Style) :
    block.styled style =
      style.render block.network ++ " / " ++
        style.render (block.shownMask style) := by
  apply String.toList_inj.mp
  simp [styled, styledChars, Style.render]

end Block

namespace Target

/-- An address belongs to a target if it belongs to its block or its span. -/
instance : Membership Address Target where
  mem target address :=
    match target with
    | .block single => address ∈ single
    | .span whole => address ∈ whole

/-- Two addresses of a target between which all its addresses lie. -/
structure Bounds (target : Target) (lowest highest : Address) : Prop where
  lowest_mem : lowest ∈ target
  highest_mem : highest ∈ target
  between :
    ∀ address ∈ target,
      address.family = lowest.family ∧
        lowest.value ≤ address.value ∧ address.value ≤ highest.value

/-- A target lies between its first and its last address. -/
theorem bounds (target : Target) :
    target.Bounds target.first target.last := by
  cases target with
  | block single =>
      exact ⟨single.network_mem, single.last_mem, fun _ inside => inside⟩
  | span whole =>
      exact
        ⟨whole.first_mem,
          ⟨whole.sameFamily.symm, whole.ordered, Nat.le_refl _⟩,
          fun _ inside => inside⟩

theorem last_family (target : Target) :
    target.last.family = target.first.family := by
  cases target with
  | block single => rfl
  | span whole => exact whole.sameFamily.symm

/-- The blocks of a target tile its addresses from the first to the last. -/
theorem exists_tiles (target : Target) :
    ∃ blocks,
      target.blocks = .ok blocks ∧
        Tiles target.first.family target.last.value target.first.value
          blocks := by
  cases target with
  | block single =>
      exact ⟨[single], rfl, .final rfl rfl rfl⟩
  | span whole =>
      obtain ⟨blocks, splits, run, -⟩ := whole.blocks_eq_ok
      exact ⟨blocks, splits, run.tiles whole.first_mem⟩

/-- The blocks of the target that a text names. -/
def blocksOf (text : String) : Except Fault (List Block) :=
  parse text >>= blocks

end Target

/-- A mode shows the blocks that a text names, or refuses it as any other mode. -/
theorem Mode.lines_eq_map (mode : Mode) (text : String) :
    mode.lines text = (Target.blocksOf text).map (List.map mode.line) := by
  rw [lines, Target.blocksOf]
  cases Target.parse text with
  | error fault =>
      rfl
  | ok target =>
      rw [Outcome.ok_bind, Outcome.ok_bind]
      cases target.blocks <;> rfl

/--
Either all modes refuse a text for the same fault, or the text names a target
and all modes show the same blocks, each in its own way.  The lines of the mode
that shows extents are then read back as extents that cover the addresses of
the target from the lowest to the highest one, and whose counts add up to the
number of these addresses.
-/
theorem modes_show_the_same_blocks (text : String) :
    (∃ fault, ∀ mode : Mode, mode.lines text = .error fault) ∨
      ∃ (target : Target) (blocks : List Block),
        Target.parse text = .ok target ∧
        Mode.cidr.lines text =
          .ok (blocks.map fun block =>
            toString block.network ++ "/" ++ toString block.prefixLen) ∧
        (∀ style : Style,
          (Mode.styled style).lines text =
            .ok (blocks.map fun block =>
              style.render block.network ++ " / " ++
                style.render (block.shownMask style))) ∧
        ∃ (lines : List String) (extents : List Extent)
            (lowest highest : Address),
          Mode.range.lines text = .ok lines ∧
          lines =
            blocks.map (fun block =>
              toString block.network ++ " -> " ++ toString block.last ++
                " (" ++ toString block.size ++ ")") ∧
          lines.mapM Extent.parse? = some extents ∧
          target.Bounds lowest highest ∧
          Extent.Cover lowest highest extents := by
  cases parsed : Target.parse text with
  | error fault =>
      left
      refine ⟨fault, fun mode => ?_⟩
      rw [Mode.lines_eq_map, Target.blocksOf, parsed]
      rfl
  | ok target =>
      right
      obtain ⟨blocks, split, tiles⟩ := target.exists_tiles
      have shown :
          ∀ mode : Mode, mode.lines text = .ok (blocks.map mode.line) := by
        intro mode
        rw [Mode.lines_eq_map, Target.blocksOf, parsed, Outcome.ok_bind,
          split]
        rfl
      refine ⟨target, blocks, rfl, ?_, ?_, ?_⟩
      · rw [shown .cidr]
        exact congrArg Except.ok
          (List.map_congr_left fun block _ => block.toString_eq)
      · intro style
        rw [shown (.styled style)]
        exact congrArg Except.ok
          (List.map_congr_left fun block _ => block.styled_eq style)
      · refine
          ⟨_, blocks.map Block.extent, target.first, target.last,
            shown .range, ?_, ?_, target.bounds,
            tiles.extents_cover rfl target.last_family⟩
        · exact List.map_congr_left fun block _ => block.extent.toString_eq
        · have texts :
              blocks.map Mode.range.line =
                (blocks.map Block.extent).map toString := by
            rw [List.map_map]
            rfl
          rw [texts]
          exact Extent.mapM_parse?_toString _

/-- All addresses of the greater family are one block, and counted in full. -/
example :
    Mode.range.lines "::/0" =
      .ok
        [":: -> ffff:ffff:ffff:ffff:ffff:ffff:ffff:ffff " ++
          "(340282366920938463463374607431768211456)"] := by
  decide +kernel

end IpBlocks
