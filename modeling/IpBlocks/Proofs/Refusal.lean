import IpBlocks.Mode
import IpBlocks.Proofs.Outcome
import IpBlocks.Proofs.Span.Convergence

namespace IpBlocks

/-!
# What is refused

Readers refuse texts, and what they report is always a fault of the text.
Splitting a span has faults of its own for the case that it does not come to
an end.  It does come to an end, so none of them ever reaches a user
(`splitting_converges`).
-/

/-- A result that is not refused, or refused for a fault of the input. -/
def BlamesInput (result : Except Fault α) : Prop :=
  ∀ fault, result = .error fault → fault.isInternal = false

namespace BlamesInput

variable {α β : Type}

theorem ok (value : α) :
    BlamesInput (.ok value) := by
  intro fault refused
  cases refused

theorem error {fault : Fault} (external : fault.isInternal = false) :
    BlamesInput (.error fault : Except Fault α) := by
  intro other refused
  cases refused
  exact external

/-- Steps that blame the input do so one after another. -/
theorem bind
    {first : Except Fault α}
    {next : α → Except Fault β}
    (firstBlames : BlamesInput first)
    (nextBlames : ∀ value, BlamesInput (next value)) :
    BlamesInput (first >>= next) := by
  intro fault refused
  rcases Outcome.bind_eq_error_iff.mp refused with
    atFirst | ⟨value, -, atNext⟩
  · exact firstBlames fault atFirst
  · exact nextBlames value fault atNext

theorem map
    {result : Except Fault α}
    (blames : BlamesInput result)
    (change : α → β) :
    BlamesInput (result.map change) := by
  cases result with
  | ok value =>
      exact ok (change value)
  | error fault =>
      exact error (blames fault rfl)

end BlamesInput

theorem Address.read_blamesInput (text : List Char) :
    BlamesInput (read text) := by
  rw [read]
  split
  · exact .ok _
  · exact .error rfl

namespace Block

theorem readPrefixLen_blamesInput (text : List Char) :
    BlamesInput (readPrefixLen text) := by
  rw [readPrefixLen]
  split
  · exact .ok _
  · exact .error rfl

theorem around_blamesInput (address : Address) (prefixLen : Nat) :
    BlamesInput (around address prefixLen) := by
  rw [around]
  split
  · exact .ok _
  · exact .error rfl

theorem read_blamesInput (text : List Char) :
    BlamesInput (read text) := by
  rw [read]
  split
  · apply BlamesInput.bind (Address.read_blamesInput _)
    intro address
    exact around_blamesInput _ _
  · apply BlamesInput.bind (Address.read_blamesInput _)
    intro address
    apply BlamesInput.bind (readPrefixLen_blamesInput _)
    intro prefixLen
    exact around_blamesInput _ _

end Block

namespace Span

theorem between_blamesInput (one other : Address) :
    BlamesInput (between one other) := by
  rw [between]
  split
  · split
    · exact .ok _
    · exact .ok _
  · exact .error rfl

theorem read_blamesInput (text : List Char) :
    BlamesInput (read text) := by
  simp only [read]
  split
  · exact .error rfl
  · split
    · exact .error rfl
    · apply BlamesInput.bind (Address.read_blamesInput _)
      intro one
      apply BlamesInput.bind (Address.read_blamesInput _)
      intro other
      exact between_blamesInput one other

end Span

namespace Target

theorem read_blamesInput (text : List Char) :
    BlamesInput (read text) := by
  rw [read]
  split
  · exact (Span.read_blamesInput _).map _
  · exact (Block.read_blamesInput _).map _

/-- Every target consists of some blocks. -/
theorem blocks_eq_ok (target : Target) :
    ∃ blocks, target.blocks = .ok blocks := by
  cases target with
  | block single =>
      exact ⟨[single], rfl⟩
  | span whole =>
      obtain ⟨blocks, splits, -⟩ := whole.blocks_eq_ok
      exact ⟨blocks, splits⟩

end Target

namespace Mode

/-- A mode refuses the targets that cannot be read, and no other. -/
theorem lines_eq_error_iff
    {mode : Mode}
    {target : String}
    {fault : Fault} :
    mode.lines target = .error fault ↔
      Target.parse target = .error fault := by
  rw [lines]
  cases Target.parse target with
  | error other =>
      simp
  | ok parsed =>
      obtain ⟨blocks, splits⟩ := parsed.blocks_eq_ok
      simp [splits]

theorem lines_blamesInput (mode : Mode) (target : String) :
    BlamesInput (mode.lines target) := by
  intro fault refused
  exact Target.read_blamesInput _ fault (lines_eq_error_iff.mp refused)

end Mode

/--
Splitting between two addresses of one family succeeds, with two blocks less
than twice the width of the family at most, and no mode ever reports a fault
of the program itself.
-/
theorem splitting_converges :
    (∀ one other : Address,
      one.family = other.family →
        ∃ blocks : List Block,
          split one other = .ok blocks ∧
            blocks.length ≤ 2 * one.family.width - 2) ∧
      ∀ (mode : Mode) (target : String) (fault : Fault),
        mode.lines target = .error fault → fault.isInternal = false := by
  constructor
  · intro one other sameFamily
    obtain ⟨span, blocks, splits, -, bounded, family, -, -⟩ :=
      split_eq_ok sameFamily
    rw [family] at bounded
    exact ⟨blocks, splits, bounded⟩
  · intro mode target
    exact mode.lines_blamesInput target

/-- All addresses of a family but its two ends make up the longest split. -/
theorem splitting_converges_at_worst :
    let one := Address.truncated .v6 1
    let other := Address.truncated .v6 (Family.v6.allOnes - 1)
    let fault := Fault.mixedFamilies "10.0.0.1" "::1"
    one.family = other.family ∧
      (∃ blocks : List Block,
        split one other = .ok blocks ∧
          blocks.length = 254 ∧
            blocks.length ≤ 2 * one.family.width - 2) ∧
      Mode.range.lines "10.0.0.1-::1" = .error fault ∧
        fault.isInternal = false := by
  intro one other fault
  have sameFamily : one.family = other.family := rfl
  have counted :
      (split one other).toOption.map List.length = some 254 := by
    decide +kernel
  have refused : Mode.range.lines "10.0.0.1-::1" = .error fault := by
    decide +kernel
  obtain ⟨blocks, splits, bounded⟩ :=
    splitting_converges.1 one other sameFamily
  rw [splits] at counted
  exact
    ⟨sameFamily, ⟨blocks, splits, Option.some.inj counted, bounded⟩,
      refused, splitting_converges.2 _ _ _ refused⟩

end IpBlocks
