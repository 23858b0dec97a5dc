import IpBlocks.Document.Values
import IpBlocks.Proofs.Address.Reading
import IpBlocks.Proofs.Span.Greedy
import IpBlocks.Proofs.Target.Dispatch

namespace IpBlocks

/-!
# Reading written targets

A block is written with a slash behind its network, a span with a hyphen
between its ends.  Neither mark stands in the text of an address, so every
reader cuts a written text where the writer joined it.  The reader of targets
tells blocks and spans apart by the hyphen alone.

What is written for a block or a span is therefore read back as the same block
or span (`written_targets_read_back`).
-/

namespace Numeral

/-- No blank stands in a decimal numeral. -/
theorem isBlank_of_mem_toDigits
    {number : Nat}
    {character : Char}
    (member : character ∈ Nat.toDigits 10 number) :
    Text.isBlank character = false := by
  obtain ⟨digit, small, rfl⟩ := exists_digitChar_of_mem (by decide) member
  have noBlank :
      ∀ digit < 10, Text.isBlank (Nat.digitChar digit) = false := by
    decide
  exact noBlank digit small

theorem trim_toDigits (number : Nat) :
    Text.trim (Nat.toDigits 10 number) = Nat.toDigits 10 number :=
  Text.trim_eq_self fun _ => isBlank_of_mem_toDigits

end Numeral

namespace Address

theorem slash_notMem_chars (address : Address) :
    '/' ∉ address.chars :=
  address.notMem_chars (by decide) (by decide) (by decide)

theorem hyphen_notMem_chars (address : Address) :
    '-' ∉ address.chars :=
  address.notMem_chars (by decide) (by decide) (by decide)

end Address

namespace Block

/-- The numeral of a prefix length is read as that prefix length. -/
theorem readPrefixLen_toDigits (block : Block) :
    readPrefixLen (Nat.toDigits 10 block.prefixLen) =
      .ok block.prefixLen := by
  have small : block.prefixLen < 2 ^ 32 :=
    Nat.lt_of_le_of_lt block.prefixLen_le block.network.family.width_lt
  have spelled :
      Numeral.Spells 10 (Nat.toDigits 10 block.prefixLen)
        block.prefixLen :=
    (Numeral.read?_eq_some_iff (by decide)).mp
      (Numeral.read?_toDigits (by decide) (by decide) block.prefixLen)
  rw [← Numeral.trim_toDigits] at spelled
  exact readPrefixLen_eq_ok spelled small

/-- A character that is no mark and no digit does not stand in a block. -/
theorem notMem_chars
    {character : Char}
    (noDot : character ≠ '.')
    (noColon : character ≠ ':')
    (noSlash : character ≠ '/')
    (noDigit : ∀ digit < 16, ¬ Numeral.IsDigit 16 character digit)
    (block : Block) :
    character ∉ block.chars := by
  intro member
  rcases List.mem_append.mp member with inNetwork | behind
  · exact Address.notMem_chars noDot noColon noDigit block.network inNetwork
  · rcases List.mem_cons.mp behind with isSlash | inLength
    · exact noSlash isSlash
    · have noDecimal : ∀ digit < 10, Nat.digitChar digit ≠ character := by
        rintro digit small rfl
        have smaller : digit < 16 := Nat.lt_trans small (by decide)
        exact noDigit digit smaller ⟨smaller, Or.inl rfl⟩
      exact
        Numeral.notMem_toDigits (by decide) noDecimal block.prefixLen
          inLength

theorem hyphen_notMem_chars (block : Block) :
    '-' ∉ block.chars :=
  block.notMem_chars (by decide) (by decide) (by decide) (by decide)

/-- The written form of a block is read as that block. -/
theorem read_chars (block : Block) :
    read block.chars = .ok block := by
  have untrimmed :
      Text.trimEnd (Nat.toDigits 10 block.prefixLen) =
        Nat.toDigits 10 block.prefixLen :=
    Text.trimEnd_eq_self fun _ => Numeral.isBlank_of_mem_toDigits
  rw [chars, read_slash block.network.slash_notMem_chars, untrimmed,
    block.network.read_chars, Outcome.ok_bind, block.readPrefixLen_toDigits,
    Outcome.ok_bind, block.around_network]

@[simp] theorem parse_toString (block : Block) :
    parse (toString block) = .ok block := by
  simp only [parse, toList_toString, read_chars]

end Block

namespace Span

/-- A span is written as its ends with a hyphen between them. -/
theorem toString_eq (span : Span) :
    toString span = toString span.first ++ "-" ++ toString span.last := by
  apply String.toList_inj.mp
  simp [chars]

/-- A span lies between its own ends. -/
theorem between_ends (span : Span) :
    between span.first span.last = .ok span := by
  simp [between, span.sameFamily, span.ordered]

/-- Two addresses with a hyphen between them are read as the span between them. -/
theorem read_ends (one other : Address) :
    read (one.chars ++ '-' :: other.chars) = between one other := by
  rw [read_hyphen one.hyphen_notMem_chars, if_neg other.hyphen_notMem_chars,
    one.read_chars, other.read_chars, Outcome.ok_bind, Outcome.ok_bind]

/-- The written form of a span is read as that span. -/
theorem read_chars (span : Span) :
    read span.chars = .ok span :=
  (read_ends span.first span.last).trans span.between_ends

@[simp] theorem parse_toString (span : Span) :
    parse (toString span) = .ok span := by
  simp only [parse, toList_toString, read_chars]

end Span

namespace Target

/-- The written form of a block is the target of that block. -/
theorem parse_block (single : Block) :
    parse (toString single) = .ok (.block single) := by
  rw [parse, Block.toList_toString,
    read_of_no_hyphen single.hyphen_notMem_chars, single.read_chars]
  rfl

/-- Two addresses with a hyphen between them are the target of their span. -/
theorem parse_ends (one other : Address) :
    parse (toString one ++ "-" ++ toString other) =
      (Span.between one other).map span := by
  have written :
      (toString one ++ "-" ++ toString other).toList =
        one.chars ++ '-' :: other.chars := by
    simp
  have hyphen : '-' ∈ one.chars ++ '-' :: other.chars :=
    List.mem_append_right _ List.mem_cons_self
  rw [parse, written, read_of_hyphen hyphen, Span.read_ends]

/-- The written form of a span is the target of that span. -/
theorem parse_span (whole : Span) :
    parse (toString whole) = .ok (.span whole) := by
  rw [whole.toString_eq, parse_ends, whole.between_ends]
  rfl

end Target

/--
Every block is read back from its text, from its document and as a target, and
so is every span from its text.  Different blocks and different spans have
different texts, and reading the text of a block that was read changes nothing.
-/
theorem written_targets_read_back :
    (∀ block : Block,
      Block.parse (toString block) = .ok block ∧
        Block.ofDocument (.text (toString block)) = .ok block ∧
          Target.parse (toString block) = .ok (.block block)) ∧
      (∀ span : Span,
        toString span = toString span.first ++ "-" ++ toString span.last ∧
          Span.parse (toString span) = .ok span ∧
            Target.parse (toString span) = .ok (.span span)) ∧
      (∀ one other : Block, toString one = toString other → one = other) ∧
      (∀ one other : Span, toString one = toString other → one = other) ∧
      ∀ (text : String) (block : Block),
        Block.parse text = .ok block →
          Block.parse (toString block) = Block.parse text := by
  refine ⟨?_, ?_, ?_, ?_, ?_⟩
  · intro block
    refine ⟨block.parse_toString, ?_, Target.parse_block block⟩
    change (Block.parse (toString block)).mapError Fault.message = .ok block
    simp only [Block.parse_toString, Except.mapError]
  · intro span
    exact
      ⟨span.toString_eq, span.parse_toString, Target.parse_span span⟩
  · intro one other sameText
    exact Outcome.eq_of_read_back Block.parse_toString sameText
  · intro one other sameText
    exact Outcome.eq_of_read_back Span.parse_toString sameText
  · intro text block read
    exact block.parse_toString.trans read.symm

/-- A block read with host bits is written without them, and reads the same. -/
theorem written_targets_read_back_without_host_bits :
    let text := " ::FFFF:0102:304 / 0120"
    let block : Block :=
      ⟨.truncated .v6 0xffff01020300, 120, by decide, by decide⟩
    Block.parse text = .ok block ∧
      toString block = "::ffff:1.2.3.0/120" ∧
        Block.parse (toString block) = Block.parse text := by
  intro text block
  have read : Block.parse text = .ok block := by
    decide +kernel
  have shown : toString block = "::ffff:1.2.3.0/120" := by
    decide +kernel
  obtain ⟨-, -, -, -, unchanged⟩ := written_targets_read_back
  exact ⟨read, shown, unchanged text block read⟩

end IpBlocks
