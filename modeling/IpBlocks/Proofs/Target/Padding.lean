import IpBlocks.Mode
import IpBlocks.Proofs.Target.Dispatch

namespace IpBlocks

/-!
# Blanks in targets

Each reader trims its text, and hands parts of it to readers that trim them
again.  Padding around a text is dropped at once.  Padding beside the mark at
which a text is cut goes to the parts, where it is dropped as well; it is kept
only in what some faults quote.

So padding around a target changes no result.  Padding beside its first hyphen,
or beside its first slash if it has no hyphen, changes at most the wording of a
fault (`Mode.padding_changes_no_result`).
-/

/-- The causes of faults. -/
inductive FaultKind where
  | notAnAddress
  | malformed
  | prefixTooLong
  | mixedFamilies
  | unknownStyle
  | unconverged
  deriving DecidableEq, Repr

/-- The cause of a fault, without what the fault quotes. -/
def Fault.kind : Fault → FaultKind
  | notAnAddress _ => .notAnAddress
  | malformed _ => .malformed
  | prefixTooLong _ _ => .prefixTooLong
  | mixedFamilies _ _ => .mixedFamilies
  | unknownStyle _ => .unknownStyle
  | unconverged _ => .unconverged

/-- Two results are alike if they are the same up to the wording of a fault. -/
inductive Alike {α : Type} : Except Fault α → Except Fault α → Prop where
  | ok (value : α) :
      Alike (.ok value) (.ok value)
  | error
      {fault otherFault : Fault}
      (sameKind : fault.kind = otherFault.kind) :
      Alike (.error fault) (.error otherFault)

namespace Alike

variable {α β : Type} {one other : Except Fault α}

theorem refl (result : Except Fault α) :
    Alike result result := by
  cases result with
  | error fault => exact .error rfl
  | ok value => exact .ok value

/-- Steps that are alike are so in sequence. -/
theorem bind
    (alike : Alike one other)
    {next otherNext : α → Except Fault β}
    (behind : ∀ value, Alike (next value) (otherNext value)) :
    Alike (one >>= next) (other >>= otherNext) := by
  cases alike with
  | ok value => exact behind value
  | error sameKind => exact .error sameKind

theorem map
    (alike : Alike one other)
    (change : α → β) :
    Alike (one.map change) (other.map change) := by
  cases alike with
  | ok value => exact .ok (change value)
  | error sameKind => exact .error sameKind

end Alike

section

variable
  {front before after back : List Char}
  (beforePadding : Text.IsPadding before)
  (afterPadding : Text.IsPadding after)

namespace Block

/-- The same prefix length is read between any blanks. -/
theorem readPrefixLen_alike
    {one other : List Char}
    (same : Text.trim one = Text.trim other) :
    Alike (readPrefixLen one) (readPrefixLen other) := by
  rw [readPrefixLen, readPrefixLen, same]
  split
  · exact .ok _
  · exact .error rfl

include beforePadding afterPadding in
/-- Padding beside the first slash of a block makes no difference. -/
theorem read_alike_of_slash (isFirst : '/' ∉ front) :
    Alike (read (front ++ before ++ '/' :: (after ++ back)))
      (read (front ++ '/' :: back)) := by
  have stillFirst : '/' ∉ front ++ before :=
    beforePadding.notMem_append (by decide) isFirst
  have sameFront :=
    Address.read_of_trim_eq (Text.trim_append_padding beforePadding front)
  have sameBack :
      Text.trim (Text.trimEnd (after ++ back)) =
        Text.trim (Text.trimEnd back) := by
    rw [Text.trim_trimEnd, Text.trim_trimEnd,
      Text.trim_padding_append afterPadding]
  rw [read_slash stillFirst, read_slash isFirst, sameFront]
  apply Alike.bind (.refl _)
  intro address
  apply Alike.bind (readPrefixLen_alike sameBack)
  intro prefixLen
  exact .refl _

end Block

include beforePadding afterPadding in
/-- Padding beside the first hyphen of a span makes no difference. -/
theorem Span.read_alike_of_hyphen (isFirst : '-' ∉ front) :
    Alike (read (front ++ before ++ '-' :: (after ++ back)))
      (read (front ++ '-' :: back)) := by
  have stillFirst : '-' ∉ front ++ before :=
    beforePadding.notMem_append (by decide) isFirst
  have another : '-' ∈ after ++ back ↔ '-' ∈ back := by
    rw [List.mem_append]
    exact or_iff_right (afterPadding.notMem (by decide))
  have sameFront :=
    Address.read_of_trim_eq (Text.trim_append_padding beforePadding front)
  have sameBack :=
    Address.read_of_trim_eq (Text.trim_padding_append afterPadding back)
  rw [read_hyphen stillFirst, read_hyphen isFirst, sameFront, sameBack]
  by_cases several : '-' ∈ back
  · rw [if_pos several, if_pos (another.mpr several)]
    exact .error rfl
  · rw [if_neg several, if_neg (mt another.mp several)]
    exact .refl _

namespace Target

include beforePadding afterPadding in
/-- Padding around a target is dropped. -/
theorem read_padded (text : List Char) :
    read (before ++ text ++ after) = read text := by
  simp only [read, Text.trim_padded beforePadding afterPadding text]

include beforePadding afterPadding in
theorem read_alike_of_hyphen (isFirst : '-' ∉ front) :
    Alike (read (front ++ before ++ '-' :: (after ++ back)))
      (read (front ++ '-' :: back)) := by
  rw [read_of_hyphen (by simp), read_of_hyphen (by simp)]
  exact
    (Span.read_alike_of_hyphen beforePadding afterPadding isFirst).map span

include beforePadding afterPadding in
theorem read_alike_of_slash
    (isFirst : '/' ∉ front)
    (noHyphen : '-' ∉ front ++ back) :
    Alike (read (front ++ before ++ '/' :: (after ++ back)))
      (read (front ++ '/' :: back)) := by
  have notBefore := beforePadding.notMem (by decide : Text.isBlank '-' = false)
  have notAfter := afterPadding.notMem (by decide : Text.isBlank '-' = false)
  rw [List.mem_append, not_or] at noHyphen
  have unpadded : '-' ∉ front ++ '/' :: back := by
    simp [noHyphen]
  have padded : '-' ∉ front ++ before ++ '/' :: (after ++ back) := by
    simp [noHyphen, notBefore, notAfter]
  rw [read_of_no_hyphen padded, read_of_no_hyphen unpadded]
  exact
    (Block.read_alike_of_slash beforePadding afterPadding isFirst).map block

end Target

end

namespace Mode

/-- Targets that are alike are shown alike. -/
theorem lines_alike
    {text otherText : String}
    (alike : Alike (Target.parse text) (Target.parse otherText))
    (mode : Mode) :
    Alike (mode.lines text) (mode.lines otherText) :=
  alike.bind fun _ => .refl _

/--
Blanks around a target change nothing of what a mode shows, nor of the fault for
which it is refused.  Blanks on the two sides of its first hyphen, or of its
first slash if it has no hyphen, change neither the success nor the lines nor
the cause of the fault.
-/
theorem padding_changes_no_result (mode : Mode) :
    (∀ before text after : String,
      Text.IsPadding before.toList →
      Text.IsPadding after.toList →
        mode.lines (before ++ text ++ after) = mode.lines text) ∧
    (∀ front before after back : String,
      Text.IsPadding before.toList →
      Text.IsPadding after.toList →
      '-' ∉ front.toList →
        Alike (mode.lines (front ++ before ++ "-" ++ after ++ back))
          (mode.lines (front ++ "-" ++ back))) ∧
    ∀ front before after back : String,
      Text.IsPadding before.toList →
      Text.IsPadding after.toList →
      '/' ∉ front.toList →
      '-' ∉ front.toList ++ back.toList →
        Alike (mode.lines (front ++ before ++ "/" ++ after ++ back))
          (mode.lines (front ++ "/" ++ back)) := by
  refine ⟨?_, ?_, ?_⟩
  · intro before text after beforePadding afterPadding
    have same :
        Target.parse (before ++ text ++ after) = Target.parse text := by
      rw [Target.parse, Target.parse, String.toList_append,
        String.toList_append, Target.read_padded beforePadding afterPadding]
    rw [lines, lines, same]
  · intro front before after back beforePadding afterPadding isFirst
    apply lines_alike
    simpa [Target.parse] using
      Target.read_alike_of_hyphen beforePadding afterPadding isFirst
  · intro front before after back beforePadding afterPadding isFirst
      noHyphen
    apply lines_alike
    simpa [Target.parse] using
      Target.read_alike_of_slash beforePadding afterPadding isFirst noHyphen

/-- An em space and a tab on each side; the fault of a bad prefix quotes them. -/
theorem padding_changes_no_result_but_wording :
    let blanks := "\u2003\t"
    let lines := ["10.0.0.1/32", "10.0.0.2/32"]
    Text.IsPadding blanks.toList ∧
    cidr.lines (blanks ++ "10.0.0.2-10.0.0.1" ++ blanks) = .ok lines ∧
    ('-' ∉ "10.0.0.2".toList ∧
      Alike
        (cidr.lines ("10.0.0.2" ++ blanks ++ "-" ++ blanks ++ "10.0.0.1"))
        (.ok lines)) ∧
    ('/' ∉ "10.0.0.0".toList ∧
      '-' ∉ "10.0.0.0".toList ++ "8x".toList ∧
      Alike (cidr.lines ("10.0.0.0" ++ blanks ++ "/" ++ blanks ++ "8x"))
        (.error (.malformed "Invalid prefix: 8x")) ∧
      cidr.lines ("10.0.0.0" ++ blanks ++ "/" ++ blanks ++ "8x") =
        .error (.malformed ("Invalid prefix: " ++ blanks ++ "8x"))) := by
  intro blanks lines
  have padding : Text.IsPadding blanks.toList := by
    decide
  have noHyphen : '-' ∉ "10.0.0.2".toList := by
    decide
  have noSlash : '/' ∉ "10.0.0.0".toList := by
    decide
  have noMark : '-' ∉ "10.0.0.0".toList ++ "8x".toList := by
    decide
  have shown :
      cidr.lines ("10.0.0.2" ++ "-" ++ "10.0.0.1") = .ok lines := by
    decide +kernel
  have refused :
      cidr.lines ("10.0.0.0" ++ "/" ++ "8x") =
        .error (.malformed "Invalid prefix: 8x") := by
    decide +kernel
  have quoted :
      cidr.lines ("10.0.0.0" ++ blanks ++ "/" ++ blanks ++ "8x") =
        .error (.malformed ("Invalid prefix: " ++ blanks ++ "8x")) := by
    decide +kernel
  obtain ⟨around, besideHyphen, besideSlash⟩ :=
    padding_changes_no_result cidr
  refine
    ⟨padding, (around blanks _ blanks padding padding).trans shown,
      ⟨noHyphen, ?_⟩, ⟨noSlash, noMark, ?_, quoted⟩⟩
  · rw [← shown]
    exact besideHyphen _ blanks blanks _ padding padding noHyphen
  · rw [← refused]
    exact besideSlash _ blanks blanks _ padding padding noSlash noMark

end Mode

end IpBlocks
