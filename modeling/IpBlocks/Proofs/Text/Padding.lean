import IpBlocks.Proofs.Text.Parts
import Mathlib.Data.List.TakeWhile

namespace IpBlocks

/-!
# Blanks around texts

Trimming drops the blanks at both ends of a text and nothing else, so whatever
padding stands around a text makes no difference once it is trimmed
(`Text.trim_padded`).  A mark that is no blank stops the trimming from either
side (`Text.trim_marked`): of the part before it only the beginning is trimmed,
and of the part behind it only the end.  Trimming these parts on their own then
leads to the same texts as if nothing had been trimmed before.
-/

namespace Text

/-- A text of blanks only, which may be empty. -/
def IsPadding (text : List Char) : Prop :=
  ∀ character ∈ text, isBlank character = true

instance (text : List Char) : Decidable (IsPadding text) :=
  List.decidableBAll (fun character => isBlank character = true) text

variable {before text after front back : List Char} {mark : Char}

/-- A character that is no blank does not stand in padding. -/
theorem IsPadding.notMem
    (padding : IsPadding text)
    (solid : isBlank mark = false) :
    mark ∉ text := by
  intro member
  rw [padding mark member] at solid
  cases solid

/-- Padding behind a text does not bring in what is no blank. -/
theorem IsPadding.notMem_append
    (padding : IsPadding after)
    (solid : isBlank mark = false)
    (absent : mark ∉ text) :
    mark ∉ text ++ after := by
  rw [List.mem_append, not_or]
  exact ⟨absent, padding.notMem solid⟩

theorem isPadding_takeWhile (text : List Char) :
    IsPadding (text.takeWhile isBlank) :=
  fun _ => List.mem_takeWhile_imp

/-- Padding at the end of a text is dropped. -/
theorem trimEnd_padded
    (padding : IsPadding after)
    (text : List Char) :
    trimEnd (text ++ after) = trimEnd text := by
  induction text with
  | nil =>
      exact trimEnd_eq_nil_iff.mpr padding
  | cons head rest inductionHypothesis =>
      rw [List.cons_append, trimEnd, trimEnd, inductionHypothesis]

/-- Padding in front of a text is dropped. -/
theorem trim_padding_append
    (padding : IsPadding before)
    (text : List Char) :
    trim (before ++ text) = trim text := by
  rw [trim, trim, List.dropWhile_append_of_pos padding]

/-- Padding behind a text is dropped. -/
theorem trim_append_padding
    (padding : IsPadding after)
    (text : List Char) :
    trim (text ++ after) = trim text := by
  rw [trim, trim, List.dropWhile_append]
  split
  · rename_i blank
    have nothing : after.dropWhile isBlank = [] :=
      List.dropWhile_eq_nil_iff.mpr padding
    rw [nothing, List.isEmpty_iff.mp blank]
  · exact trimEnd_padded padding _

theorem trim_padded
    (beforePadding : IsPadding before)
    (afterPadding : IsPadding after)
    (text : List Char) :
    trim (before ++ text ++ after) = trim text := by
  rw [trim_append_padding afterPadding, trim_padding_append beforePadding]

/-- A text is its trimmed form with padding around it. -/
theorem exists_padding (text : List Char) :
    ∃ before after,
      IsPadding before ∧
        IsPadding after ∧ text = before ++ trim text ++ after := by
  obtain ⟨after, kept, padding⟩ :=
    trimEnd_append_blank (text.dropWhile isBlank)
  refine
    ⟨text.takeWhile isBlank, after, isPadding_takeWhile text, padding, ?_⟩
  rw [List.append_assoc, trim, kept, List.takeWhile_append_dropWhile]

/-- Trimming brings in no characters. -/
theorem trim_subset (text : List Char) :
    trim text ⊆ text := by
  obtain ⟨before, after, -, -, whole⟩ := exists_padding text
  intro character member
  rw [whole]
  exact List.mem_append_left after (List.mem_append_right before member)

/-- Nothing is left of a text exactly if it is padding throughout. -/
theorem trim_eq_nil_iff : trim text = [] ↔ IsPadding text := by
  constructor
  · intro nothing
    obtain ⟨before, after, beforePadding, afterPadding, whole⟩ :=
      exists_padding text
    rw [nothing, List.append_nil] at whole
    rw [whole]
    exact List.forall_mem_append.mpr ⟨beforePadding, afterPadding⟩
  · intro padding
    have dropped := trim_append_padding padding []
    rw [List.nil_append] at dropped
    exact dropped

/-- Trimming the beginning first changes nothing. -/
theorem trim_dropWhile (text : List Char) :
    trim (text.dropWhile isBlank) = trim text := by
  have dropped :=
    trim_padding_append (isPadding_takeWhile text) (text.dropWhile isBlank)
  rw [List.takeWhile_append_dropWhile] at dropped
  exact dropped.symm

/-- Trimming the end first changes nothing. -/
theorem trim_trimEnd (text : List Char) :
    trim (trimEnd text) = trim text := by
  obtain ⟨after, kept, padding⟩ := trimEnd_append_blank text
  have dropped := trim_append_padding padding (trimEnd text)
  rw [kept] at dropped
  exact dropped.symm

/-- What is no blank stands in a text exactly if it stands in the trimmed text. -/
theorem mem_trim_iff (solid : isBlank mark = false) :
    mark ∈ trim text ↔ mark ∈ text := by
  obtain ⟨before, after, beforePadding, afterPadding, whole⟩ :=
    exists_padding text
  have notBefore := beforePadding.notMem solid
  have notAfter := afterPadding.notMem solid
  constructor
  · intro member
    rw [whole]
    exact
      List.mem_append_left after (List.mem_append_right before member)
  · intro member
    rw [whole, List.mem_append, List.mem_append] at member
    rcases member with (inBefore | inTrimmed) | inAfter
    · exact absurd inBefore notBefore
    · exact inTrimmed
    · exact absurd inAfter notAfter

theorem mem_trimEnd_iff (solid : isBlank mark = false) :
    mark ∈ trimEnd text ↔ mark ∈ text := by
  rw [← mem_trim_iff solid, trim_trimEnd, mem_trim_iff solid]

theorem dropWhile_marked
    (solid : isBlank mark = false)
    (front back : List Char) :
    (front ++ mark :: back).dropWhile isBlank =
      front.dropWhile isBlank ++ mark :: back := by
  rw [List.dropWhile_append]
  split
  · rename_i blank
    rw [List.isEmpty_iff.mp blank,
      List.dropWhile_cons_of_neg (by simp [solid]), List.nil_append]
  · rfl

theorem trimEnd_marked
    (solid : isBlank mark = false)
    (front back : List Char) :
    trimEnd (front ++ mark :: back) = front ++ mark :: trimEnd back := by
  induction front with
  | nil =>
      rw [List.nil_append, List.nil_append, trimEnd]
      split
      · rename_i nothing
        simp [nothing, solid]
      · rfl
  | cons head rest inductionHypothesis =>
      rw [List.cons_append, trimEnd, inductionHypothesis]
      cases rest <;> rfl

/-- A mark that is no blank keeps the blanks beside it. -/
theorem trim_marked
    (solid : isBlank mark = false)
    (front back : List Char) :
    trim (front ++ mark :: back) =
      front.dropWhile isBlank ++ mark :: trimEnd back := by
  rw [trim, dropWhile_marked solid, trimEnd_marked solid]

/-- A trimmed text is cut where the text is, with its outer blanks dropped. -/
theorem cut?_trim_marked
    (solid : isBlank mark = false)
    (isFirst : mark ∉ front)
    (back : List Char) :
    cut? mark (trim (front ++ mark :: back)) =
      some (front.dropWhile isBlank, trimEnd back) := by
  rw [trim_marked solid, cut?_eq_some_iff]
  exact ⟨rfl, fun member => isFirst (List.dropWhile_subset _ member)⟩

end Text

end IpBlocks
