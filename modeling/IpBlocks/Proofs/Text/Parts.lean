import IpBlocks.Text.Blank
import IpBlocks.Text.Cut

namespace IpBlocks

/-!
# Texts made of parts

Addresses are written as parts with a separator between them.  No part holds
the separator and none is empty, so the parts are found again, and two
adjacent separators stand only where they were put on purpose.
-/

namespace Text

theorem trimEnd_eq_self
    {text : List Char}
    (noBlank : ∀ character ∈ text, isBlank character = false) :
    trimEnd text = text := by
  induction text with
  | nil =>
      rfl
  | cons head rest inductionHypothesis =>
      have restKept :=
        inductionHypothesis fun character member =>
          noBlank character (List.mem_cons_of_mem head member)
      have headKept := noBlank head List.mem_cons_self
      rw [trimEnd, restKept]
      cases rest <;> simp [headKept]

/-- A text without blanks is not trimmed. -/
theorem trim_eq_self
    {text : List Char}
    (noBlank : ∀ character ∈ text, isBlank character = false) :
    trim text = text := by
  have started : text.dropWhile isBlank = text := by
    cases text with
    | nil =>
        rfl
    | cons head rest =>
        have headKept := noBlank head List.mem_cons_self
        simp [headKept]
  rw [trim, started, trimEnd_eq_self noBlank]

theorem trimEnd_trimEnd (text : List Char) :
    trimEnd (trimEnd text) = trimEnd text := by
  induction text with
  | nil =>
      rfl
  | cons head rest inductionHypothesis =>
      rw [trimEnd]
      split
      · split
        · rfl
        · rename_i notBlank
          simp [trimEnd, notBlank]
      · rename_i kept
        rw [trimEnd, inductionHypothesis]
        split
        · exact absurd ‹_› kept
        · rfl

/-- What does not start with a blank still does not when its end is trimmed. -/
theorem dropWhile_trimEnd
    {head : Char}
    (notBlank : isBlank head = false)
    (rest : List Char) :
    (trimEnd (head :: rest)).dropWhile isBlank = trimEnd (head :: rest) := by
  rw [trimEnd]
  split <;> simp [notBlank]

/-- A trimmed text has nothing more to trim. -/
theorem trim_trim (text : List Char) :
    trim (trim text) = trim text := by
  have started : (trim text).dropWhile isBlank = trim text := by
    rw [trim]
    cases shape : text.dropWhile isBlank with
    | nil =>
        rfl
    | cons head rest =>
        have notBlank := List.head?_dropWhile_not isBlank text
        rw [shape] at notBlank
        exact dropWhile_trimEnd (by simpa using notBlank) rest
  rw [trim, started, trim, trimEnd_trimEnd]

/-- What stands in separated parts stands in one of them or between them. -/
theorem mem_intercalate
    {separator character : Char}
    {parts : List (List Char)}
    (member : character ∈ [separator].intercalate parts) :
    character = separator ∨ ∃ part ∈ parts, character ∈ part := by
  induction parts with
  | nil =>
      simp at member
  | cons part rest inductionHypothesis =>
      cases rest with
      | nil =>
          rw [List.intercalate_singleton] at member
          exact Or.inr ⟨part, List.mem_cons_self, member⟩
      | cons next later =>
          rw [List.intercalate_cons_cons, List.mem_append, List.mem_append,
            List.mem_singleton] at member
          rcases member with (inPart | isSeparator) | inRest
          · exact Or.inr ⟨part, List.mem_cons_self, inPart⟩
          · exact Or.inl isSeparator
          · rcases inductionHypothesis inRest with
              isSeparator | ⟨other, otherMember, inOther⟩
            · exact Or.inl isSeparator
            · exact
                Or.inr
                  ⟨other, List.mem_cons_of_mem part otherMember, inOther⟩

/-- A cut at two adjacent separators splits the text around them. -/
theorem eq_append_of_cutDouble?
    {separator : Char}
    {text before after : List Char}
    (cut : cutDouble? separator text = some (before, after)) :
    text = before ++ separator :: separator :: after := by
  induction text generalizing before with
  | nil =>
      cases cut
  | cons head rest inductionHypothesis =>
      rw [cutDouble?] at cut
      split at cut
      · rename_i here
        obtain ⟨rfl, follows⟩ := here
        obtain ⟨behind, rfl⟩ := List.head?_eq_some_iff.mp follows
        cases cut
        rfl
      · obtain ⟨⟨front, back⟩, found, shape⟩ :=
          Option.map_eq_some_iff.mp cut
        cases shape
        exact congrArg (head :: ·) (inductionHypothesis found)

/-- A part without the separator is passed over in search of two. -/
theorem cutDouble?_append
    {separator : Char}
    {front : List Char}
    (absent : separator ∉ front)
    (rest : List Char) :
    cutDouble? separator (front ++ rest) =
      (cutDouble? separator rest).map fun (before, after) =>
        (front ++ before, after) := by
  induction front with
  | nil =>
      simp
  | cons head later inductionHypothesis =>
      rw [List.mem_cons, not_or] at absent
      obtain ⟨headDiffers, laterAbsent⟩ := absent
      have notHere :
          ¬ (head = separator ∧
            (later ++ rest).head? = some separator) :=
        fun here => headDiffers here.1.symm
      rw [List.cons_append, cutDouble?, if_neg notHere,
        inductionHypothesis laterAbsent]
      cases cutDouble? separator rest <;> rfl

/-- A single separator is passed over in search of two. -/
theorem cutDouble?_single
    {separator : Char}
    {rest : List Char}
    (single : rest.head? ≠ some separator) :
    cutDouble? separator (separator :: rest) =
      (cutDouble? separator rest).map fun (before, after) =>
        (separator :: before, after) := by
  rw [cutDouble?, if_neg fun here => single here.2]

/-- Separated parts are passed over in search of two separators. -/
theorem cutDouble?_intercalate
    {separator : Char}
    {parts : List (List Char)}
    (absent : ∀ part ∈ parts, separator ∉ part)
    (nonempty : ∀ part ∈ parts, part ≠ [])
    (rest : List Char) :
    cutDouble? separator ([separator].intercalate parts ++ rest) =
      (cutDouble? separator rest).map fun (before, after) =>
        ([separator].intercalate parts ++ before, after) := by
  induction parts with
  | nil =>
      simp
  | cons part later inductionHypothesis =>
      have partAbsent := absent part List.mem_cons_self
      cases later with
      | nil =>
          rw [List.intercalate_singleton]
          exact cutDouble?_append partAbsent rest
      | cons next others =>
          have following :=
            inductionHypothesis
              (fun other member =>
                absent other (List.mem_cons_of_mem part member))
              (fun other member =>
                nonempty other (List.mem_cons_of_mem part member))
          have nextMember : next ∈ part :: next :: others :=
            List.mem_cons_of_mem part List.mem_cons_self
          have single :
              ([separator].intercalate (next :: others) ++ rest).head? ≠
                some separator := by
            cases next with
            | nil =>
                exact absurd rfl (nonempty [] nextMember)
            | cons first remaining =>
                have differs : separator ≠ first := fun same =>
                  absent _ nextMember (same ▸ List.mem_cons_self)
                cases others <;> simp [differs.symm]
          rw [List.intercalate_cons_cons, List.append_assoc,
            List.append_assoc, cutDouble?_append partAbsent,
            List.singleton_append, cutDouble?_single single, following]
          cases cutDouble? separator rest <;> simp

end Text

end IpBlocks
