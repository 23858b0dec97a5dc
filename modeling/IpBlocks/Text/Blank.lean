import IpBlocks.Text.Ranges

namespace IpBlocks

/-!
# Blank characters

Blanks are the characters with the Unicode property `White_Space`. They are
dropped at both ends of every text that is read, and nowhere else. Control
characters outside the property (such as U+001C) and invisible characters
(such as U+200B and U+FEFF) are not blank.
-/

namespace Text

/-- The ranges of code points with the property `White_Space`. -/
def blankRanges : List (Nat × Nat) :=
  [(0x0009, 0x000D), (0x0020, 0x0020), (0x0085, 0x0085),
    (0x00A0, 0x00A0), (0x1680, 0x1680), (0x2000, 0x200A),
    (0x2028, 0x2029), (0x202F, 0x202F), (0x205F, 0x205F),
    (0x3000, 0x3000)]

/-- Whether a character is blank. -/
def isBlank (character : Char) : Bool :=
  inRanges blankRanges character

/-- The text without the blanks at its end. -/
def trimEnd : List Char → List Char
  | [] => []
  | character :: rest =>
      match trimEnd rest with
      | [] => if isBlank character then [] else [character]
      | kept => character :: kept

/-- The text without the blanks at its two ends. -/
def trim (text : List Char) : List Char :=
  trimEnd (text.dropWhile isBlank)

/-- Core's own class of white space lies within the blanks. -/
theorem isBlank_of_isWhitespace
    {character : Char}
    (white : character.isWhitespace = true) :
    isBlank character = true := by
  simp only [Char.isWhitespace, Bool.or_eq_true, decide_eq_true_eq] at white
  rcases white with ((isSpace | isTab) | isReturn) | isNewline <;>
    subst character <;> decide

/-- Dropping blanks at the end leaves a front part of the text. -/
theorem trimEnd_append_blank (text : List Char) :
    ∃ dropped : List Char,
      trimEnd text ++ dropped = text ∧
        ∀ character ∈ dropped, isBlank character = true := by
  induction text with
  | nil =>
      exact ⟨[], rfl, by simp⟩
  | cons head rest inductionHypothesis =>
      rcases inductionHypothesis with ⟨dropped, whole, blank⟩
      rw [trimEnd]
      split
      · rename_i nothing
        rw [nothing, List.nil_append] at whole
        subst dropped
        split
        · rename_i headBlank
          exact ⟨head :: rest, rfl, by simpa [headBlank] using blank⟩
        · exact ⟨rest, rfl, blank⟩
      · exact ⟨dropped, by simp [whole], blank⟩

/-- A text that is blank throughout is trimmed to nothing. -/
theorem trimEnd_eq_nil_iff {text : List Char} :
    trimEnd text = [] ↔ ∀ character ∈ text, isBlank character = true := by
  induction text with
  | nil =>
      simp [trimEnd]
  | cons head rest inductionHypothesis =>
      rw [trimEnd]
      split <;> rename_i kept
      · simpa using fun _ => inductionHypothesis.mp kept
      · simpa using fun _ => mt inductionHypothesis.mpr kept

end Text

end IpBlocks
