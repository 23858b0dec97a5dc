import IpBlocks.Text.Blank
import IpBlocks.Text.GraphemeBase

namespace IpBlocks

/-!
# Quoted texts

A message quotes a text between two quotation marks in such a way that every
character of it can be told apart. The quotation mark and the backslash are
written behind a backslash, some control characters by a letter, and all
other characters that do not show on their own by their code point.
-/

namespace Text

/-- Whether a character shows on its own. -/
def isVisible (character : Char) : Bool :=
  isGraphemeBase character && (character = ' ' || !isBlank character)

/-- A character as a quotation shows it. -/
def quotedChar (character : Char) : List Char :=
  match character with
  | '"' => ['\\', '"']
  | '\\' => ['\\', '\\']
  | '\n' => ['\\', 'n']
  | '\r' => ['\\', 'r']
  | '\t' => ['\\', 't']
  | '\x00' => ['\\', '0']
  | _ =>
      if isVisible character then
        [character]
      else
        ['\\', 'u', '\x7b'] ++ Nat.toDigits 16 character.toNat ++ ['\x7d']

/-- A text between quotation marks. -/
def quoted (text : String) : String :=
  String.ofList ('"' :: text.toList.flatMap quotedChar ++ ['"'])

/-- The printable ASCII characters are visible. -/
theorem isVisible_of_printable
    {character : Char}
    (fromSpace : 0x20 ≤ character.toNat)
    (toTilde : character.toNat ≤ 0x7E) :
    isVisible character = true := by
  rw [isVisible, isGraphemeBase_of_printable fromSpace toTilde, Bool.true_and,
    Bool.or_eq_true, decide_eq_true_eq]
  by_cases space : character = ' '
  · exact Or.inl space
  · have different : character.toNat ≠ 0x20 :=
      fun same => space (Char.toNat_inj.mp same)
    right
    simp [isBlank, inRanges, blankRanges]
    omega

end Text

end IpBlocks
