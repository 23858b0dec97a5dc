import IpBlocks.Proofs.Address.Grammar

namespace IpBlocks

/-!
# Characters of addresses

Whatever spells an address consists of digits, dots and colons.  So the marks
that separate the parts of blocks and spans stand in no address
(`Address.Spells.notMem`).
-/

/-- A character that may stand in the text of an address. -/
def Address.IsMarkOrDigit (character : Char) : Prop :=
  character = '.' ∨ character = ':' ∨
    ∃ digit, Numeral.IsDigit 16 character digit

namespace Address.IsMarkOrDigit

theorem dot :
    IsMarkOrDigit '.' :=
  .inl rfl

theorem colon :
    IsMarkOrDigit ':' :=
  .inr (.inl rfl)

/-- What holds of both marks and of every digit holds of these characters. -/
theorem of_each
    (property : Char → Prop)
    (holdsOfDot : property '.')
    (holdsOfColon : property ':')
    (holdsOfDigits :
      ∀ digit < 16,
        property (Nat.digitChar digit) ∧
          property (Nat.digitChar digit).toUpper)
    {character : Char}
    (isMarkOrDigit : IsMarkOrDigit character) :
    property character := by
  rcases isMarkOrDigit with rfl | rfl | ⟨digit, small, rfl | rfl⟩
  · exact holdsOfDot
  · exact holdsOfColon
  · exact (holdsOfDigits digit small).1
  · exact (holdsOfDigits digit small).2

/-- No blank is among these characters. -/
theorem isBlank_eq_false
    {character : Char} :
    IsMarkOrDigit character → Text.isBlank character = false :=
  of_each (fun character => Text.isBlank character = false)
    (by decide) (by decide) (by decide)

/-- The digits of a smaller base are digits as well. -/
theorem of_numeral
    {base number : Nat}
    {text : List Char}
    (sixteen : base ≤ 16)
    (spelled : Numeral.Spells base text number)
    {character : Char}
    (member : character ∈ text) :
    IsMarkOrDigit character := by
  obtain ⟨digit, small, stands⟩ := spelled.exists_digit_of_mem member
  exact .inr (.inr ⟨digit, Nat.lt_of_lt_of_le small sixteen, stands⟩)

/-- Dotted quads consist of digits and dots. -/
theorem of_quad
    {text : List Char}
    {value : Nat}
    (spelled : Quad.Spells text value)
    {character : Char}
    (member : character ∈ text) :
    IsMarkOrDigit character := by
  obtain ⟨parts, octets, stand, -, rfl, -⟩ := spelled
  rcases Text.mem_intercalate member with rfl | ⟨part, inParts, inPart⟩
  · exact dot
  · obtain ⟨octet, -, isOctet⟩ := exists_related_of_mem stand inParts
    exact of_numeral (by decide) isOctet.spelled inPart

theorem of_run
    {quadAllowed : Bool}
    {text : List Char}
    {groups : List Nat}
    (run : Groups.Run quadAllowed text groups)
    {character : Char}
    (member : character ∈ text) :
    IsMarkOrDigit character := by
  induction run with
  | group isGroup =>
      exact of_numeral (Nat.le_refl 16) isGroup.spelled member
  | quad allowed spelled =>
      exact of_quad spelled member
  | more isGroup rest inductionHypothesis =>
      rcases List.mem_append.mp member with inGroup | behind
      · exact of_numeral (Nat.le_refl 16) isGroup.spelled inGroup
      · rcases List.mem_cons.mp behind with rfl | inRest
        · exact colon
        · exact inductionHypothesis inRest

theorem of_side
    {quadAllowed : Bool}
    {text : List Char}
    {groups : List Nat}
    (side : Groups.Side quadAllowed text groups)
    {character : Char}
    (member : character ∈ text) :
    IsMarkOrDigit character := by
  rcases side with ⟨rfl, -⟩ | run
  · cases member
  · exact of_run run member

theorem of_groups
    {text : List Char}
    {value : Nat}
    (spelled : Groups.Spells text value)
    {character : Char}
    (member : character ∈ text) :
    IsMarkOrDigit character := by
  cases spelled with
  | full run eight =>
      exact of_run run member
  | compressed frontRun backRun eight positive =>
      rcases List.mem_append.mp member with inFront | behind
      · exact of_side frontRun inFront
      · rcases List.mem_cons.mp behind with rfl | behind
        · exact colon
        · rcases List.mem_cons.mp behind with rfl | inBack
          · exact colon
          · exact of_side backRun inBack

end Address.IsMarkOrDigit

namespace Address.Spells

variable {text : List Char} {address : Address} {character : Char}

/-- Whatever spells an address consists of digits, dots and colons. -/
theorem isMarkOrDigit_of_mem
    (spelled : Spells text address)
    (member : character ∈ text) :
    IsMarkOrDigit character := by
  rcases spelled with ⟨-, spelled⟩ | ⟨-, spelled⟩
  · exact IsMarkOrDigit.of_quad spelled member
  · exact IsMarkOrDigit.of_groups spelled member

/-- Nothing is trimmed from a text that spells an address. -/
theorem trim_eq (spelled : Spells text address) :
    Text.trim text = text :=
  Text.trim_eq_self fun _ member =>
    (spelled.isMarkOrDigit_of_mem member).isBlank_eq_false

/-- No other character stands in a text that spells an address. -/
theorem notMem
    (noDot : character ≠ '.')
    (noColon : character ≠ ':')
    (noDigit : ∀ digit < 16, ¬ Numeral.IsDigit 16 character digit)
    (spelled : Spells text address) :
    character ∉ text := by
  intro member
  rcases spelled.isMarkOrDigit_of_mem member with
    isDot | isColon | ⟨digit, isDigit⟩
  · exact noDot isDot
  · exact noColon isColon
  · exact noDigit digit isDigit.1 isDigit

theorem hyphen_notMem (spelled : Spells text address) :
    '-' ∉ text :=
  spelled.notMem (by decide) (by decide) (by decide)

end Address.Spells

end IpBlocks
