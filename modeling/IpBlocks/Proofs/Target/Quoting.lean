import IpBlocks.Proofs.Refusal
import IpBlocks.Proofs.Target.Dispatch
import IpBlocks.Proofs.Target.Reading

namespace IpBlocks

/-!
# What messages quote

The message of a fault is put together from words of its own, from numbers and
addresses, and from parts of the text that is refused, which are quoted as they
stand.  So a message holds no character beside the printable ASCII characters
that the text does not hold (`Mode.message_quotes`).
-/

namespace Text

/-- The printable ASCII characters, from the space to the tilde. -/
def isPrintable (character : Char) : Bool :=
  0x20 ≤ character.toNat && character.toNat ≤ 0x7E

/-- What is not printable in a message stands in the text that it quotes. -/
def Quotes (text : List Char) (message : String) : Prop :=
  ∀ character ∈ message.toList,
    character ∈ text ∨ isPrintable character = true

namespace Quotes

variable {text part : List Char} {front back : String}

theorem append
    (frontQuotes : Quotes text front)
    (backQuotes : Quotes text back) :
    Quotes text (front ++ back) := by
  intro character member
  rw [String.toList_append, List.mem_append] at member
  exact member.elim (frontQuotes character) (backQuotes character)

/-- Words of a message quote nothing. -/
theorem of_printable
    (printable : front.toList.all isPrintable = true) :
    Quotes text front :=
  fun character member =>
    .inr (List.all_eq_true.mp printable character member)

/-- A part of a text is quoted from it. -/
theorem of_subset (within : part ⊆ text) :
    Quotes text (String.ofList part) := by
  intro character member
  rw [String.toList_ofList] at member
  exact .inl (within member)

theorem mono
    (within : part ⊆ text)
    (quotes : Quotes part front) :
    Quotes text front :=
  fun character member => (quotes character member).imp_left (within ·)

/-- A number quotes nothing. -/
theorem of_number (number : Nat) :
    Quotes text (toString number) := by
  intro character member
  have isDigit : character ∈ Nat.toDigits 10 number := by
    simpa using member
  obtain ⟨digit, small, rfl⟩ :=
    Numeral.exists_digitChar_of_mem (by decide) isDigit
  have printable :
      ∀ digit < 10, isPrintable (Nat.digitChar digit) = true := by
    decide
  exact .inr (printable digit small)

end Quotes

end Text

/-- All characters of addresses are printable. -/
theorem Address.IsMarkOrDigit.isPrintable
    {character : Char} :
    IsMarkOrDigit character → Text.isPrintable character = true :=
  of_each (fun character => Text.isPrintable character = true)
    (by decide) (by decide) (by decide)

/-- The text of an address quotes nothing. -/
theorem Address.toString_quotes (address : Address) (text : List Char) :
    Text.Quotes text (toString address) := by
  intro character member
  rw [toList_toString] at member
  exact .inr (address.spells_chars.isMarkOrDigit_of_mem member).isPrintable

namespace Fault

open Text

variable {text part : List Char}

theorem notAnAddress_quotes (within : part ⊆ text) :
    Quotes text (message (.notAnAddress (String.ofList part))) :=
  (Quotes.of_printable (by decide +kernel)).append (.of_subset within)

theorem malformed_quotes
    {words : String}
    (printable : words.toList.all isPrintable = true)
    (within : part ⊆ text) :
    Quotes text (message (.malformed (words ++ String.ofList part))) :=
  (Quotes.of_printable (by decide +kernel)).append
    ((Quotes.of_printable printable).append (.of_subset within))

theorem prefixTooLong_quotes (prefixLen width : Nat) :
    Quotes text (message (.prefixTooLong prefixLen width)) := by
  have wording :
      message (.prefixTooLong prefixLen width) =
        "Invalid prefix length: " ++ toString prefixLen ++
          " (must be 0-" ++ toString width ++ ")" :=
    rfl
  rw [wording]
  exact
    ((((Quotes.of_printable (by decide +kernel)).append
          (.of_number prefixLen)).append
        (.of_printable (by decide +kernel))).append
      (.of_number width)).append (.of_printable (by decide +kernel))

theorem mixedFamilies_quotes (one other : Address) :
    Quotes text
      (message (.mixedFamilies (toString one) (toString other))) := by
  have wording :
      message (.mixedFamilies (toString one) (toString other)) =
        "Cannot mix IPv4 and IPv6: " ++ toString one ++ " and " ++
          toString other :=
    rfl
  rw [wording]
  exact
    (((Quotes.of_printable (by decide +kernel)).append
        (one.toString_quotes text)).append
      (.of_printable (by decide +kernel))).append (other.toString_quotes text)

end Fault

namespace Block

/-- What stands behind the slash of a text stands in the text. -/
theorem IsCut.rest_subset
    {text rest : List Char}
    {address : Address}
    (isCut : IsCut text address rest) :
    rest ⊆ text := by
  obtain ⟨front, -, rfl, -⟩ := isCut
  intro character member
  exact List.mem_append_right front (List.mem_cons_of_mem '/' member)

theorem message_quotes
    {text : List Char}
    {fault : Fault}
    (refused : read text = .error fault) :
    Text.Quotes text fault.message := by
  have verdict := read_eq_iff.mp refused
  apply Text.Quotes.mono (Text.trim_subset text)
  cases verdict with
  | @noAddress front isFront unspelled =>
      have within : front ⊆ Text.trim text := by
        rcases isFront.2 with whole | ⟨rest, whole⟩
        · rw [← whole]
          exact List.Subset.refl _
        · rw [whole]
          exact List.subset_append_left front _
      exact
        Fault.notAnAddress_quotes
          (List.Subset.trans (Text.trim_subset front) within)
  | noNumeral isCut notDigits =>
      exact Fault.malformed_quotes (by decide +kernel) isCut.rest_subset
  | huge isCut numeral large =>
      exact Fault.malformed_quotes (by decide +kernel) isCut.rest_subset
  | tooLong isCut numeral small long =>
      exact Fault.prefixTooLong_quotes _ _

end Block

namespace Target

variable {text front back : List Char}

theorem Parts.front_subset (parts : Parts text front back) :
    front ⊆ text := by
  rw [parts.whole]
  exact List.subset_append_left front _

theorem Parts.back_subset (parts : Parts text front back) :
    back ⊆ text := by
  rw [parts.whole]
  intro character member
  exact List.mem_append_right front (List.mem_cons_of_mem '-' member)

/-- For whatever reason a text is refused, the message quotes the text. -/
theorem Refusal.message_quotes
    {fault : Fault}
    (refusal : Refusal text fault) :
    Text.Quotes text fault.message := by
  cases refusal with
  | manyHyphens many =>
      exact Fault.malformed_quotes (by decide +kernel) (Text.trim_subset text)
  | @noFirst front back parts unspelled =>
      exact
        Fault.notAnAddress_quotes
          (List.Subset.trans (Text.trim_subset front) parts.front_subset)
  | @noLast front back one parts spelled unspelled =>
      exact
        Fault.notAnAddress_quotes
          (List.Subset.trans (Text.trim_subset back) parts.back_subset)
  | @mixed front back one other parts spelled otherSpelled families =>
      exact Fault.mixedFamilies_quotes one other
  | noBlock noHyphen refused =>
      exact Block.message_quotes refused

end Target

/-- The message for a refused target holds nothing unprintable but what the target holds. -/
theorem Mode.message_quotes
    {mode : Mode}
    {target : String}
    {fault : Fault}
    (refused : mode.lines target = .error fault) :
    Text.Quotes target.toList fault.message := by
  rw [lines_eq_error_iff] at refused
  exact (Target.read_eq_error_iff.mp refused).message_quotes

end IpBlocks
