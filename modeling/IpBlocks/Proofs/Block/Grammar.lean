import IpBlocks.Block.Text
import IpBlocks.Proofs.Address.Grammar
import IpBlocks.Proofs.Outcome

namespace IpBlocks

/-!
# The grammar of blocks

`Block.Verdict` says what is to be made of a text that has no blanks around
it: which texts name which block, and which fault each other text has.  Its
rules exclude each other and cover every text, and reading a block follows
them (`Block.parse_follows_verdict`).

An address at fault comes before a prefix at fault.  A prefix is a decimal
numeral of any length, whose number is never cut down to fit.
-/

/-- The part of a text before its first separator, or all of it without one. -/
def Text.IsFront (separator : Char) (text front : List Char) : Prop :=
  separator ∉ front ∧
    (text = front ∨ ∃ rest, text = front ++ separator :: rest)

/-- A width is far from 32 bits long. -/
theorem Family.width_lt (family : Family) :
    family.width < 2 ^ 32 := by
  cases family <;> decide

namespace Block

/-- A text that has an address before its first slash, and a rest behind it. -/
def IsCut (text : List Char) (address : Address) (rest : List Char) : Prop :=
  ∃ front,
    '/' ∉ front ∧
      text = front ++ '/' :: rest ∧
        Address.Spells (Text.trim front) address

/-- What a text without blanks around it says about a block. -/
inductive Verdict (text : List Char) : Except Fault Block → Prop where
  | noAddress
      {front : List Char}
      (isFront : Text.IsFront '/' text front)
      (unspelled : ∀ address, ¬ Address.Spells (Text.trim front) address) :
      Verdict text
        (.error (.notAnAddress (String.ofList (Text.trim front))))
  | single
      {address : Address}
      (noSlash : '/' ∉ text)
      (spelled : Address.Spells text address) :
      Verdict text
        (.ok (address.enclosing address.family.width (Nat.le_refl _)))
  | noNumeral
      {address : Address}
      {rest : List Char}
      (isCut : IsCut text address rest)
      (notDigits :
        Text.trim rest = [] ∨
          ∃ character ∈ Text.trim rest, character.isDigit = false) :
      Verdict text
        (.error (.malformed ("Invalid prefix: " ++ String.ofList rest)))
  | huge
      {address : Address}
      {rest : List Char}
      {prefixLen : Nat}
      (isCut : IsCut text address rest)
      (numeral : Numeral.Spells 10 (Text.trim rest) prefixLen)
      (large : 2 ^ 32 ≤ prefixLen) :
      Verdict text
        (.error (.malformed ("Invalid prefix: " ++ String.ofList rest)))
  | tooLong
      {address : Address}
      {rest : List Char}
      {prefixLen : Nat}
      (isCut : IsCut text address rest)
      (numeral : Numeral.Spells 10 (Text.trim rest) prefixLen)
      (small : prefixLen < 2 ^ 32)
      (long : address.family.width < prefixLen) :
      Verdict text
        (.error (.prefixTooLong prefixLen address.family.width))
  | block
      {address : Address}
      {rest : List Char}
      {prefixLen : Nat}
      (isCut : IsCut text address rest)
      (numeral : Numeral.Spells 10 (Text.trim rest) prefixLen)
      (short : prefixLen ≤ address.family.width) :
      Verdict text (.ok (address.enclosing prefixLen short))

/-- A prefix length is read from the numerals below the bound, between blanks. -/
theorem readPrefixLen_eq_ok
    {text : List Char}
    {prefixLen : Nat}
    (numeral : Numeral.Spells 10 (Text.trim text) prefixLen)
    (small : prefixLen < 2 ^ 32) :
    readPrefixLen text = .ok prefixLen := by
  have kept :
      (Numeral.read? 10 (Text.trim text)).filter (· < prefixLenBound) =
        some prefixLen :=
    Option.filter_eq_some_iff.mpr
      ⟨(Numeral.read?_eq_some_iff (by decide)).mpr numeral,
        decide_eq_true small⟩
  simp only [readPrefixLen, kept]

/-- Every other prefix is quoted in a fault. -/
theorem readPrefixLen_eq_error
    {text : List Char}
    (noNumeral :
      ∀ prefixLen, Numeral.Spells 10 (Text.trim text) prefixLen →
        2 ^ 32 ≤ prefixLen) :
    readPrefixLen text =
      .error (.malformed ("Invalid prefix: " ++ String.ofList text)) := by
  have dropped :
      (Numeral.read? 10 (Text.trim text)).filter (· < prefixLenBound) =
        none := by
    rw [Option.filter_eq_none_iff]
    intro prefixLen read
    have spelled := (Numeral.read?_eq_some_iff (by decide)).mp read
    have large : prefixLenBound ≤ prefixLen := noNumeral prefixLen spelled
    simpa using large
  simp only [readPrefixLen, dropped]

/-- A text is no decimal numeral if it is empty or has another character. -/
theorem not_spells_iff {text : List Char} :
    (∀ number, ¬ Numeral.Spells 10 text number) ↔
      text = [] ∨ ∃ character ∈ text, character.isDigit = false := by
  rw [← not_exists, Numeral.exists_spells_iff]
  simp only [Numeral.exists_isDigit_iff]
  by_cases nonempty : text = [] <;> simp [nonempty]

namespace IsCut

variable {text rest : List Char} {address : Address}

/-- Behind a slash, the address is followed by what is read as a prefix. -/
theorem read_eq
    (isCut : IsCut (Text.trim text) address rest) :
    read text = (readPrefixLen rest).bind (around address) := by
  obtain ⟨front, noSlash, whole, spelled⟩ := isCut
  have cut :
      Text.cut? '/' (Text.trim text) = some (front, rest) :=
    Text.cut?_eq_some_iff.mpr ⟨whole, noSlash⟩
  simp only [read, cut, Address.read_eq_ok_iff.mpr spelled,
    Outcome.ok_bind]
  rfl

end IsCut

/-- Reading a block gives what its text says. -/
theorem read_eq_of_verdict
    {text : List Char}
    {result : Except Fault Block}
    (verdict : Verdict (Text.trim text) result) :
    read text = result := by
  cases verdict with
  | @noAddress front isFront unspelled =>
      have refused :
          Address.read front =
            .error (.notAnAddress (String.ofList (Text.trim front))) :=
        Address.read_eq_error_iff.mpr ⟨unspelled, rfl⟩
      obtain ⟨noSlash, whole | ⟨rest, whole⟩⟩ := isFront
      · subst front
        have uncut := Text.cut?_eq_none_iff.mpr noSlash
        simp only [read, uncut, refused, Outcome.error_bind]
      · have cut :
            Text.cut? '/' (Text.trim text) = some (front, rest) :=
          Text.cut?_eq_some_iff.mpr ⟨whole, noSlash⟩
        simp only [read, cut, refused, Outcome.error_bind]
  | @single address noSlash spelled =>
      have uncut := Text.cut?_eq_none_iff.mpr noSlash
      -- The address is trimmed once more, which changes nothing.
      rw [← Text.trim_trim] at spelled
      simp only [read, uncut, Address.read_eq_ok_iff.mpr spelled,
        Outcome.ok_bind]
      exact around_eq_ok_iff.mpr ⟨Nat.le_refl _, rfl⟩
  | noNumeral isCut notDigits =>
      have refused :=
        readPrefixLen_eq_error fun prefixLen numeral =>
          absurd numeral (not_spells_iff.mpr notDigits prefixLen)
      rw [isCut.read_eq, refused]
      rfl
  | @huge address rest prefixLen isCut numeral large =>
      have refused :=
        readPrefixLen_eq_error fun other otherNumeral =>
          numeral.unique (by decide) otherNumeral ▸ large
      rw [isCut.read_eq, refused]
      rfl
  | tooLong isCut numeral small long =>
      rw [isCut.read_eq, readPrefixLen_eq_ok numeral small]
      exact around_eq_error_iff.mpr ⟨long, rfl⟩
  | @block address rest prefixLen isCut numeral short =>
      have small : prefixLen < 2 ^ 32 :=
        Nat.lt_of_le_of_lt short address.family.width_lt
      rw [isCut.read_eq, readPrefixLen_eq_ok numeral small]
      exact around_eq_ok_iff.mpr ⟨short, rfl⟩

/-- Behind an address, every rest leads to some verdict. -/
theorem IsCut.exists_verdict
    {text rest : List Char}
    {address : Address}
    (isCut : IsCut text address rest) :
    ∃ result, Verdict text result := by
  by_cases isNumeral :
      ∃ prefixLen, Numeral.Spells 10 (Text.trim rest) prefixLen
  · obtain ⟨prefixLen, numeral⟩ := isNumeral
    rcases Nat.lt_or_ge prefixLen (2 ^ 32) with small | large
    · rcases Nat.lt_or_ge address.family.width prefixLen with long | short
      · exact ⟨_, .tooLong isCut numeral small long⟩
      · exact ⟨_, .block isCut numeral short⟩
    · exact ⟨_, .huge isCut numeral large⟩
  · exact ⟨_, .noNumeral isCut (not_spells_iff.mp (not_exists.mp isNumeral))⟩

/-- Something is to be made of every text. -/
theorem exists_verdict (text : List Char) :
    ∃ result, Verdict (Text.trim text) result := by
  cases cut : Text.cut? '/' (Text.trim text) with
  | none =>
      have noSlash := Text.cut?_eq_none_iff.mp cut
      by_cases isAddress :
          ∃ address, Address.Spells (Text.trim (Text.trim text)) address
      · obtain ⟨address, spelled⟩ := isAddress
        rw [Text.trim_trim] at spelled
        exact ⟨_, .single noSlash spelled⟩
      · exact
          ⟨_, .noAddress ⟨noSlash, Or.inl rfl⟩ (not_exists.mp isAddress)⟩
  | some parts =>
      obtain ⟨front, rest⟩ := parts
      obtain ⟨whole, noSlash⟩ := Text.cut?_eq_some_iff.mp cut
      by_cases isAddress :
          ∃ address, Address.Spells (Text.trim front) address
      · obtain ⟨address, spelled⟩ := isAddress
        have isCut : IsCut (Text.trim text) address rest :=
          ⟨front, noSlash, whole, spelled⟩
        exact isCut.exists_verdict
      · exact
          ⟨_, .noAddress ⟨noSlash, Or.inr ⟨rest, whole⟩⟩
            (not_exists.mp isAddress)⟩

/-- Of every text, what it says is read, and nothing else. -/
theorem read_eq_iff
    {text : List Char}
    {result : Except Fault Block} :
    read text = result ↔ Verdict (Text.trim text) result := by
  constructor
  · rintro rfl
    obtain ⟨result, verdict⟩ := exists_verdict text
    rw [read_eq_of_verdict verdict]
    exact verdict
  · exact read_eq_of_verdict

/-- Only the first slash of a text cuts it. -/
theorem IsCut.rest_eq
    {text front rest otherRest : List Char}
    {address : Address}
    (isCut : IsCut text address rest)
    (noSlash : '/' ∉ front)
    (whole : text = front ++ '/' :: otherRest) :
    rest = otherRest := by
  obtain ⟨otherFront, otherNoSlash, otherWhole, -⟩ := isCut
  have cut := Text.cut?_eq_some_iff.mpr ⟨whole, noSlash⟩
  rw [Text.cut?_eq_some_iff.mpr ⟨otherWhole, otherNoSlash⟩] at cut
  cases cut
  rfl

/--
Of every text, with the blanks around it dropped, exactly what it says is
read; and where a block is read from a text with a slash, its prefix length is
the number that stands behind the slash.
-/
theorem parse_follows_verdict (text : String) :
    let trimmed := Text.trim text.toList
    (∀ result : Except Fault Block,
      parse text = result ↔ Verdict trimmed result) ∧
      ∀ (block : Block) (front rest : List Char),
        parse text = .ok block →
          trimmed = front ++ '/' :: rest →
            '/' ∉ front →
              Numeral.Spells 10 (Text.trim rest) block.prefixLen := by
  intro trimmed
  refine ⟨fun result => read_eq_iff, ?_⟩
  intro block front rest accepted whole noSlash
  have verdict : Verdict trimmed (.ok block) := read_eq_iff.mp accepted
  cases verdict with
  | single absent spelled =>
      rw [whole] at absent
      exact absurd (List.mem_append_right front List.mem_cons_self) absent
  | block isCut numeral short =>
      exact isCut.rest_eq noSlash whole ▸ numeral

/-- A prefix of any length counts in full, and one beyond 32 bits is refused. -/
theorem parse_follows_verdict_in_full :
    let refused := "10.1.2.3/4294967304"
    let text := " 10.1.2.3 / 00000000000000000008"
    let front := "10.1.2.3 ".toList
    let rest := " 00000000000000000008".toList
    let block : Block :=
      ⟨.truncated .v4 0x0a000000, 8, by decide, by decide⟩
    parse refused =
        .error (.malformed "Invalid prefix: 4294967304") ∧
      parse text = .ok block ∧
        Text.trim text.toList = front ++ '/' :: rest ∧
          '/' ∉ front ∧
            Numeral.Spells 10 (Text.trim rest) block.prefixLen := by
  intro refused text front rest block
  have spelled :
      Address.Spells (Text.trim "10.1.2.3".toList)
        (.truncated .v4 0x0a010203) :=
    Address.ofChars?_eq_some_iff.mp (by decide +kernel)
  have numeral :
      Numeral.Spells 10 (Text.trim "4294967304".toList) 4294967304 :=
    (Numeral.read?_eq_some_iff (by decide)).mp (by decide +kernel)
  have verdict :
      Verdict (Text.trim refused.toList)
        (.error (.malformed "Invalid prefix: 4294967304")) :=
    .huge ⟨"10.1.2.3".toList, by decide, by decide +kernel, spelled⟩
      numeral (by decide)
  have accepted : parse text = .ok block := by
    decide +kernel
  have whole : Text.trim text.toList = front ++ '/' :: rest := by
    decide +kernel
  have noSlash : '/' ∉ front := by
    decide
  exact
    ⟨((parse_follows_verdict refused).1 _).mpr verdict, accepted, whole,
      noSlash,
      (parse_follows_verdict text).2 block front rest accepted whole
        noSlash⟩

end Block

end IpBlocks
