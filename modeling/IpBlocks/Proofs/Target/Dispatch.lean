import IpBlocks.Proofs.Address.Marks
import IpBlocks.Proofs.Block.Grammar
import IpBlocks.Proofs.Text.Padding
import IpBlocks.Target

namespace IpBlocks

/-!
# Which targets are blocks and which are spans

A target is read as a span if its text has a hyphen, and as a block otherwise.
No text of a block has a hyphen and every text of a span has one, so nothing is
lost by looking at the hyphen alone.

`Target.Refusal` lists why a text is refused, in the order in which the reasons
count: too many hyphens, then the address before the hyphen, then the one
behind it, then their families.  Reading a target fails exactly for these
reasons (`Target.read_eq_error_iff`).
-/

/-- Blanks around the text of an address make no difference. -/
theorem Address.read_of_trim_eq
    {one other : List Char}
    (same : Text.trim one = Text.trim other) :
    read one = read other := by
  rw [read, read, same]

namespace Block

/-- Behind the first slash there must be a prefix length, and an address before it. -/
theorem read_slash
    {front : List Char}
    (isFirst : '/' ∉ front)
    (back : List Char) :
    read (front ++ '/' :: back) =
      (do
        let address ← Address.read front
        let prefixLen ← readPrefixLen (Text.trimEnd back)
        around address prefixLen) := by
  have sameFront :=
    Address.read_of_trim_eq (Text.trim_dropWhile front)
  simp only [read, Text.cut?_trim_marked (by decide) isFirst, sameFront]

/-- A text with a hyphen names no block. -/
theorem hyphen_notMem_of_read
    {text : List Char}
    {block : Block}
    (accepted : read text = .ok block) :
    '-' ∉ text := by
  have verdict := read_eq_iff.mp accepted
  rw [← Text.mem_trim_iff (by decide)]
  intro member
  cases verdict with
  | single noSlash spelled =>
      exact spelled.hyphen_notMem member
  | block isCut numeral short =>
      obtain ⟨front, -, whole, spelled⟩ := isCut
      rw [whole] at member
      rcases List.mem_append.mp member with inFront | behind
      · have inAddress := (Text.mem_trim_iff (by decide)).mpr inFront
        exact spelled.hyphen_notMem inAddress
      · rcases List.mem_cons.mp behind with isSlash | inRest
        · cases isSlash
        · have inNumeral := (Text.mem_trim_iff (by decide)).mpr inRest
          exact numeral.notMem (by decide) inNumeral

end Block

namespace Span

theorem read_of_trim_eq
    {one other : List Char}
    (same : Text.trim one = Text.trim other) :
    read one = read other := by
  simp only [read, same]

/-- Only a text with a hyphen names a span. -/
theorem hyphen_mem_of_read
    {text : List Char}
    {span : Span}
    (accepted : read text = .ok span) :
    '-' ∈ text := by
  rw [← Text.mem_trim_iff (by decide)]
  by_contra noHyphen
  simp only [read, Text.cut?_eq_none_iff.mpr noHyphen] at accepted
  cases accepted

/-- Behind the first hyphen there must be no other, and each part is an address. -/
theorem read_hyphen
    {front : List Char}
    (isFirst : '-' ∉ front)
    (back : List Char) :
    read (front ++ '-' :: back) =
      if '-' ∈ back then
        .error (.malformed
          ("Expected a single '-' in range: " ++
            String.ofList (Text.trim (front ++ '-' :: back))))
      else
        (do
          let one ← Address.read front
          let other ← Address.read back
          between one other) := by
  have solid : Text.isBlank '-' = false := by
    decide
  have sameFront :=
    Address.read_of_trim_eq (Text.trim_dropWhile front)
  have sameBack := Address.read_of_trim_eq (Text.trim_trimEnd back)
  simp only [read, Text.cut?_trim_marked solid isFirst,
    Text.mem_trimEnd_iff solid, sameFront, sameBack]

/-- There is no span exactly between addresses of different families. -/
theorem between_eq_error_iff {one other : Address} {fault : Fault} :
    between one other = .error fault ↔
      one.family ≠ other.family ∧
        fault = .mixedFamilies (toString one) (toString other) := by
  rw [between]
  split <;> rename_i family
  · split <;> simp [family]
  · simp [family, eq_comm]

end Span

namespace Target

variable {text : List Char}

/-- A text with a hyphen is read as a span. -/
theorem read_of_hyphen (hyphen : '-' ∈ text) :
    read text = (Span.read text).map span := by
  have kept := (Text.mem_trim_iff (by decide)).mpr hyphen
  rw [read, if_pos kept, Span.read_of_trim_eq (Text.trim_trim text)]

/-- A text without a hyphen is read as a block. -/
theorem read_of_no_hyphen (noHyphen : '-' ∉ text) :
    read text = (Block.read text).map block := by
  have kept := mt (Text.mem_trim_iff (by decide)).mp noHyphen
  rw [read, if_neg kept]
  simp only [Block.read, Text.trim_trim]

/-- The targets that are blocks are those that are read as blocks. -/
theorem read_eq_block_iff {single : Block} :
    read text = .ok (.block single) ↔ Block.read text = .ok single := by
  by_cases hyphen : '-' ∈ text
  · rw [read_of_hyphen hyphen]
    constructor
    · intro accepted
      cases whole : Span.read text <;> rw [whole] at accepted <;>
        cases accepted
    · intro accepted
      exact absurd hyphen (Block.hyphen_notMem_of_read accepted)
  · rw [read_of_no_hyphen hyphen]
    cases Block.read text <;> simp [Except.map]

/-- The targets that are spans are those that are read as spans. -/
theorem read_eq_span_iff {whole : Span} :
    read text = .ok (.span whole) ↔ Span.read text = .ok whole := by
  by_cases hyphen : '-' ∈ text
  · rw [read_of_hyphen hyphen]
    cases Span.read text <;> simp [Except.map]
  · rw [read_of_no_hyphen hyphen]
    constructor
    · intro accepted
      cases single : Block.read text <;> rw [single] at accepted <;>
        cases accepted
    · intro accepted
      exact absurd (Span.hyphen_mem_of_read accepted) hyphen

/-- The parts of a text with a single hyphen. -/
structure Parts (text front back : List Char) : Prop where
  whole : text = front ++ '-' :: back
  isFirst : '-' ∉ front
  isLast : '-' ∉ back

/-- Why a text names no target. -/
inductive Refusal (text : List Char) : Fault → Prop where
  | manyHyphens
      (many : 2 ≤ text.count '-') :
      Refusal text
        (.malformed
          ("Expected a single '-' in range: " ++
            String.ofList (Text.trim text)))
  | noFirst
      {front back : List Char}
      (parts : Parts text front back)
      (unspelled : ∀ address, ¬ Address.Spells (Text.trim front) address) :
      Refusal text (.notAnAddress (String.ofList (Text.trim front)))
  | noLast
      {front back : List Char}
      {one : Address}
      (parts : Parts text front back)
      (spelled : Address.Spells (Text.trim front) one)
      (unspelled : ∀ address, ¬ Address.Spells (Text.trim back) address) :
      Refusal text (.notAnAddress (String.ofList (Text.trim back)))
  | mixed
      {front back : List Char}
      {one other : Address}
      (parts : Parts text front back)
      (spelled : Address.Spells (Text.trim front) one)
      (otherSpelled : Address.Spells (Text.trim back) other)
      (families : one.family ≠ other.family) :
      Refusal text (.mixedFamilies (toString one) (toString other))
  | noBlock
      {fault : Fault}
      (noHyphen : '-' ∉ text)
      (refused : Block.read text = .error fault) :
      Refusal text fault

/-- With a single hyphen, reading fails at the first part that is no address. -/
theorem read_parts
    {front back : List Char}
    (parts : Parts text front back) :
    read text =
      (do
        let one ← Address.read front
        let other ← Address.read back
        Span.between one other).map span := by
  obtain ⟨rfl, isFirst, isLast⟩ := parts
  rw [read_of_hyphen (by simp), Span.read_hyphen isFirst, if_neg isLast]

/-- Behind the first hyphen there is another exactly if there are several. -/
theorem two_le_count_iff
    {front : List Char}
    (isFirst : '-' ∉ front)
    (back : List Char) :
    2 ≤ (front ++ '-' :: back).count '-' ↔ '-' ∈ back := by
  rw [List.count_append, List.count_eq_zero.mpr isFirst,
    List.count_cons_self, ← List.count_pos_iff]
  omega

theorem read_of_many_hyphens (many : 2 ≤ text.count '-') :
    read text =
      .error (.malformed
        ("Expected a single '-' in range: " ++
          String.ofList (Text.trim text))) := by
  have hyphen : '-' ∈ text :=
    List.count_pos_iff.mp (Nat.lt_of_lt_of_le Nat.two_pos many)
  obtain ⟨front, back, rfl, isFirst⟩ := List.eq_append_cons_of_mem hyphen
  have another := (two_le_count_iff isFirst back).mp many
  rw [read_of_hyphen hyphen, Span.read_hyphen isFirst, if_pos another]
  rfl

/-- For whatever reason a text is refused, reading it fails for that reason. -/
theorem Refusal.read_eq
    {fault : Fault}
    (refusal : Refusal text fault) :
    read text = .error fault := by
  cases refusal with
  | manyHyphens many =>
      exact read_of_many_hyphens many
  | noFirst parts unspelled =>
      have first := Address.read_eq_error_iff.mpr ⟨unspelled, rfl⟩
      rw [read_parts parts, first]
      rfl
  | noLast parts spelled unspelled =>
      have first := Address.read_eq_ok_iff.mpr spelled
      have last := Address.read_eq_error_iff.mpr ⟨unspelled, rfl⟩
      rw [read_parts parts, first, last]
      rfl
  | mixed parts spelled otherSpelled families =>
      have first := Address.read_eq_ok_iff.mpr spelled
      have last := Address.read_eq_ok_iff.mpr otherSpelled
      have apart := Span.between_eq_error_iff.mpr ⟨families, rfl⟩
      rw [read_parts parts, first, last, Outcome.ok_bind, Outcome.ok_bind,
        apart]
      rfl
  | noBlock noHyphen refused =>
      rw [read_of_no_hyphen noHyphen, refused]
      rfl

/-- A text with a single hyphen that is not read is refused at one of its parts. -/
theorem Parts.exists_refusal
    {front back : List Char}
    {fault : Fault}
    (parts : Parts text front back)
    (refused : read text = .error fault) :
    Refusal text fault := by
  rw [read_parts parts, Outcome.map_eq_error_iff] at refused
  rcases Outcome.bind_eq_error_iff.mp refused with
    atFirst | ⟨one, isOne, behind⟩
  · obtain ⟨unspelled, rfl⟩ := Address.read_eq_error_iff.mp atFirst
    exact .noFirst parts unspelled
  · have spelled := Address.read_eq_ok_iff.mp isOne
    rcases Outcome.bind_eq_error_iff.mp behind with
      atLast | ⟨other, isOther, apart⟩
    · obtain ⟨unspelled, rfl⟩ := Address.read_eq_error_iff.mp atLast
      exact .noLast parts spelled unspelled
    · have otherSpelled := Address.read_eq_ok_iff.mp isOther
      obtain ⟨families, rfl⟩ := Span.between_eq_error_iff.mp apart
      exact .mixed parts spelled otherSpelled families

/-- Reading a target fails exactly for the reasons for which texts are refused. -/
theorem read_eq_error_iff {fault : Fault} :
    read text = .error fault ↔ Refusal text fault := by
  refine ⟨?_, Refusal.read_eq⟩
  intro refused
  by_cases hyphen : '-' ∈ text
  · obtain ⟨front, back, rfl, isFirst⟩ :=
      List.eq_append_cons_of_mem hyphen
    by_cases another : '-' ∈ back
    · have many := (two_le_count_iff isFirst back).mpr another
      rw [read_of_many_hyphens many] at refused
      cases refused
      exact .manyHyphens many
    · have parts : Parts (front ++ '-' :: back) front back :=
        ⟨rfl, isFirst, another⟩
      exact parts.exists_refusal refused
  · rw [read_of_no_hyphen hyphen, Outcome.map_eq_error_iff] at refused
    exact .noBlock hyphen refused

/--
Of every text, the block or the span that it names is the target that it names,
no text names both, and a text that names no target is refused for the first
reason that applies: several hyphens, no address before the hyphen, none behind
it, addresses of two families, or (without a hyphen) what keeps it from naming
a block.
-/
theorem parse_loses_nothing (text : String) :
    (∀ single : Block,
      parse text = .ok (.block single) ↔ Block.parse text = .ok single) ∧
    (∀ whole : Span,
      parse text = .ok (.span whole) ↔ Span.parse text = .ok whole) ∧
    ¬ ((∃ single, Block.parse text = .ok single) ∧
      ∃ whole, Span.parse text = .ok whole) ∧
    ∀ fault : Fault,
      parse text = .error fault ↔ Refusal text.toList fault := by
  refine ⟨fun _ => read_eq_block_iff, fun _ => read_eq_span_iff, ?_,
    fun _ => read_eq_error_iff⟩
  rintro ⟨⟨single, isBlock⟩, whole, isSpan⟩
  exact
    Block.hyphen_notMem_of_read isBlock (Span.hyphen_mem_of_read isSpan)

/-- Two faults at once: the hyphens count before the parts, and the first part before the second. -/
example :
    parse "x-y-z" =
        .error (.malformed "Expected a single '-' in range: x-y-z") ∧
      parse " x - ::1" = .error (.notAnAddress "x") ∧
      parse "10.0.0.1 -::FFFF:0:1" =
        .error (.mixedFamilies "10.0.0.1" "::ffff:0.0.0.1") := by
  decide +kernel

end Target

end IpBlocks
