import IpBlocks.Address.Text
import IpBlocks.Proofs.Text.Parts
import IpBlocks.Proofs.Text.Spelling

namespace IpBlocks

/-!
# The grammar of addresses

The texts that stand for an address are given by relations that know nothing
of cutting a text into parts.  `Quad.Spells` is the dotted quad of an IPv4
address.  `Groups.Spells` is an IPv6 address as eight groups between colons,
where one double colon may stand for one or more zero groups and a dotted quad
for the last two groups.

An address is read from a text exactly if the text, without blanks around it,
spells that address, and no text spells addresses of both families
(`Address.parse_follows_grammar`).
-/

namespace Quad

/-- One to three decimal digits for a number below 256, without leading zeros. -/
structure IsOctet (text : List Char) (octet : Nat) : Prop where
  spelled : Numeral.Spells 10 text octet
  short : text.length ≤ 3
  small : octet ≤ 255
  noLeadingZero : text.head? = some '0' → text = ['0']

/-- Four octets with dots between them, the most significant one first. -/
def Spells (text : List Char) (value : Nat) : Prop :=
  ∃ parts octets,
    List.Forall₂ IsOctet parts octets ∧
      octets.length = 4 ∧
        ['.'].intercalate parts = text ∧
          Positional.number 256 octets = value

theorem octet?_eq_some_iff {text : List Char} {octet : Nat} :
    octet? text = some octet ↔ IsOctet text octet := by
  simp only [octet?, Option.ite_none_left_eq_some, not_or, not_and,
    Decidable.not_not, Nat.not_lt, Option.filter_eq_some_iff,
    Numeral.read?_eq_some_iff (by decide : 10 ≤ 16), decide_eq_true_eq]
  constructor
  · rintro ⟨⟨short, noLeadingZero⟩, spelled, small⟩
    exact ⟨spelled, short, small, noLeadingZero⟩
  · rintro ⟨spelled, short, small, noLeadingZero⟩
    exact ⟨⟨short, noLeadingZero⟩, spelled, small⟩

theorem octets?_eq_some_iff
    {parts : List (List Char)}
    {octets : List Nat} :
    octets? parts = some octets ↔ List.Forall₂ IsOctet parts octets :=
  readAll?_eq_some_iff octet? octets? rfl (fun _ _ => rfl)
    fun _ _ => octet?_eq_some_iff

/-- A number is read from exactly the dotted quads that spell it. -/
theorem read?_eq_some_iff {text : List Char} {value : Nat} :
    read? text = some value ↔ Spells text value := by
  simp only [read?, Option.bind_eq_bind, Option.bind_eq_some_iff,
    octets?_eq_some_iff, Option.ite_none_right_eq_some, Option.some.injEq]
  constructor
  · rintro ⟨octets, stand, four, spelled⟩
    exact ⟨text.splitOn '.', octets, stand, four,
      List.intercalate_splitOn '.', spelled⟩
  · rintro ⟨parts, octets, stand, four, rfl, spelled⟩
    have noDot : ∀ part ∈ parts, '.' ∉ part := by
      intro part member
      obtain ⟨octet, -, isOctet⟩ := exists_related_of_mem stand member
      exact isOctet.spelled.notMem (by decide)
    have nonempty : parts ≠ [] := by
      rintro rfl
      cases stand
      cases four
    refine ⟨octets, ?_, four, spelled⟩
    rwa [List.splitOn_intercalate '.' noDot nonempty]

namespace Spells

variable {text : List Char} {value : Nat}

/-- A dotted quad spells a number of 32 bits. -/
theorem value_lt (spelled : Spells text value) :
    value < 2 ^ 32 := by
  obtain ⟨parts, octets, stand, four, -, rfl⟩ := spelled
  have small : ∀ octet ∈ octets, octet < 256 := by
    intro octet member
    obtain ⟨part, -, isOctet⟩ := exists_related_of_mem stand.flip member
    exact Nat.lt_succ_of_le isOctet.small
  have bounded := Positional.number_lt small
  rwa [four] at bounded

theorem dot_mem (spelled : Spells text value) :
    '.' ∈ text := by
  obtain ⟨parts, octets, stand, four, rfl, -⟩ := spelled
  rw [← stand.length_eq] at four
  match parts, four with
  | [first, second, third, fourth], _ =>
      simp [List.intercalate_cons_cons]

/-- Only digits and dots stand in a dotted quad. -/
theorem colon_notMem (spelled : Spells text value) :
    ':' ∉ text := by
  obtain ⟨parts, octets, stand, -, rfl, -⟩ := spelled
  intro member
  rcases Text.mem_intercalate member with isDot | ⟨part, inParts, inPart⟩
  · cases isDot
  · obtain ⟨octet, -, isOctet⟩ := exists_related_of_mem stand inParts
    exact isOctet.spelled.notMem (by decide) inPart

end Spells

/-- A text with a colon is no dotted quad. -/
theorem read?_eq_none_of_colon
    {text : List Char}
    (member : ':' ∈ text) :
    read? text = none := by
  apply Option.eq_none_iff_forall_ne_some.mpr
  intro value read
  exact (read?_eq_some_iff.mp read).colon_notMem member

end Quad

namespace Groups

/-- One to four hexadecimal digits. -/
structure IsGroup (text : List Char) (group : Nat) : Prop where
  spelled : Numeral.Spells 16 text group
  short : text.length ≤ 4

/-- Groups with colons between them, where the last two may be a dotted quad. -/
inductive Run (quadAllowed : Bool) : List Char → List Nat → Prop where
  | group
      {text : List Char}
      {group : Nat}
      (isGroup : IsGroup text group) :
      Run quadAllowed text [group]
  | quad
      {text : List Char}
      {value : Nat}
      (allowed : quadAllowed = true)
      (spelled : Quad.Spells text value) :
      Run quadAllowed text [value / 65536, value % 65536]
  | more
      {text later : List Char}
      {group : Nat}
      {groups : List Nat}
      (isGroup : IsGroup text group)
      (rest : Run quadAllowed later groups) :
      Run quadAllowed (text ++ ':' :: later) (group :: groups)

/-- The groups on one side of a double colon, of which there may be none. -/
def Side (quadAllowed : Bool) (text : List Char) (groups : List Nat) : Prop :=
  (text = [] ∧ groups = []) ∨ Run quadAllowed text groups

/-- Eight groups, of which one double colon may leave out a run of zeros. -/
inductive Spells : List Char → Nat → Prop where
  | full
      {text : List Char}
      {groups : List Nat}
      (run : Run true text groups)
      (eight : groups.length = 8) :
      Spells text (Positional.number 65536 groups)
  | compressed
      {before after : List Char}
      {front back : List Nat}
      {zeros : Nat}
      (frontRun : Side false before front)
      (backRun : Side true after back)
      (eight : front.length + zeros + back.length = 8)
      (positive : 0 < zeros) :
      Spells (before ++ ':' :: ':' :: after)
        (Positional.number 65536
          (front ++ List.replicate zeros 0 ++ back))

theorem group?_eq_some_iff {text : List Char} {group : Nat} :
    group? text = some group ↔ IsGroup text group := by
  simp only [group?, Option.ite_none_left_eq_some, Nat.not_lt,
    Numeral.read?_eq_some_iff (by decide : 16 ≤ 16)]
  constructor
  · rintro ⟨short, spelled⟩
    exact ⟨spelled, short⟩
  · rintro ⟨spelled, short⟩
    exact ⟨short, spelled⟩

namespace IsGroup

variable {text : List Char} {group : Nat}

theorem colon_notMem (isGroup : IsGroup text group) :
    ':' ∉ text :=
  isGroup.spelled.notMem (by decide)

theorem dot_notMem (isGroup : IsGroup text group) :
    '.' ∉ text :=
  isGroup.spelled.notMem (by decide)

theorem lt (isGroup : IsGroup text group) :
    group < 65536 :=
  Nat.lt_of_lt_of_le isGroup.spelled.lt_pow
    (Nat.pow_le_pow_right (by decide) isGroup.short)

end IsGroup

/-- The two groups of a dotted quad spell the number of the quad. -/
theorem digits_of_quad {value : Nat} (small : value < 2 ^ 32) :
    Positional.digits 65536 2 value = [value / 65536, value % 65536] := by
  have quotient : value / 65536 % 65536 = value / 65536 :=
    Nat.mod_eq_of_lt (Nat.div_lt_of_lt_mul small)
  simp [Positional.digits, quotient]

namespace Run

variable
  {quadAllowed : Bool}
  {text : List Char}
  {groups : List Nat}

theorem lt_of_mem
    (run : Run quadAllowed text groups)
    {group : Nat}
    (member : group ∈ groups) :
    group < 65536 := by
  induction run with
  | group isGroup =>
      exact List.mem_singleton.mp member ▸ isGroup.lt
  | @quad text value allowed spelled =>
      have digits := digits_of_quad spelled.value_lt
      rw [← digits] at member
      exact Positional.lt_of_mem_digits (by decide) member
  | more isGroup rest inductionHypothesis =>
      rcases List.mem_cons.mp member with isHead | inRest
      · exact isHead ▸ isGroup.lt
      · exact inductionHypothesis inRest

/-- A run begins with a digit. -/
theorem exists_cons (run : Run quadAllowed text groups) :
    ∃ head rest, text = head :: rest ∧ head ≠ ':' := by
  have ofNoColon :
      ∀ {text : List Char}, text ≠ [] → ':' ∉ text →
        ∃ head rest, text = head :: rest ∧ head ≠ ':' := by
    intro text nonempty noColon
    obtain ⟨head, rest, rfl⟩ := List.exists_cons_of_ne_nil nonempty
    exact ⟨head, rest, rfl, fun same => noColon (same ▸ List.mem_cons_self)⟩
  cases run with
  | group isGroup =>
      exact ofNoColon isGroup.spelled.1 isGroup.colon_notMem
  | quad allowed spelled =>
      exact
        ofNoColon (List.ne_nil_of_mem spelled.dot_mem) spelled.colon_notMem
  | more isGroup rest =>
      obtain ⟨head, behind, rfl, noColon⟩ :=
        ofNoColon isGroup.spelled.1 isGroup.colon_notMem
      exact ⟨head, behind ++ ':' :: _, rfl, noColon⟩

/-- The parts between the colons of a run are read as its groups. -/
theorem groupsOf?_splitOn (run : Run quadAllowed text groups) :
    groupsOf? quadAllowed (text.splitOn ':') = some groups := by
  induction run with
  | group isGroup =>
      rw [List.splitOn_eq_singleton isGroup.colon_notMem]
      simp [groupsOf?, isGroup.dot_notMem, group?_eq_some_iff.mpr isGroup]
  | quad allowed spelled =>
      rw [List.splitOn_eq_singleton spelled.colon_notMem]
      simp [groupsOf?, allowed, spelled.dot_mem,
        Quad.read?_eq_some_iff.mpr spelled, digits_of_quad spelled.value_lt]
  | more isGroup rest inductionHypothesis =>
      rw [List.splitOn_append_cons_self_of_not_mem isGroup.colon_notMem,
        groupsOf?, group?_eq_some_iff.mpr isGroup, inductionHypothesis]
      · rfl
      · exact List.splitOn_ne_nil _ _

/-- A run is passed over in search of a double colon. -/
theorem cutDouble?_append
    (run : Run quadAllowed text groups)
    (rest : List Char) :
    Text.cutDouble? ':' (text ++ rest) =
      (Text.cutDouble? ':' rest).map fun (before, after) =>
        (text ++ before, after) := by
  induction run with
  | group isGroup =>
      exact Text.cutDouble?_append isGroup.colon_notMem rest
  | quad allowed spelled =>
      exact Text.cutDouble?_append spelled.colon_notMem rest
  | @more text later group groups isGroup run inductionHypothesis =>
      -- A digit follows the colon, so the colon stands alone.
      obtain ⟨head, behind, shape, noColon⟩ := run.exists_cons
      have single : (later ++ rest).head? ≠ some ':' := by
        simp [shape, noColon]
      rw [List.append_assoc,
        Text.cutDouble?_append isGroup.colon_notMem, List.cons_append,
        Text.cutDouble?_single single, inductionHypothesis]
      cases Text.cutDouble? ':' rest <;> simp

end Run

/-- Parts that are read as groups form a run when they are joined. -/
theorem run_of_groupsOf?
    {quadAllowed : Bool}
    {parts : List (List Char)}
    {groups : List Nat}
    (nonempty : parts ≠ [])
    (read : groupsOf? quadAllowed parts = some groups) :
    Run quadAllowed ([':'].intercalate parts) groups := by
  induction parts generalizing groups with
  | nil =>
      exact absurd rfl nonempty
  | cons text rest inductionHypothesis =>
      cases rest with
      | nil =>
          rw [List.intercalate_singleton]
          rw [groupsOf?] at read
          split at read
          · rename_i asQuad
            obtain ⟨value, quadRead, rfl⟩ := Option.map_eq_some_iff.mp read
            have spelled := Quad.read?_eq_some_iff.mp quadRead
            rw [digits_of_quad spelled.value_lt]
            exact .quad asQuad.1 spelled
          · obtain ⟨group, groupRead, rfl⟩ := Option.map_eq_some_iff.mp read
            exact .group (group?_eq_some_iff.mp groupRead)
      | cons next later =>
          rw [groupsOf?] at read
          · obtain ⟨group, groupRead, read⟩ := Option.bind_eq_some_iff.mp read
            obtain ⟨others, restRead, shape⟩ :=
              Option.bind_eq_some_iff.mp read
            cases shape
            rw [List.intercalate_cons_cons, List.append_assoc]
            exact
              .more (group?_eq_some_iff.mp groupRead)
                (inductionHypothesis (List.cons_ne_nil _ _) restRead)
          · exact List.cons_ne_nil _ _

theorem run?_eq_some_iff
    {quadAllowed : Bool}
    {text : List Char}
    {groups : List Nat} :
    run? quadAllowed text = some groups ↔ Side quadAllowed text groups := by
  constructor
  · intro read
    rw [run?] at read
    split at read
    · cases read
      exact Or.inl ⟨‹_›, rfl⟩
    · have run := run_of_groupsOf? (List.splitOn_ne_nil ':' text) read
      rw [List.intercalate_splitOn] at run
      exact Or.inr run
  · rintro (⟨rfl, rfl⟩ | run)
    · rfl
    · obtain ⟨head, rest, rfl, -⟩ := run.exists_cons
      rw [run?, if_neg (List.cons_ne_nil head rest), run.groupsOf?_splitOn]

namespace Side

variable
  {quadAllowed : Bool}
  {text : List Char}
  {groups : List Nat}

theorem lt_of_mem
    (side : Side quadAllowed text groups)
    {group : Nat}
    (member : group ∈ groups) :
    group < 65536 := by
  rcases side with ⟨-, rfl⟩ | run
  · cases member
  · exact run.lt_of_mem member

/-- The first double colon stands behind the groups in front of it. -/
theorem cutDouble?_append
    (side : Side quadAllowed text groups)
    (after : List Char) :
    Text.cutDouble? ':' (text ++ ':' :: ':' :: after) =
      some (text, after) := by
  have atFront :
      Text.cutDouble? ':' (':' :: ':' :: after) = some ([], after) := by
    simp [Text.cutDouble?]
  rcases side with ⟨rfl, -⟩ | run
  · exact atFront
  · rw [run.cutDouble?_append, atFront]
    simp

end Side

/-- A number is read from exactly the texts of groups that spell it. -/
theorem read?_eq_some_iff {text : List Char} {value : Nat} :
    read? text = some value ↔ Spells text value := by
  rw [read?, Option.map_eq_some_iff]
  constructor
  · rintro ⟨groups, read, rfl⟩
    rw [groups?] at read
    split at read
    · obtain ⟨found, runRead, read⟩ := Option.bind_eq_some_iff.mp read
      simp only [Option.ite_none_right_eq_some, Option.some.injEq] at read
      obtain ⟨eight, rfl⟩ := read
      rcases run?_eq_some_iff.mp runRead with ⟨-, isEmpty⟩ | run
      · rw [isEmpty] at eight
        cases eight
      · exact .full run eight
    · rename_i before after cut
      obtain ⟨front, frontRead, read⟩ := Option.bind_eq_some_iff.mp read
      obtain ⟨back, backRead, read⟩ := Option.bind_eq_some_iff.mp read
      simp only [Option.ite_none_right_eq_some, Option.some.injEq] at read
      obtain ⟨fewer, rfl⟩ := read
      -- Fewer than eight groups are given, so at least one is left out.
      rw [Text.eq_append_of_cutDouble? cut]
      rw [count] at fewer ⊢
      exact
        .compressed (run?_eq_some_iff.mp frontRead)
          (run?_eq_some_iff.mp backRead) (by omega) (by omega)
  · intro spelled
    cases spelled with
    | @full text groups run eight =>
        refine ⟨groups, ?_, rfl⟩
        -- A run alone is passed over to its end without a double colon.
        have uncut := run.cutDouble?_append []
        rw [List.append_nil] at uncut
        rw [groups?, uncut]
        simp [Text.cutDouble?, run?_eq_some_iff.mpr (Or.inr run), eight,
          count]
    | @compressed before after front back zeros frontRun backRun eight
        positive =>
        refine ⟨_, ?_, rfl⟩
        have fewer : front.length + back.length < count := by
          rw [count]
          omega
        have missing : count - (front.length + back.length) = zeros := by
          rw [count]
          omega
        rw [groups?, frontRun.cutDouble?_append]
        simp [run?_eq_some_iff.mpr frontRun, run?_eq_some_iff.mpr backRun,
          fewer, missing]

namespace Spells

variable {text : List Char} {value : Nat}

/-- Groups spell a number of 128 bits. -/
theorem value_lt (spelled : Spells text value) :
    value < 2 ^ 128 := by
  cases spelled with
  | full run eight =>
      have bounded := Positional.number_lt fun _ => run.lt_of_mem
      rwa [eight] at bounded
  | @compressed before after front back zeros frontRun backRun eight
      positive =>
      have small :
          ∀ group ∈ front ++ List.replicate zeros 0 ++ back,
            group < 65536 := by
        intro group member
        rcases List.mem_append.mp member with inFront | inBack
        · rcases List.mem_append.mp inFront with inFront | isZero
          · exact frontRun.lt_of_mem inFront
          · rw [List.eq_of_mem_replicate isZero]
            decide
        · exact backRun.lt_of_mem inBack
      have bounded := Positional.number_lt small
      rwa [List.length_append, List.length_append, List.length_replicate,
        eight] at bounded

/-- Eight groups do not come without a colon. -/
theorem colon_mem (spelled : Spells text value) :
    ':' ∈ text := by
  cases spelled with
  | full run eight =>
      cases run with
      | group isGroup => cases eight
      | quad allowed spelled => cases eight
      | more isGroup rest => simp
  | compressed frontRun backRun eight positive =>
      simp

end Spells

end Groups

namespace Address

/-- The texts that stand for an address, without blanks around it. -/
inductive Spells (text : List Char) (address : Address) : Prop where
  | quad
      (family : address.family = .v4)
      (spelled : Quad.Spells text address.value) :
      Spells text address
  | groups
      (family : address.family = .v6)
      (spelled : Groups.Spells text address.value) :
      Spells text address

/-- An address is recognized in exactly the texts that spell it. -/
theorem ofChars?_eq_some_iff {text : List Char} {address : Address} :
    ofChars? text = some address ↔ Spells text address := by
  constructor
  · intro recognized
    rw [ofChars?] at recognized
    split at recognized
    · rename_i value read
      obtain rfl := Option.some.inj recognized
      have spelled := Quad.read?_eq_some_iff.mp read
      have kept : (truncated .v4 value).value = value :=
        Nat.mod_eq_of_lt spelled.value_lt
      rw [← kept] at spelled
      exact .quad rfl spelled
    · obtain ⟨value, read, rfl⟩ := Option.map_eq_some_iff.mp recognized
      have spelled := Groups.read?_eq_some_iff.mp read
      have kept : (truncated .v6 value).value = value :=
        Nat.mod_eq_of_lt spelled.value_lt
      rw [← kept] at spelled
      exact .groups rfl spelled
  · intro spells
    have restored := address.truncated_value
    cases spells with
    | quad family spelled =>
        rw [family] at restored
        rw [ofChars?, Quad.read?_eq_some_iff.mpr spelled]
        exact congrArg some restored
    | groups family spelled =>
        rw [family] at restored
        -- A colon keeps the text from being tried as a quad with success.
        rw [ofChars?, Quad.read?_eq_none_of_colon spelled.colon_mem,
          Groups.read?_eq_some_iff.mpr spelled]
        exact congrArg some restored

/-- An address is read from exactly the texts that spell it between blanks. -/
theorem read_eq_ok_iff {text : List Char} {address : Address} :
    read text = .ok address ↔ Spells (Text.trim text) address := by
  rw [← ofChars?_eq_some_iff, read]
  cases ofChars? (Text.trim text) <;> simp

/-- A text is refused, as it stands between blanks, if it spells no address. -/
theorem read_eq_error_iff {text : List Char} {fault : Fault} :
    read text = .error fault ↔
      (∀ address, ¬ Spells (Text.trim text) address) ∧
        fault = .notAnAddress (String.ofList (Text.trim text)) := by
  simp only [← ofChars?_eq_some_iff, read]
  cases ofChars? (Text.trim text) <;> simp [eq_comm]

/-- A text spells an IPv4 address exactly if it is a dotted quad. -/
theorem spells_v4_iff {text : List Char} {value : Nat} :
    (∃ bounded, Spells text ⟨.v4, value, bounded⟩) ↔
      Quad.Spells text value := by
  constructor
  · rintro ⟨bounded, spelled | ⟨family, -⟩⟩
    · assumption
    · cases family
  · intro spelled
    exact
      ⟨Family.le_allOnes_iff.mpr spelled.value_lt, .quad rfl spelled⟩

/-- A text spells an IPv6 address exactly if it consists of groups. -/
theorem spells_v6_iff {text : List Char} {value : Nat} :
    (∃ bounded, Spells text ⟨.v6, value, bounded⟩) ↔
      Groups.Spells text value := by
  constructor
  · rintro ⟨bounded, ⟨family, -⟩ | spelled⟩
    · cases family
    · assumption
  · intro spelled
    exact
      ⟨Family.le_allOnes_iff.mpr spelled.value_lt, .groups rfl spelled⟩

/--
An IPv4 address is read from exactly the dotted quads that spell it, an IPv6
address from exactly the groups that spell it, no text is both, and every other
text is refused as it stands between blanks.
-/
theorem parse_follows_grammar (text : String) :
    let trimmed := Text.trim text.toList
    (∀ value : Nat,
      (∃ bounded, parse text = .ok ⟨.v4, value, bounded⟩) ↔
        Quad.Spells trimmed value) ∧
      (∀ value : Nat,
        (∃ bounded, parse text = .ok ⟨.v6, value, bounded⟩) ↔
          Groups.Spells trimmed value) ∧
      (∀ fault : Fault,
        parse text = .error fault ↔
          (∀ value, ¬ Quad.Spells trimmed value) ∧
            (∀ value, ¬ Groups.Spells trimmed value) ∧
              fault = .notAnAddress (String.ofList trimmed)) ∧
      ¬ ((∃ value, Quad.Spells trimmed value) ∧
        ∃ value, Groups.Spells trimmed value) := by
  intro trimmed
  refine ⟨?_, ?_, ?_, ?_⟩
  · intro value
    simp only [parse, read_eq_ok_iff]
    exact spells_v4_iff
  · intro value
    simp only [parse, read_eq_ok_iff]
    exact spells_v6_iff
  · intro fault
    rw [parse, read_eq_error_iff]
    constructor
    · rintro ⟨unspelled, sameFault⟩
      refine ⟨?_, ?_, sameFault⟩
      · intro value spelled
        obtain ⟨bounded, spells⟩ := spells_v4_iff.mpr spelled
        exact unspelled _ spells
      · intro value spelled
        obtain ⟨bounded, spells⟩ := spells_v6_iff.mpr spelled
        exact unspelled _ spells
    · rintro ⟨noQuad, noGroups, sameFault⟩
      refine ⟨?_, sameFault⟩
      rintro address (⟨-, spelled⟩ | ⟨-, spelled⟩)
      · exact noQuad _ spelled
      · exact noGroups _ spelled
  · rintro ⟨⟨value, isQuad⟩, other, isGroups⟩
    exact isQuad.colon_notMem isGroups.colon_mem

end Address

end IpBlocks
