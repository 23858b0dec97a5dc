import IpBlocks.Proofs.Address.Marks

namespace IpBlocks

/-!
# Reading written addresses

What is written for a number of 32 or 128 bits is read back as that number.
For groups this rests on `Groups.zeroRun`, which finds a run of zeros that is
really there: the double colon then stands for as many groups as were left
out.  So the text of an address spells it (`Address.spells_chars`), and no blank
and no other mark stands in it.
-/

namespace Quad

/-- The numeral of an octet reads back as the octet. -/
theorem octet?_toDigits {octet : Nat} (small : octet < 256) :
    octet? (Nat.toDigits 10 octet) = some octet := by
  have all :
      ∀ octet < 256, octet? (Nat.toDigits 10 octet) = some octet := by
    decide +kernel
  exact all octet small

theorem octets?_map_toDigits
    {octets : List Nat}
    (small : ∀ octet ∈ octets, octet < 256) :
    octets? (octets.map (Nat.toDigits 10)) = some octets := by
  induction octets with
  | nil =>
      rfl
  | cons head rest inductionHypothesis =>
      have headRead := octet?_toDigits (small head List.mem_cons_self)
      have restRead :=
        inductionHypothesis fun octet member =>
          small octet (List.mem_cons_of_mem head member)
      simp [octets?, headRead, restRead]

/-- A dotted quad spells the low 32 bits of the number it was written for. -/
theorem read?_chars (value : Nat) :
    read? (chars value) = some (value % 2 ^ 32) := by
  have small : ∀ octet ∈ Positional.digits 256 4 value, octet < 256 :=
    fun octet member => Positional.lt_of_mem_digits (by decide) member
  have split :
      (chars value).splitOn '.' =
        (Positional.digits 256 4 value).map (Nat.toDigits 10) := by
    apply List.splitOn_intercalate
    · intro part member
      obtain ⟨octet, -, rfl⟩ := List.mem_map.mp member
      exact Numeral.notMem_toDigits (by decide) (by decide) octet
    · simp [Positional.digits]
  have spelled :
      Positional.number 256 (Positional.digits 256 4 value) =
        value % 2 ^ 32 := by
    simp only [Positional.digits, Positional.number, List.nil_append,
      List.cons_append, List.foldl_cons, List.foldl_nil]
    omega
  simp [read?, split, octets?_map_toDigits small, spelled]

theorem spells_chars (value : Nat) :
    Spells (chars value) (value % 2 ^ 32) :=
  read?_eq_some_iff.mp (read?_chars value)

theorem dot_mem_chars (value : Nat) :
    '.' ∈ chars value :=
  (spells_chars value).dot_mem

theorem colon_notMem_chars (value : Nat) :
    ':' ∉ chars value :=
  (spells_chars value).colon_notMem

end Quad

namespace Groups

/--
A run of zeros in a list of groups, such that no run is longer and no run of
the same length starts earlier.
-/
structure IsFirstLongestRun
    (groups front : List Nat)
    (length : Nat)
    (back : List Nat) : Prop where
  whole : groups = front ++ List.replicate length 0 ++ back
  longest :
    ∀ otherFront otherLength otherBack,
      groups = otherFront ++ List.replicate otherLength 0 ++ otherBack →
        otherLength ≤ length
  first :
    ∀ otherFront otherBack,
      groups = otherFront ++ List.replicate length 0 ++ otherBack →
        front.length ≤ otherFront.length

theorem leadingZeros_whole (groups : List Nat) :
    groups =
      List.replicate (leadingZeros groups) 0 ++
        groups.drop (leadingZeros groups) := by
  induction groups with
  | nil =>
      rfl
  | cons head rest inductionHypothesis =>
      cases head with
      | zero =>
          rw [leadingZeros, List.replicate_succ, List.drop_succ_cons,
            List.cons_append, ← inductionHypothesis]
      | succ less =>
          rfl

theorem le_leadingZeros
    {groups back : List Nat}
    {length : Nat}
    (whole : groups = List.replicate length 0 ++ back) :
    length ≤ leadingZeros groups := by
  subst groups
  induction length with
  | zero =>
      exact Nat.zero_le _
  | succ shorter inductionHypothesis =>
      rw [List.replicate_succ, List.cons_append, leadingZeros]
      exact Nat.succ_le_succ inductionHypothesis

namespace IsFirstLongestRun

variable {rest front back : List Nat} {length : Nat}

/-- A run stays the first longest one behind a front that has a shorter run. -/
theorem cons
    (run : IsFirstLongestRun rest front length back)
    {head : Nat}
    (shorter : leadingZeros (head :: rest) < length) :
    IsFirstLongestRun (head :: rest) (head :: front) length back := by
  refine ⟨?_, ?_, ?_⟩
  · rw [run.whole]
    rfl
  · intro otherFront otherLength otherBack whole
    cases otherFront with
    | nil =>
        exact Nat.le_of_lt (Nat.lt_of_le_of_lt (le_leadingZeros whole) shorter)
    | cons otherHead otherRest =>
        exact run.longest _ _ _ (List.cons.inj whole).2
  · intro otherFront otherBack whole
    cases otherFront with
    | nil =>
        exact absurd shorter (Nat.not_lt.mpr (le_leadingZeros whole))
    | cons otherHead otherRest =>
        exact Nat.succ_le_succ (run.first _ _ (List.cons.inj whole).2)

/-- The zeros at the front come first where no run behind them is longer. -/
theorem leading
    (run : IsFirstLongestRun rest front length back)
    {head : Nat}
    (notShorter : length ≤ leadingZeros (head :: rest)) :
    IsFirstLongestRun (head :: rest) []
      (leadingZeros (head :: rest))
      ((head :: rest).drop (leadingZeros (head :: rest))) := by
  refine ⟨leadingZeros_whole (head :: rest), ?_, ?_⟩
  · intro otherFront otherLength otherBack whole
    cases otherFront with
    | nil =>
        exact le_leadingZeros whole
    | cons otherHead otherRest =>
        exact
          (run.longest _ _ _ (List.cons.inj whole).2).trans notShorter
  · intro otherFront otherBack _
    exact Nat.zero_le otherFront.length

end IsFirstLongestRun

/-- What the search for zeros finds is the first of the longest runs. -/
theorem zeroRun_isFirstLongestRun (groups : List Nat) :
    IsFirstLongestRun groups
      (groups.take (zeroRun groups).1)
      (zeroRun groups).2
      (groups.drop ((zeroRun groups).1 + (zeroRun groups).2)) := by
  induction groups with
  | nil =>
      refine ⟨rfl, ?_, ?_⟩
      · intro otherFront otherLength otherBack whole
        simp at whole
        omega
      · intro otherFront otherBack whole
        exact Nat.zero_le _
  | cons head rest inductionHypothesis =>
      rw [zeroRun]
      split
      · rename_i shorter
        have moved :
            (zeroRun rest).1 + 1 + (zeroRun rest).2 =
              (zeroRun rest).1 + (zeroRun rest).2 + 1 := by
          omega
        simp only [moved, List.take_succ_cons, List.drop_succ_cons]
        exact inductionHypothesis.cons shorter
      · rename_i notShorter
        simp only [List.take_zero, Nat.zero_add]
        exact inductionHypothesis.leading (Nat.not_lt.mp notShorter)

-- Of two runs of the same length the first one is found.
example : zeroRun [1, 0, 0, 2, 0, 0, 3, 0] = (1, 2) := by
  decide

/-- The numeral of a group reads back as the group. -/
theorem group?_toDigits {group : Nat} (small : group < 65536) :
    group? (Nat.toDigits 16 group) = some group := by
  have short : (Nat.toDigits 16 group).length ≤ 4 :=
    (Nat.length_toDigits_le_iff (by decide) (by decide)).mpr small
  rw [group?, if_neg (Nat.not_lt.mpr short)]
  exact Numeral.read?_toDigits (by decide) (by decide) group

/-- Numerals of groups are read as groups, whether a quad may follow or not. -/
theorem groupsOf?_map_toDigits
    (quadAllowed : Bool)
    {groups : List Nat}
    (small : ∀ group ∈ groups, group < 65536) :
    groupsOf? quadAllowed (groups.map (Nat.toDigits 16)) = some groups := by
  induction groups with
  | nil =>
      rfl
  | cons head rest inductionHypothesis =>
      have headRead := group?_toDigits (small head List.mem_cons_self)
      have restRead :=
        inductionHypothesis fun group member =>
          small group (List.mem_cons_of_mem head member)
      cases rest with
      | nil =>
          have noDot : '.' ∉ Nat.toDigits 16 head :=
            Numeral.notMem_toDigits (by decide) (by decide) head
          simp [groupsOf?, noDot, headRead]
      | cons next later =>
          rw [List.map_cons] at restRead ⊢
          simp only [List.map_cons] at restRead ⊢
          rw [groupsOf?, headRead, restRead]
          · rfl
          · exact List.cons_ne_nil _ _

theorem colon_notMem_toDigits (group : Nat) :
    ':' ∉ Nat.toDigits 16 group :=
  Numeral.notMem_toDigits (by decide) (by decide) group

/-- Groups between colons are read back. -/
theorem run?_plain
    (quadAllowed : Bool)
    {groups : List Nat}
    (small : ∀ group ∈ groups, group < 65536) :
    run? quadAllowed (plain groups) = some groups := by
  cases groups with
  | nil =>
      rfl
  | cons head rest =>
      have split :
          (plain (head :: rest)).splitOn ':' =
            (head :: rest).map (Nat.toDigits 16) := by
        apply List.splitOn_intercalate
        · intro part member
          obtain ⟨group, -, rfl⟩ := List.mem_map.mp member
          exact colon_notMem_toDigits group
        · exact List.cons_ne_nil _ _
      have nonempty : plain (head :: rest) ≠ [] := by
        intro isEmpty
        rw [isEmpty] at split
        cases rest with
        | nil =>
            exact Nat.toDigits_ne_nil (List.cons.inj split).1.symm
        | cons next later =>
            cases (List.cons.inj split).2
      rw [run?, if_neg nonempty, split,
        groupsOf?_map_toDigits quadAllowed small]

/-- Groups between colons are passed over in search of a double colon. -/
theorem cutDouble?_plain (groups : List Nat) (rest : List Char) :
    Text.cutDouble? ':' (plain groups ++ rest) =
      (Text.cutDouble? ':' rest).map fun (before, after) =>
        (plain groups ++ before, after) := by
  apply Text.cutDouble?_intercalate
  · intro part member
    obtain ⟨group, -, rfl⟩ := List.mem_map.mp member
    exact colon_notMem_toDigits group
  · intro part member
    obtain ⟨group, -, rfl⟩ := List.mem_map.mp member
    exact Nat.toDigits_ne_nil

/-- Eight groups are read back without a double colon. -/
theorem groups?_plain
    {groups : List Nat}
    (small : ∀ group ∈ groups, group < 65536)
    (eight : groups.length = count) :
    groups? (plain groups) = some groups := by
  have whole := cutDouble?_plain groups []
  rw [List.append_nil] at whole
  rw [groups?, whole]
  simp [Text.cutDouble?, run?_plain true small, eight]

/-- A double colon is read as the zero groups that are missing. -/
theorem groups?_double
    {front back : List Nat}
    {length : Nat}
    (frontSmall : ∀ group ∈ front, group < 65536)
    (backSmall : ∀ group ∈ back, group < 65536)
    (eight : front.length + length + back.length = count)
    (positive : 0 < length) :
    groups? (plain front ++ [':', ':'] ++ plain back) =
      some (front ++ List.replicate length 0 ++ back) := by
  have cut := cutDouble?_plain front ([':', ':'] ++ plain back)
  have given : front.length + back.length < count := by
    omega
  have missing : count - (front.length + back.length) = length := by
    omega
  rw [groups?, List.append_assoc, cut]
  simp [Text.cutDouble?, run?_plain false frontSmall,
    run?_plain true backSmall, given, missing]

/-- Eight groups are read back from their compressed form. -/
theorem groups?_compressed
    {groups : List Nat}
    (small : ∀ group ∈ groups, group < 65536)
    (eight : groups.length = count) :
    groups? (compressed groups) = some groups := by
  have whole := (zeroRun_isFirstLongestRun groups).whole
  rw [compressed]
  split
  rename_i start length found
  rw [found] at whole
  split
  · exact groups?_plain small eight
  · rename_i long
    have counted := congrArg List.length whole
    rw [List.length_append, List.length_append, List.length_replicate,
      eight] at counted
    rw [groups?_double
      (fun group member => small group (List.mem_of_mem_take member))
      (fun group member => small group (List.mem_of_mem_drop member))
      counted.symm (by omega)]
    rw [← whole]

/-- What is written for a mapped number reads back as that number. -/
theorem read?_mapped {value : Nat} (mapped : value >>> 32 = 0xffff) :
    read? ("::ffff:".toList ++ Quad.chars value) = some value := by
  have cut :
      Text.cutDouble? ':' ("::ffff:".toList ++ Quad.chars value) =
        some ([], "ffff".toList ++ ':' :: Quad.chars value) :=
    rfl
  have split :
      ("ffff".toList ++ ':' :: Quad.chars value).splitOn ':' =
        ["ffff".toList, Quad.chars value] := by
    rw [List.splitOn_append_cons_self_of_not_mem (by decide),
      List.splitOn_eq_singleton (Quad.colon_notMem_chars value)]
  have quadRead :
      groupsOf? true [Quad.chars value] =
        some (Positional.digits 65536 2 (value % 2 ^ 32)) := by
    simp [groupsOf?, Quad.dot_mem_chars, Quad.read?_chars]
  have back :
      run? true ("ffff".toList ++ ':' :: Quad.chars value) =
        some (0xffff :: Positional.digits 65536 2 (value % 2 ^ 32)) := by
    have ones : group? "ffff".toList = some 0xffff := by
      decide
    rw [run?, if_neg (by simp), split, groupsOf?, ones, quadRead]
    · rfl
    · exact List.cons_ne_nil _ _
  have spelled :
      Positional.number 65536
          (List.replicate 5 0 ++
            0xffff :: Positional.digits 65536 2 (value % 2 ^ 32)) =
        value := by
    rw [Nat.shiftRight_eq_div_pow] at mapped
    simp only [Positional.digits, Positional.number, List.replicate,
      List.nil_append, List.cons_append, List.foldl_cons, List.foldl_nil]
    omega
  have groupsRead :
      groups? ("::ffff:".toList ++ Quad.chars value) =
        some
          (List.replicate 5 0 ++
            0xffff :: Positional.digits 65536 2 (value % 2 ^ 32)) := by
    have front : run? false [] = some [] := rfl
    rw [groups?, cut]
    simp only [front, back]
    rfl
  rw [read?, groupsRead]
  exact congrArg some spelled

/-- The text of a number of 128 bits reads back as the number. -/
theorem read?_chars {value : Nat} (small : value < 2 ^ 128) :
    read? (chars value) = some value := by
  rw [chars]
  split
  · rename_i mapped
    exact read?_mapped mapped
  · have groupsSmall :
        ∀ group ∈ Positional.digits 65536 count value, group < 65536 :=
      fun group member => Positional.lt_of_mem_digits (by decide) member
    rw [read?, groups?_compressed groupsSmall (Positional.length_digits ..)]
    apply congrArg some
    apply Positional.number_digits
    exact small

theorem spells_chars {value : Nat} (small : value < 2 ^ 128) :
    Spells (chars value) value :=
  read?_eq_some_iff.mp (read?_chars small)

end Groups

namespace Address

/-- The written form of an address spells that address. -/
theorem spells_chars (address : Address) :
    Spells address.chars address := by
  obtain ⟨family, value, bounded⟩ := address
  have small := Family.le_allOnes_iff.mp bounded
  cases family with
  | v4 =>
      have spelled := Quad.spells_chars value
      have kept : value % 2 ^ 32 = value := Nat.mod_eq_of_lt small
      rw [kept] at spelled
      exact .quad rfl spelled
  | v6 =>
      exact .groups rfl (Groups.spells_chars small)

/-- A character that is no mark and no digit does not stand in an address. -/
theorem notMem_chars
    {character : Char}
    (noDot : character ≠ '.')
    (noColon : character ≠ ':')
    (noDigit : ∀ digit < 16, ¬ Numeral.IsDigit 16 character digit)
    (address : Address) :
    character ∉ address.chars :=
  address.spells_chars.notMem noDot noColon noDigit

theorem read_chars (address : Address) :
    read address.chars = .ok address := by
  have spelled := address.spells_chars
  rw [read_eq_ok_iff, spelled.trim_eq]
  exact spelled

@[simp] theorem parse_toString (address : Address) :
    parse (toString address) = .ok address := by
  rw [parse, toList_toString, read_chars]

end Address

end IpBlocks
