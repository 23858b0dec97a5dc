import IpBlocks.Proofs.Address.Order
import IpBlocks.Proofs.Block.Arithmetic
import Mathlib.Data.Nat.Bitwise

namespace IpBlocks

/-!
# The order of blocks

Two blocks that share an address are nested, and two that share none lie one
behind the other.  So two different blocks of a family stand in exactly one of
four placements (`Block.existsUnique_placement`).

The blocks of a family form a binary tree, in which the path to a block has the
bits of its prefix.  A block contains those below it, and of two blocks on
different branches the one on the branch of the clear bit ends first.  Blocks
are ordered by network and then by prefix length, which is the pre-order of
this tree: a block comes before all that it contains, and before all that begin
behind it (`Block.order_is_preorder_of_prefixes`).
-/

/--
A node of a binary tree comes before another in pre-order.

Nodes are given by the turns that lead to them.  The first one lies on the way
to the second, or the ways part and the first one turns to the clear bit.
-/
inductive ComesInFront : List Bool → List Bool → Prop where
  | above (way : List Bool) (turn : Bool) (rest : List Bool) :
      ComesInFront way (way ++ turn :: rest)
  | beside (way rest otherRest : List Bool) :
      ComesInFront (way ++ false :: rest) (way ++ true :: otherRest)

/-- At the highest bit in which two numbers differ, the smaller one has a clear bit. -/
theorem exists_highest_of_lt {one other : Nat} (less : one < other) :
    ∃ highest,
      (∀ higher, highest < higher →
        one.testBit higher = other.testBit higher) ∧
        one.testBit highest = false ∧ other.testBit highest = true := by
  have different : one ^^^ other ≠ 0 := by
    rw [Ne, Nat.xor_eq_zero_iff]
    exact Nat.ne_of_lt less
  obtain ⟨highest, differs, agree⟩ := Nat.exists_most_significant_bit different
  simp only [Nat.testBit_xor, bne_eq_false_iff_eq] at differs agree
  refine ⟨highest, agree, ?_⟩
  cases bit : one.testBit highest with
  | false =>
      rw [bit, Bool.false_xor] at differs
      exact ⟨rfl, differs⟩
  | true =>
      rw [bit, Bool.true_xor, Bool.not_eq_true'] at differs
      have more : other < one :=
        Nat.lt_of_testBit highest differs bit
          fun higher above => (agree higher above).symm
      exact absurd less (Nat.lt_asymm more)

namespace Address

variable {one other : Address}

/-- Where two addresses part first, the smaller one has a clear bit. -/
theorem exists_place_of_value_lt
    (sameFamily : one.family = other.family)
    (less : one.value < other.value) :
    ∃ place < one.family.width,
      one.SharesPrefix other place ∧
        one.bit place = false ∧ other.bit place = true := by
  obtain ⟨highest, agree, clear, set⟩ := exists_highest_of_lt less
  have inWidth : highest < one.family.width := by
    by_contra beyond
    rw [Nat.not_lt, sameFamily] at beyond
    rw [testBit_eq_false beyond] at set
    cases set
  have restored :
      one.family.width - 1 - (one.family.width - 1 - highest) = highest := by
    omega
  refine
    ⟨one.family.width - 1 - highest, by omega, ⟨sameFamily, ?_⟩, ?_, ?_⟩
  · intro earlier inFront
    rw [bit, bit, ← sameFamily]
    exact agree _ (by omega)
  · rw [bit, restored]
    exact clear
  · rw [bit, ← sameFamily, restored]
    exact set

/-- The clear bit after a shared prefix makes the smaller address. -/
theorem value_lt_of_place
    {place : Nat}
    (shared : one.SharesPrefix other place)
    (inWidth : place < one.family.width)
    (clear : one.bit place = false)
    (set : other.bit place = true) :
    one.value < other.value := by
  have sameFamily := shared.sameFamily
  rw [bit] at clear
  rw [bit, ← sameFamily] at set
  apply Nat.lt_of_testBit (one.family.width - 1 - place) clear set
  intro higher above
  rcases Nat.lt_or_ge higher one.family.width with inside | beyond
  · have samePlace :=
      shared.sameBits (one.family.width - 1 - higher) (by omega)
    have restored :
        one.family.width - 1 - (one.family.width - 1 - higher) = higher := by
      omega
    rwa [bit, bit, ← sameFamily, restored] at samePlace
  · rw [testBit_eq_false beyond, testBit_eq_false (sameFamily ▸ beyond)]

end Address

namespace Block

/-- Every address of a block lies in another one, which may be the same. -/
def Contains (outer inner : Block) : Prop :=
  ∀ address ∈ inner, address ∈ outer

/-- A block contains another one and further addresses. -/
def StrictlyContains (outer inner : Block) : Prop :=
  outer.Contains inner ∧ ∃ address ∈ outer, address ∉ inner

/-- A block ends before another one of its family begins. -/
def EndsBefore (one other : Block) : Prop :=
  one.last.value < other.network.value

/-- The ways in which two different blocks of a family can lie. -/
inductive Placement where
  | inFront
  | behind
  | around
  | within
  deriving DecidableEq, Repr

/-- Two blocks lie in some way. -/
def Placement.Holds : Placement → Block → Block → Prop
  | inFront, one, other => one.EndsBefore other
  | behind, one, other => other.EndsBefore one
  | around, one, other => one.StrictlyContains other
  | within, one, other => other.StrictlyContains one

/-- The turns that lead to a block in the tree of prefixes. -/
def path (block : Block) : List Bool :=
  block.network.bits.take block.prefixLen

variable {one other outer inner : Block}

/-- A block contains those of no shorter prefix that begin in it. -/
theorem contains_iff :
    outer.Contains inner ↔
      outer.prefixLen ≤ inner.prefixLen ∧ inner.network ∈ outer := by
  constructor
  · intro contains
    refine ⟨?_, contains _ inner.network_mem⟩
    by_contra longer
    have same := eq_of_contains contains (by omega)
    rw [same] at longer
    exact longer (Nat.le_refl _)
  · rintro ⟨longer, member⟩ address inside
    exact mem_of_network_mem member longer inside

/-- It is the block of its prefix length around their networks. -/
theorem contains_iff_around :
    outer.Contains inner ↔
      outer.prefixLen ≤ inner.prefixLen ∧
        around inner.network outer.prefixLen = .ok outer := by
  rw [contains_iff, around_eq_ok_iff_mem]
  simp

/-- Of the blocks that begin in a block, it strictly contains those of a longer prefix. -/
theorem strictlyContains_iff :
    outer.StrictlyContains inner ↔
      outer.prefixLen < inner.prefixLen ∧ inner.network ∈ outer := by
  constructor
  · rintro ⟨contains, address, inOuter, notInner⟩
    obtain ⟨longer, member⟩ := contains_iff.mp contains
    refine ⟨Nat.lt_of_le_of_ne longer ?_, member⟩
    intro sameLength
    have same := eq_of_contains contains (Nat.le_of_eq sameLength.symm)
    rw [same] at notInner
    exact notInner inOuter
  · rintro ⟨longer, member⟩
    refine ⟨contains_iff.mpr ⟨Nat.le_of_lt longer, member⟩, ?_⟩
    by_contra nothingElse
    have contained : inner.Contains outer := by
      intro address inOuter
      by_contra notInner
      exact nothingElse ⟨address, inOuter, notInner⟩
    have shorter := (contains_iff.mp contained).1
    omega

/-- Blocks of a family lie one behind the other if they share no address. -/
theorem network_mem_of_not_endsBefore
    (sameFamily : one.family = other.family)
    (order : one.network.value ≤ other.network.value)
    (overlap : ¬ one.EndsBefore other) :
    other.network ∈ one :=
  ⟨sameFamily.symm, order, Nat.le_of_not_lt overlap⟩

/-- A block that ends before another one also begins before it. -/
theorem EndsBefore.network_lt (before : one.EndsBefore other) :
    one.network.value < other.network.value :=
  Nat.lt_of_le_of_lt one.network_le_last before

/-- What begins in a block does not begin behind its end. -/
theorem EndsBefore.network_notMem (before : one.EndsBefore other) :
    other.network ∉ one :=
  fun member => Nat.not_le.mpr before member.2.2

/-- A block begins no later than what it contains. -/
theorem Contains.network_le (contains : outer.Contains inner) :
    outer.network.value ≤ inner.network.value :=
  (contains _ inner.network_mem).2.1

/-- A block that begins before another one of its family ends before it or contains it. -/
theorem endsBefore_or_strictlyContains
    (sameFamily : one.family = other.family)
    (less : one.network.value < other.network.value) :
    one.EndsBefore other ∨ one.StrictlyContains other := by
  by_cases before : one.EndsBefore other
  · exact .inl before
  · have member :=
      network_mem_of_not_endsBefore sameFamily (Nat.le_of_lt less) before
    refine .inr (strictlyContains_iff.mpr ⟨?_, member⟩)
    by_contra shorter
    have sameNetwork :=
      network_eq_of_network_mem member (Nat.le_of_not_lt shorter)
    rw [sameNetwork] at less
    exact Nat.lt_irrefl _ less

/-- A block comes before those behind it and those within it. -/
theorem compare_eq_lt_iff_placement
    (sameFamily : one.family = other.family) :
    compare one other = .lt ↔
      one.EndsBefore other ∨ one.StrictlyContains other := by
  rw [compare_eq_lt_iff sameFamily]
  constructor
  · rintro (less | ⟨sameValue, longer⟩)
    · exact endsBefore_or_strictlyContains sameFamily less
    · have sameNetwork : one.network = other.network :=
        Address.ext sameFamily sameValue
      refine .inr (strictlyContains_iff.mpr ⟨longer, ?_⟩)
      exact sameNetwork ▸ one.network_mem
  · rintro (before | contains)
    · exact .inl before.network_lt
    · have order := contains.1.network_le
      have longer := (strictlyContains_iff.mp contains).1
      omega

namespace Placement

/-- The first of two blocks in some placement comes before the second. -/
def isAscending : Placement → Bool
  | inFront | around => true
  | behind | within => false

/-- Two blocks in some placement share addresses. -/
def isNested : Placement → Bool
  | around | within => true
  | inFront | behind => false

/-- A placement is known by the order of the blocks and by what they share. -/
theorem eq_of_same
    {first second : Placement}
    (sameOrder : first.isAscending = second.isAscending)
    (sameNesting : first.isNested = second.isNested) :
    first = second := by
  cases first <;> cases second <;> simp_all [isAscending, isNested]

variable {placement : Placement}

theorem Holds.isAscending_iff
    (holds : placement.Holds one other)
    (sameFamily : one.family = other.family) :
    placement.isAscending = true ↔ compare one other = .lt := by
  have ascending :
      one.EndsBefore other ∨ one.StrictlyContains other →
        compare one other = .lt :=
    (compare_eq_lt_iff_placement sameFamily).mpr
  have descending :
      other.EndsBefore one ∨ other.StrictlyContains one →
        ¬ compare one other = .lt := by
    intro placed
    have reversed := (compare_eq_lt_iff_placement sameFamily.symm).mpr placed
    rw [compare_eq_lt_iff sameFamily.symm] at reversed
    rw [compare_eq_lt_iff sameFamily]
    omega
  cases placement with
  | inFront => exact iff_of_true rfl (ascending (.inl holds))
  | behind => exact iff_of_false Bool.false_ne_true (descending (.inl holds))
  | around => exact iff_of_true rfl (ascending (.inr holds))
  | within => exact iff_of_false Bool.false_ne_true (descending (.inr holds))

theorem Holds.isNested_iff (holds : placement.Holds one other) :
    placement.isNested = true ↔
      ∃ address, address ∈ one ∧ address ∈ other := by
  have apart {front back : Block} (before : front.EndsBefore back) :
      ¬ ∃ address, address ∈ front ∧ address ∈ back := by
    rintro ⟨address, inFront, inBack⟩
    exact
      Nat.lt_irrefl _
        (Nat.lt_of_le_of_lt inFront.2.2
          (Nat.lt_of_lt_of_le before inBack.2.1))
  cases placement with
  | inFront =>
      exact iff_of_false Bool.false_ne_true (apart holds)
  | behind =>
      refine iff_of_false Bool.false_ne_true ?_
      rintro ⟨address, inOne, inOther⟩
      exact apart holds ⟨address, inOther, inOne⟩
  | around =>
      exact iff_of_true rfl ⟨_, holds.1 _ other.network_mem, other.network_mem⟩
  | within =>
      exact iff_of_true rfl ⟨_, one.network_mem, holds.1 _ one.network_mem⟩

end Placement

/-- Different blocks of a family are in order one way or the other. -/
theorem compare_eq_lt_or_lt
    (sameFamily : one.family = other.family)
    (different : one ≠ other) :
    compare one other = .lt ∨ compare other one = .lt := by
  rw [compare_eq_lt_iff sameFamily, compare_eq_lt_iff sameFamily.symm]
  have notBoth :
      one.network.value ≠ other.network.value ∨
        one.prefixLen ≠ other.prefixLen := by
    by_contra same
    rw [not_or, not_not, not_not] at same
    exact different (Block.ext (Address.ext sameFamily same.1) same.2)
  omega

/-- Different blocks of a family lie in exactly one of the four ways. -/
theorem existsUnique_placement
    (sameFamily : one.family = other.family)
    (different : one ≠ other) :
    ∃! placement : Placement, placement.Holds one other := by
  have placed : ∃ placement : Placement, placement.Holds one other := by
    rcases compare_eq_lt_or_lt sameFamily different with less | more
    · rcases (compare_eq_lt_iff_placement sameFamily).mp less with
        before | contains
      · exact ⟨.inFront, before⟩
      · exact ⟨.around, contains⟩
    · rcases (compare_eq_lt_iff_placement sameFamily.symm).mp more with
        after | contained
      · exact ⟨.behind, after⟩
      · exact ⟨.within, contained⟩
  obtain ⟨placement, holds⟩ := placed
  refine ⟨placement, holds, fun second secondHolds => ?_⟩
  apply Placement.eq_of_same
  · rw [Bool.eq_iff_iff, secondHolds.isAscending_iff sameFamily,
      holds.isAscending_iff sameFamily]
  · rw [Bool.eq_iff_iff, secondHolds.isNested_iff, holds.isNested_iff]

theorem length_path (block : Block) :
    block.path.length = block.prefixLen := by
  have short : block.prefixLen ≤ block.network.family.width :=
    block.prefixLen_le
  simp [path, Address.bits, short]

/-- The turns of a path are the bits of the network. -/
theorem getElem_path
    (block : Block)
    {place : Nat}
    (inPath : place < block.path.length) :
    block.path[place] = block.network.bit place := by
  simp [path, Address.bits]

/-- A path divides at each of its turns. -/
theorem path_eq_append
    (block : Block)
    {place : Nat}
    (inPrefix : place < block.prefixLen) :
    block.path =
      block.path.take place ++
        block.network.bit place :: block.path.drop (place + 1) := by
  have inPath : place < block.path.length := block.length_path.symm ▸ inPrefix
  rw [← block.getElem_path inPath, ← List.drop_eq_getElem_cons,
    List.take_append_drop]

/-- What a path is made of shows the bits of the network. -/
theorem bits_of_path_eq
    {block : Block}
    {way rest : List Bool}
    {turn : Bool}
    (parts : block.path = way ++ turn :: rest) :
    way.length < block.prefixLen ∧
      block.network.bit way.length = turn ∧
        ∀ place (inWay : place < way.length),
          block.network.bit place = way[place] := by
  have counted : block.prefixLen = (way ++ turn :: rest).length := by
    rw [← parts, length_path]
  rw [List.length_append, List.length_cons] at counted
  refine ⟨by omega, ?_, ?_⟩
  · rw [← block.getElem_path (by rw [length_path]; omega)]
    simp [parts]
  · intro place inWay
    rw [← block.getElem_path (by rw [length_path]; omega)]
    simp [parts, inWay]

/-- A block contains those on whose path it lies. -/
theorem isPrefix_path_iff
    (sameFamily : outer.family = inner.family) :
    outer.path <+: inner.path ↔ outer.Contains inner := by
  rw [contains_iff, mem_iff_sharesPrefix, List.prefix_iff_getElem]
  simp only [length_path, getElem_path]
  constructor
  · rintro ⟨longer, sameBits⟩
    exact
      ⟨longer, sameFamily.symm,
        fun place inPrefix => (sameBits place inPrefix).symm⟩
  · rintro ⟨longer, shared⟩
    exact
      ⟨longer, fun place inPrefix => (shared.sameBits place inPrefix).symm⟩

/-- It strictly contains those to which its path goes on. -/
theorem strictlyContains_iff_path
    (sameFamily : outer.family = inner.family) :
    outer.StrictlyContains inner ↔
      ∃ turn rest, inner.path = outer.path ++ turn :: rest := by
  constructor
  · intro contains
    have longer := (strictlyContains_iff.mp contains).1
    obtain ⟨rest, whole⟩ := (isPrefix_path_iff sameFamily).mpr contains.1
    cases rest with
    | nil =>
        rw [List.append_nil] at whole
        rw [← length_path, ← length_path, whole] at longer
        exact absurd longer (Nat.lt_irrefl _)
    | cons turn rest =>
        exact ⟨turn, rest, whole.symm⟩
  · rintro ⟨turn, rest, whole⟩
    have contains : outer.Contains inner :=
      (isPrefix_path_iff sameFamily).mp ⟨turn :: rest, whole.symm⟩
    have longer := (bits_of_path_eq whole).1
    rw [length_path] at longer
    exact strictlyContains_iff.mpr ⟨longer, (contains_iff.mp contains).2⟩

/-- A block ends before those whose paths part from its own at a set bit. -/
theorem endsBefore_iff_path
    (sameFamily : one.family = other.family) :
    one.EndsBefore other ↔
      ∃ way rest otherRest,
        one.path = way ++ false :: rest ∧
          other.path = way ++ true :: otherRest := by
  constructor
  · intro before
    obtain ⟨place, -, shared, clear, set⟩ :=
      Address.exists_place_of_value_lt sameFamily before.network_lt
    have inPrefix : place < one.prefixLen := by
      by_contra beyond
      refine before.network_notMem (mem_iff_sharesPrefix.mpr ?_)
      exact shared.symm.of_le (Nat.le_of_not_lt beyond)
    have inOtherPrefix : place < other.prefixLen := by
      by_contra beyond
      have member : one.network ∈ other :=
        mem_iff_sharesPrefix.mpr (shared.of_le (Nat.le_of_not_lt beyond))
      exact Nat.not_lt.mpr member.2.1 before.network_lt
    have sameWay : one.path.take place = other.path.take place := by
      apply List.ext_getElem
      · simp [length_path, Nat.le_of_lt inPrefix, Nat.le_of_lt inOtherPrefix]
      · intro earlier inOne inOther
        rw [List.length_take] at inOne
        rw [List.getElem_take, List.getElem_take, getElem_path, getElem_path]
        exact shared.sameBits earlier (by omega)
    have parts := one.path_eq_append inPrefix
    have otherParts := other.path_eq_append inOtherPrefix
    rw [clear] at parts
    rw [set, ← sameWay] at otherParts
    exact ⟨_, _, _, parts, otherParts⟩
  · rintro ⟨way, rest, otherRest, parts, otherParts⟩
    obtain ⟨inPrefix, clear, bits⟩ := bits_of_path_eq parts
    obtain ⟨-, set, otherBits⟩ := bits_of_path_eq otherParts
    have shared : one.network.SharesPrefix other.network way.length :=
      ⟨sameFamily, fun place inWay =>
        (bits place inWay).trans (otherBits place inWay).symm⟩
    have inWidth : way.length < one.network.family.width :=
      Nat.lt_of_lt_of_le inPrefix one.prefixLen_le
    have less := Address.value_lt_of_place shared inWidth clear set
    rcases endsBefore_or_strictlyContains sameFamily less with
      before | contains
    · exact before
    · have member := (strictlyContains_iff.mp contains).2
      have sameBit :=
        (mem_iff_sharesPrefix.mp member).sameBits way.length inPrefix
      rw [clear, set] at sameBit
      cases sameBit

/-- A path comes in front of another where it goes on to it or parts to its left. -/
theorem comesInFront_iff {one other : List Bool} :
    ComesInFront one other ↔
      (∃ way rest otherRest,
        one = way ++ false :: rest ∧ other = way ++ true :: otherRest) ∨
        ∃ turn rest, other = one ++ turn :: rest := by
  constructor
  · intro inFront
    cases inFront with
    | above _ turn rest => exact .inr ⟨turn, rest, rfl⟩
    | beside way rest otherRest => exact .inl ⟨way, rest, otherRest, rfl, rfl⟩
  · rintro (⟨way, rest, otherRest, rfl, rfl⟩ | ⟨turn, rest, rfl⟩)
    · exact .beside way rest otherRest
    · exact .above one turn rest

/--
The order of the blocks of a family is the pre-order of the tree of prefixes.

Two different blocks of a family lie one behind the other, or one strictly
contains the other, in exactly one of the four ways.  A block contains another
one, or is it, if it is the block of its own, no longer prefix around the
network of that one, and so if it lies on the path to it.  And a block comes
before another one if it ends before that one begins or strictly contains it,
which is to come before it in pre-order.
-/
theorem order_is_preorder_of_prefixes
    (one other : Block)
    (sameFamily : one.family = other.family) :
    (one ≠ other → ∃! placement : Placement, placement.Holds one other) ∧
    (one.Contains other ↔
      one.prefixLen ≤ other.prefixLen ∧
        around other.network one.prefixLen = .ok one) ∧
    (one.Contains other ↔ one.path <+: other.path) ∧
    (compare one other = .lt ↔
      one.EndsBefore other ∨ one.StrictlyContains other) ∧
    (compare one other = .lt ↔ ComesInFront one.path other.path) := by
  have ordered := compare_eq_lt_iff_placement sameFamily
  refine
    ⟨existsUnique_placement sameFamily, contains_iff_around,
      (isPrefix_path_iff sameFamily).symm, ordered, ?_⟩
  rw [ordered, comesInFront_iff, endsBefore_iff_path sameFamily,
    strictlyContains_iff_path sameFamily]

/-- A block and its lower half have one network, and the wider one comes first. -/
theorem order_is_preorder_of_prefixes_on_one_network :
    let network := Address.truncated .v4 0x0a000000
    let outer : Block := ⟨network, 8, by decide, by decide⟩
    let inner : Block := ⟨network, 9, by decide, by decide⟩
    outer.family = inner.family ∧
      outer ≠ inner ∧
      (∃! placement : Placement, placement.Holds outer inner) ∧
      around inner.network 8 = .ok outer ∧
      outer.StrictlyContains inner ∧
      compare outer inner = .lt ∧
      ComesInFront outer.path inner.path := by
  intro network outer inner
  have different : outer ≠ inner := by
    decide
  have less : compare outer inner = .lt := by
    decide +kernel
  have overlap : ¬ outer.EndsBefore inner :=
    Nat.not_lt.mpr (by decide +kernel)
  obtain ⟨unique, contains, -, ordered, inFront⟩ :=
    order_is_preorder_of_prefixes outer inner rfl
  have strictly := (ordered.mp less).resolve_left overlap
  exact
    ⟨rfl, different, unique different, (contains.mp strictly.1).2, strictly,
      less, inFront.mp less⟩

end Block

end IpBlocks
