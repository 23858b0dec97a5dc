import IpBlocks.Proofs.Block.Nesting
import IpBlocks.Proofs.Outcome
import IpBlocks.Span.Split

namespace IpBlocks

/-!
# Splitting as a greedy run

A splitting step takes, among the blocks that start at the cursor and end
within the span, the one with the shortest prefix (`Span.Takes`).  A run of
such steps up to the end of the span is a derivation of `Span.Greedy`, which
knows neither the mask test of the prefix search nor the cap on the number of
steps.

From every cursor within a span there is such a run (`Span.exists_greedy`),
and the capped loop follows it if the cap is large enough
(`Span.Greedy.blocksFrom_eq_ok`).
-/

namespace Family

/-- The mask test asks for an aligned cursor and for room up to the limit. -/
theorem fits_iff
    {family : Family}
    {cursor limit prefixLen : Nat} :
    family.fits cursor limit prefixLen = true ↔
      family.blockSize prefixLen ∣ cursor ∧
        cursor + family.blockSize prefixLen ≤ limit + 1 := by
  have positive := family.blockSize_pos prefixLen
  rw [fits, Bool.and_eq_true, decide_eq_true_eq, decide_eq_true_eq,
    and_hostMask]
  constructor
  · rintro ⟨aligned, below⟩
    rw [or_hostMask aligned] at below
    exact ⟨Nat.dvd_of_mod_eq_zero aligned, by omega⟩
  · rintro ⟨divides, room⟩
    have aligned := Nat.mod_eq_zero_of_dvd divides
    rw [or_hostMask aligned]
    exact ⟨aligned, by omega⟩

/-- If a block fits at a cursor, then so do the smaller blocks there. -/
theorem fits_of_le
    {family : Family}
    {cursor limit shorter longer : Nat}
    (order : shorter ≤ longer)
    (fitting : family.fits cursor limit shorter = true) :
    family.fits cursor limit longer = true := by
  rw [fits_iff] at fitting ⊢
  have divides := family.blockSize_dvd_blockSize order
  have smaller :=
    Nat.le_of_dvd (family.blockSize_pos shorter) divides
  exact ⟨divides.trans fitting.1, by omega⟩

/-- The search gives up only if not even its first prefix fits. -/
theorem widestPrefixUpTo?_eq_none_iff
    {family : Family}
    {cursor limit longest : Nat} :
    family.widestPrefixUpTo? cursor limit longest = none ↔
      family.fits cursor limit longest = false := by
  cases longest with
  | zero =>
      simp [widestPrefixUpTo?]
  | succ shorter =>
      simp [widestPrefixUpTo?]

/-- What the search finds is the shortest of all prefixes that fit. -/
theorem widestPrefixUpTo?_sound
    {family : Family}
    {cursor limit longest found : Nat}
    (search :
      family.widestPrefixUpTo? cursor limit longest = some found) :
    found ≤ longest ∧
      family.fits cursor limit found = true ∧
        ∀ other,
          family.fits cursor limit other = true → found ≤ other := by
  induction longest with
  | zero =>
      simp only [widestPrefixUpTo?, Option.ite_none_right_eq_some,
        Option.some.injEq] at search
      obtain ⟨fitting, rfl⟩ := search
      exact ⟨Nat.le_refl 0, fitting, fun _ _ => Nat.zero_le _⟩
  | succ shorter inductionHypothesis =>
      simp only [widestPrefixUpTo?, Option.ite_none_right_eq_some]
        at search
      obtain ⟨fitting, search⟩ := search
      cases deeper : family.widestPrefixUpTo? cursor limit shorter with
      | none =>
          rw [deeper, Option.none_or, Option.some.injEq] at search
          subst found
          refine ⟨Nat.le_refl _, fitting, ?_⟩
          intro other otherFits
          have stopped := widestPrefixUpTo?_eq_none_iff.mp deeper
          by_contra notLonger
          have shorterFits : family.fits cursor limit shorter = true :=
            fits_of_le (by omega) otherFits
          rw [stopped] at shorterFits
          cases shorterFits
      | some deepest =>
          rw [deeper, Option.some_or, Option.some.injEq] at search
          subst found
          obtain ⟨bounded, rest⟩ := inductionHypothesis deeper
          exact ⟨Nat.le_succ_of_le bounded, rest⟩

/-- The search finds exactly the least prefix that fits. -/
theorem widestPrefix?_eq_some_iff
    {family : Family}
    {cursor limit prefixLen : Nat} :
    family.widestPrefix? cursor limit = some prefixLen ↔
      prefixLen ≤ family.width ∧
        family.fits cursor limit prefixLen = true ∧
          ∀ other,
            family.fits cursor limit other = true → prefixLen ≤ other := by
  constructor
  · exact widestPrefixUpTo?_sound
  · rintro ⟨short, fitting, least⟩
    cases search : family.widestPrefix? cursor limit with
    | none =>
        have stopped := widestPrefixUpTo?_eq_none_iff.mp search
        rw [fits_of_le short fitting] at stopped
        cases stopped
    | some found =>
        obtain ⟨-, foundFits, foundLeast⟩ := widestPrefixUpTo?_sound search
        rw [Nat.le_antisymm (foundLeast prefixLen fitting)
          (least found foundFits)]

end Family

namespace Block

/-- A block fits at its own network exactly up to its last address. -/
theorem fits_iff_last_le {block : Block} {limit : Nat} :
    block.family.fits block.network.value limit block.prefixLen = true ↔
      block.last.value ≤ limit := by
  have final := block.last_value_succ
  have positive := block.size_pos
  rw [Family.fits_iff]
  constructor
  · rintro ⟨-, room⟩
    change block.network.value + block.size ≤ limit + 1 at room
    omega
  · intro below
    refine ⟨block.size_dvd_network, ?_⟩
    change block.network.value + block.size ≤ limit + 1
    omega

/-- The block around an aligned address starts at that address. -/
theorem exists_network_eq
    (address : Address)
    (prefixLen : Nat)
    (short : prefixLen ≤ address.family.width)
    (aligned : address.family.blockSize prefixLen ∣ address.value) :
    ∃ block : Block,
      block.network = address ∧ block.prefixLen = prefixLen := by
  refine ⟨⟨address, prefixLen, short, ?_⟩, rfl, rfl⟩
  rw [Family.and_hostMask]
  exact Nat.mod_eq_zero_of_dvd aligned

/-- A block is the block of its prefix length around its network. -/
theorem around_network (block : Block) :
    around block.network block.prefixLen = .ok block := by
  rw [around_eq_ok_iff]
  refine ⟨block.prefixLen_le, Block.ext (Address.ext rfl ?_) rfl⟩
  rw [network_enclosing_value]
  change
    block.network.value - block.network.value % block.size =
      block.network.value
  rw [block.network_aligned, Nat.sub_zero]

end Block

namespace Span

/-- The widest block that starts at a cursor and ends within a span. -/
structure Takes (span : Span) (cursor : Address) (block : Block) : Prop where
  network_eq : block.network = cursor
  last_le : block.last.value ≤ span.last.value
  widest :
    ∀ other : Block,
      other.network = cursor →
        other.last.value ≤ span.last.value →
          block.prefixLen ≤ other.prefixLen

/-- The blocks that are taken one after another up to the end of a span. -/
inductive Greedy (span : Span) : Address → List Block → Prop where
  | final
      {cursor : Address}
      {block : Block}
      (taken : span.Takes cursor block)
      (reached : block.last.value = span.last.value) :
      Greedy span cursor [block]
  | step
      {cursor following : Address}
      {block : Block}
      {later : List Block}
      (taken : span.Takes cursor block)
      (inFront : block.last.value < span.last.value)
      (next : block.last.next? = some following)
      (run : Greedy span following later) :
      Greedy span cursor (block :: later)

theorem first_mem (span : Span) :
    span.first ∈ span :=
  ⟨rfl, Nat.le_refl _, span.ordered⟩

theorem mem_iff {span : Span} {address : Address} :
    address ∈ span ↔
      address.family = span.family ∧
        span.first.value ≤ address.value ∧
          address.value ≤ span.last.value :=
  Iff.rfl

namespace Takes

variable {span : Span} {cursor : Address} {block : Block}

theorem family_eq
    (taken : span.Takes cursor block)
    (member : cursor ∈ span) :
    block.family = span.family := by
  rw [Block.family, taken.network_eq, member.1]

/-- The prefix search finds the block that is to be taken. -/
theorem widestPrefix?_eq
    (taken : span.Takes cursor block)
    (member : cursor ∈ span) :
    span.family.widestPrefix? cursor.value span.last.value =
      some block.prefixLen := by
  have sameFamily := taken.family_eq member
  have short := block.prefixLen_le
  rw [taken.network_eq, member.1] at short
  rw [Family.widestPrefix?_eq_some_iff]
  refine ⟨short, ?_, ?_⟩
  · rw [← taken.network_eq, ← sameFamily]
    exact Block.fits_iff_last_le.mpr taken.last_le
  · intro prefixLen fitting
    by_contra notLonger
    have aligned := (Family.fits_iff.mp fitting).1
    rw [← member.1] at short aligned
    obtain ⟨other, otherNetwork, rfl⟩ :=
      Block.exists_network_eq cursor prefixLen (by omega) aligned
    rw [← member.1, ← otherNetwork] at fitting
    exact notLonger
      (taken.widest other otherNetwork (Block.fits_iff_last_le.mp fitting))

theorem around_eq (taken : span.Takes cursor block) :
    Block.around cursor block.prefixLen = .ok block :=
  taken.network_eq ▸ block.around_network

end Takes

/-- Some block can be taken at every cursor within a span. -/
theorem exists_takes
    {span : Span}
    {cursor : Address}
    (member : cursor ∈ span) :
    ∃ block, span.Takes cursor block := by
  cases search :
      span.family.widestPrefix? cursor.value span.last.value with
  | none =>
      have stopped := Family.widestPrefixUpTo?_eq_none_iff.mp search
      have single : span.family.blockSize span.family.width = 1 := by
        rw [Family.blockSize_eq_two_pow, Nat.sub_self, pow_zero]
      have within := member.2.2
      have fitting :
          span.family.fits cursor.value span.last.value
            span.family.width = true := by
        rw [Family.fits_iff, single]
        exact ⟨Nat.one_dvd _, by omega⟩
      rw [fitting] at stopped
      cases stopped
  | some prefixLen =>
      obtain ⟨short, fitting, least⟩ :=
        Family.widestPrefix?_eq_some_iff.mp search
      rw [← member.1] at short fitting least
      obtain ⟨block, network, rfl⟩ :=
        Block.exists_network_eq cursor prefixLen short
          (Family.fits_iff.mp fitting).1
      rw [← network] at fitting least
      refine ⟨block, network, Block.fits_iff_last_le.mp fitting, ?_⟩
      intro other otherNetwork otherLast
      apply least
      rw [network, ← otherNetwork]
      exact Block.fits_iff_last_le.mpr otherLast

/-- The cursor behind a block that ends inside a span lies in the span. -/
theorem following_mem
    {span : Span}
    {cursor following : Address}
    {block : Block}
    (member : cursor ∈ span)
    (taken : span.Takes cursor block)
    (inFront : block.last.value < span.last.value)
    (next : block.last.next? = some following) :
    following ∈ span := by
  obtain ⟨sameFamily, value⟩ := Address.next?_eq_some_iff.mp next
  have order := block.network_le_last
  have cursorBehind := member.2.1
  rw [taken.network_eq] at order
  refine ⟨sameFamily.trans (taken.family_eq member), ?_, ?_⟩
  · omega
  · omega

/-- From every cursor within a span a run leads to the end of the span. -/
theorem exists_greedy
    {span : Span}
    {cursor : Address}
    (member : cursor ∈ span) :
    ∃ blocks, span.Greedy cursor blocks := by
  induction remaining : span.last.value - cursor.value
    using Nat.strong_induction_on generalizing cursor with
  | _ distance inductionHypothesis =>
      obtain ⟨block, taken⟩ := exists_takes member
      have order := block.network_le_last
      rw [taken.network_eq] at order
      rcases Nat.eq_or_lt_of_le taken.last_le with reached | inFront
      · exact ⟨[block], .final taken reached⟩
      · cases next : block.last.next? with
        | none =>
            have atEnd := Address.next?_eq_none_iff.mp next
            have bounded := span.last.value_le
            have sameFamily : block.last.family = span.last.family :=
              (taken.family_eq member).trans span.sameFamily
            rw [sameFamily] at atEnd
            omega
        | some following =>
            have value := (Address.next?_eq_some_iff.mp next).2
            have nearer : span.last.value - following.value < distance := by
              omega
            obtain ⟨later, run⟩ :=
              inductionHypothesis _ nearer
                (following_mem member taken inFront next) rfl
            exact ⟨block :: later, .step taken inFront next run⟩

namespace Greedy

variable {span : Span} {cursor : Address} {blocks : List Block}

/-- The capped loop follows a run that is no longer than the cap. -/
theorem blocksFrom_eq_ok
    (run : span.Greedy cursor blocks)
    (member : cursor ∈ span)
    {steps : Nat}
    (enough : blocks.length ≤ steps) :
    span.blocksFrom steps cursor = .ok blocks := by
  induction run generalizing steps with
  | final taken reached =>
      obtain ⟨fewer, rfl⟩ := Nat.exists_eq_add_of_lt enough
      simp only [List.length_nil, Nat.zero_add, blocksFrom]
      rw [taken.widestPrefix?_eq member]
      simp only [taken.around_eq, Outcome.ok_bind, reached, if_true]
      rfl
  | step taken inFront next later inductionHypothesis =>
      obtain ⟨fewer, rfl⟩ := Nat.exists_eq_add_of_lt enough
      simp only [blocksFrom]
      rw [taken.widestPrefix?_eq member]
      have rest :=
        inductionHypothesis (following_mem member taken inFront next)
          (Nat.le_add_right _ fewer)
      simp only [taken.around_eq, Outcome.ok_bind, Nat.ne_of_lt inFront,
        if_false, next, rest]
      rfl

end Greedy

end Span

end IpBlocks
