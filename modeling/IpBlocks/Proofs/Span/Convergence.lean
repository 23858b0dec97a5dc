import IpBlocks.Proofs.Span.Greedy
import Mathlib.Tactic.Ring

namespace IpBlocks

/-!
# The length of a splitting run

A block is as wide as the alignment of the cursor and the rest of the span
allow.  As long as alignment is what stops it, each step makes the cursor
more aligned than before (`Span.Greedy.climb`); once the end of the span
stops it, less than the block just taken is left
(`Span.Greedy.length_le_of_descent`).

A run strictly inside an aligned frame of `2 ^ bits` addresses therefore
climbs to the middle of the frame and descends from there, or stays in one
half of it.  Either way it has at most `2 * bits - 2` blocks, which is less
than the cap of the splitting loop when the frame is the whole family.
-/

namespace Block

/-- The number of bits after the prefix. -/
def hostBits (block : Block) : Nat :=
  block.family.width - block.prefixLen

theorem size_eq_two_pow (block : Block) :
    block.size = 2 ^ block.hostBits :=
  block.family.blockSize_eq_two_pow block.prefixLen

end Block

/-- An odd multiple of a power of two becomes even by one more such power. -/
theorem two_pow_succ_dvd_add
    {bits value : Nat}
    (aligned : 2 ^ bits ∣ value)
    (notMore : ¬ 2 ^ (bits + 1) ∣ value) :
    2 ^ (bits + 1) ∣ value + 2 ^ bits := by
  obtain ⟨quotient, rfl⟩ := aligned
  obtain ⟨half, isEven | isOdd⟩ := Nat.even_or_odd' quotient
  · exfalso
    apply notMore
    exact ⟨half, by rw [isEven]; ring⟩
  · exact ⟨half + 1, by rw [isOdd]; ring⟩

namespace Span

namespace Takes

variable {span : Span} {cursor : Address} {block : Block}

theorem hostBits_le
    (taken : span.Takes cursor block)
    (member : cursor ∈ span) :
    block.hostBits ≤ span.family.width := by
  rw [Block.hostBits, taken.family_eq member]
  exact Nat.sub_le _ _

theorem aligned (taken : span.Takes cursor block) :
    2 ^ block.hostBits ∣ cursor.value := by
  rw [← block.size_eq_two_pow, ← taken.network_eq]
  exact block.size_dvd_network

/-- What follows a block lies the size of the block behind the cursor. -/
theorem last_succ (taken : span.Takes cursor block) :
    block.last.value + 1 = cursor.value + 2 ^ block.hostBits := by
  rw [block.last_value_succ, taken.network_eq, block.size_eq_two_pow]

/-- The block taken is at least as wide as any that would fit. -/
theorem le_hostBits
    (taken : span.Takes cursor block)
    (member : cursor ∈ span)
    (bits : Nat)
    (short : bits ≤ span.family.width)
    (divides : 2 ^ bits ∣ cursor.value)
    (room : cursor.value + 2 ^ bits ≤ span.last.value + 1) :
    bits ≤ block.hostBits := by
  have sameFamily : cursor.family = span.family := member.1
  have restored : span.family.width - (span.family.width - bits) = bits :=
    Nat.sub_sub_self short
  obtain ⟨other, network, length⟩ :=
    Block.exists_network_eq cursor (span.family.width - bits)
      (by rw [sameFamily]; exact Nat.sub_le _ _)
      (by rwa [sameFamily, Family.blockSize_eq_two_pow, restored])
  have otherBits : other.hostBits = bits := by
    rw [Block.hostBits, Block.family, network, sameFamily, length, restored]
  have otherEnd := other.last_value_succ
  rw [other.size_eq_two_pow, otherBits, network] at otherEnd
  have wider := taken.widest other network (by omega)
  rw [length] at wider
  rw [Block.hostBits, taken.family_eq member]
  omega

/--
Where a peak lies before the end of the span, a block below it ends at the
peak at the latest, and leaves the cursor more aligned than it was.
-/
theorem climb_step
    (taken : span.Takes cursor block)
    (member : cursor ∈ span)
    {peak bits low : Nat}
    (short : bits ≤ span.family.width)
    (peakAligned : 2 ^ bits ∣ peak)
    (near : peak < cursor.value + 2 ^ bits)
    (below : cursor.value < peak)
    (within : peak ≤ span.last.value + 1)
    (lowAligned : 2 ^ low ∣ cursor.value) :
    low ≤ block.hostBits ∧
      block.hostBits < bits ∧
        cursor.value + 2 ^ block.hostBits ≤ peak ∧
          2 ^ (block.hostBits + 1) ∣
            cursor.value + 2 ^ block.hostBits := by
  -- No multiple of `2 ^ bits` lies strictly between the cursor and the peak.
  have bounded :
      ∀ {exponent : Nat}, 2 ^ exponent ∣ cursor.value → exponent < bits := by
    intro exponent divides
    by_contra notBelow
    have wide : 2 ^ bits ∣ cursor.value :=
      (Nat.pow_dvd_pow 2 (Nat.le_of_not_lt notBelow)).trans divides
    have room := add_le_of_dvd_of_lt wide peakAligned below
    omega
  have room :
      ∀ {exponent : Nat},
        exponent ≤ bits →
          2 ^ exponent ∣ cursor.value →
            cursor.value + 2 ^ exponent ≤ peak := by
    intro exponent order divides
    exact
      add_le_of_dvd_of_lt divides
        ((Nat.pow_dvd_pow 2 order).trans peakAligned) below
  have lowBelow := bounded lowAligned
  have hostBelow := bounded taken.aligned
  have lowRoom := room (Nat.le_of_lt lowBelow) lowAligned
  have notMore : ¬ 2 ^ (block.hostBits + 1) ∣ cursor.value := by
    intro divides
    have widerRoom := room hostBelow divides
    have wider :=
      taken.le_hostBits member _ (Nat.le_trans hostBelow short) divides
        (by omega)
    omega
  exact
    ⟨taken.le_hostBits member low (by omega) lowAligned (by omega),
      hostBelow,
      room (Nat.le_of_lt hostBelow) taken.aligned,
      two_pow_succ_dvd_add taken.aligned notMore⟩

end Takes

theorem following_value
    {span : Span}
    {cursor following : Address}
    {block : Block}
    (taken : span.Takes cursor block)
    (next : block.last.next? = some following) :
    following.value = cursor.value + 2 ^ block.hostBits := by
  rw [(Address.next?_eq_some_iff.mp next).2, taken.last_succ]

namespace Greedy

variable {span : Span} {cursor : Address} {blocks : List Block}

/-- From an aligned cursor on, every block leaves less than its own size. -/
theorem length_le_of_descent
    (run : span.Greedy cursor blocks)
    (member : cursor ∈ span)
    {bits : Nat}
    (short : bits ≤ span.family.width)
    (aligned : 2 ^ bits ∣ cursor.value)
    (close : span.last.value + 1 < cursor.value + 2 ^ bits) :
    blocks.length ≤ bits := by
  induction run generalizing bits with
  | final taken reached =>
      rcases Nat.eq_zero_or_pos bits with isZero | positive
      · subst bits
        have within := member.2.2
        rw [pow_zero] at close
        omega
      · exact positive
  | @step cursor following block later taken inFront next run
      inductionHypothesis =>
      have ended := taken.last_succ
      have smaller : 2 ^ block.hostBits < 2 ^ bits := by
        omega
      have below : block.hostBits < bits :=
        (Nat.pow_lt_pow_iff_right Nat.one_lt_two).mp smaller
      have value := following_value taken next
      have closer :
          span.last.value + 1 <
            following.value + 2 ^ block.hostBits := by
        by_contra notClose
        have doubled : 2 ^ (block.hostBits + 1) = 2 * 2 ^ block.hostBits :=
          pow_succ' 2 block.hostBits
        have wider :=
          taken.le_hostBits member (block.hostBits + 1)
            (Nat.le_trans below short)
            ((Nat.pow_dvd_pow 2 below).trans aligned) (by omega)
        omega
      have later :=
        inductionHypothesis (following_mem member taken inFront next)
          (taken.hostBits_le member)
          (value ▸ Nat.dvd_add taken.aligned (Nat.dvd_refl _)) closer
      exact Nat.le_trans (Nat.succ_le_succ later) below

/-- A span that is a single block is split into one block. -/
theorem length_eq_one_of_whole
    (run : span.Greedy cursor blocks)
    (member : cursor ∈ span)
    {bits : Nat}
    (short : bits ≤ span.family.width)
    (aligned : 2 ^ bits ∣ cursor.value)
    (whole : span.last.value + 1 = cursor.value + 2 ^ bits) :
    blocks.length = 1 := by
  cases run with
  | final taken reached =>
      rfl
  | @step _ following block later taken inFront next run =>
      have wide :=
        taken.le_hostBits member bits short aligned
          (Nat.le_of_eq whole.symm)
      have larger : 2 ^ bits ≤ 2 ^ block.hostBits :=
        Nat.pow_le_pow_right Nat.two_pos wide
      have ended := taken.last_succ
      omega

/--
Below a peak that the span reaches, a run takes at most one block for each
power of two between the alignment of the cursor and that of the peak, and
then ends or goes on from the peak.
-/
theorem climb
    (run : span.Greedy cursor blocks)
    (member : cursor ∈ span)
    {peak bits low : Nat}
    (short : bits ≤ span.family.width)
    (peakAligned : 2 ^ bits ∣ peak)
    (near : peak < cursor.value + 2 ^ bits)
    (below : cursor.value < peak)
    (within : peak ≤ span.last.value + 1)
    (lowAligned : 2 ^ low ∣ cursor.value) :
    low + blocks.length ≤ bits ∨
      ∃ top rest,
        top.value = peak ∧
          top ∈ span ∧
            span.Greedy top rest ∧
              low + blocks.length ≤ bits + rest.length := by
  induction run generalizing low with
  | final taken reached =>
      obtain ⟨lowBelow, hostBelow, -, -⟩ :=
        taken.climb_step member short peakAligned near below within
          lowAligned
      exact Or.inl (Nat.lt_of_le_of_lt lowBelow hostBelow)
  | @step cursor following block later taken inFront next run
      inductionHypothesis =>
      obtain ⟨lowBelow, hostBelow, atMost, aligned⟩ :=
        taken.climb_step member short peakAligned near below within
          lowAligned
      have followingMember := following_mem member taken inFront next
      have value := following_value taken next
      rw [← value] at atMost aligned
      rw [List.length_cons]
      rcases Nat.eq_or_lt_of_le atMost with atPeak | stillBelow
      · exact
          Or.inr
            ⟨following, later, atPeak, followingMember, run, by omega⟩
      · rcases
          inductionHypothesis followingMember (by omega) stillBelow aligned
          with ended | ⟨top, rest, atPeak, topMember, topRun, counted⟩
        · exact Or.inl (by omega)
        · exact
            Or.inr ⟨top, rest, atPeak, topMember, topRun, by omega⟩

/-- Below a peak a run takes one block for each bit of the peak at most. -/
theorem length_le_of_peak
    (run : span.Greedy cursor blocks)
    (member : cursor ∈ span)
    {peak bits : Nat}
    (short : bits ≤ span.family.width)
    (peakAligned : 2 ^ bits ∣ peak)
    (near : peak < cursor.value + 2 ^ bits)
    (below : cursor.value < peak)
    (within : peak ≤ span.last.value + 1) :
    blocks.length ≤ bits ∨
      ∃ top rest,
        top.value = peak ∧
          top ∈ span ∧
            span.Greedy top rest ∧
              blocks.length ≤ bits + rest.length := by
  have lowest : 2 ^ 0 ∣ cursor.value := by
    rw [pow_zero]
    exact Nat.one_dvd _
  have climbs :=
    run.climb member short peakAligned near below within lowest
  rwa [Nat.zero_add] at climbs

/-- Strictly inside an aligned frame there are fewer than two blocks a bit. -/
theorem length_le_of_inside
    (run : span.Greedy cursor blocks)
    (member : cursor ∈ span)
    {base bits : Nat}
    (short : bits ≤ span.family.width)
    (baseAligned : 2 ^ bits ∣ base)
    (behind : base < cursor.value)
    (inFront : span.last.value + 1 < base + 2 ^ bits) :
    blocks.length + 2 ≤ 2 * bits := by
  induction bits generalizing base with
  | zero =>
      have within := member.2.2
      rw [pow_zero] at inFront
      omega
  | succ bits inductionHypothesis =>
      have within := member.2.2
      have doubled : 2 ^ (bits + 1) = 2 ^ bits + 2 ^ bits := by
        rw [pow_succ, mul_two]
      have halfAligned : 2 ^ bits ∣ base :=
        (Nat.pow_dvd_pow 2 (Nat.le_succ bits)).trans baseAligned
      have middleAligned : 2 ^ bits ∣ base + 2 ^ bits :=
        Nat.dvd_add halfAligned (Nat.dvd_refl _)
      have narrow : bits ≤ span.family.width :=
        Nat.le_of_succ_le short
      have descent :
          ∀ {top : Address} {rest : List Block},
            span.Greedy top rest →
              top ∈ span →
                top.value = base + 2 ^ bits → rest.length ≤ bits := by
        intro top rest topRun topMember atMiddle
        apply topRun.length_le_of_descent topMember narrow
        · rw [atMiddle]
          exact middleAligned
        · omega
      -- The cursor lies in the lower half, in the middle or in the upper half.
      rcases Nat.lt_trichotomy cursor.value (base + 2 ^ bits) with
        lower | atMiddle | upper
      · by_cases crossing : base + 2 ^ bits ≤ span.last.value + 1
        · rcases
            run.length_le_of_peak member narrow middleAligned (by omega)
              lower crossing
            with ended | ⟨top, rest, atPeak, topMember, topRun, counted⟩
          · omega
          · have := descent topRun topMember atPeak
            omega
        · have := inductionHypothesis narrow halfAligned behind (by omega)
          omega
      · have := descent run member atMiddle
        omega
      · have :=
          inductionHypothesis narrow middleAligned upper (by omega)
        omega

/-- No run has more than two blocks a bit less two. -/
theorem length_le
    (run : span.Greedy cursor blocks)
    (member : cursor ∈ span) :
    blocks.length ≤ 2 * span.family.width - 2 := by
  have twoBits : 2 ≤ span.family.width := by
    cases span.family <;> decide
  have behindEnd : span.last.value + 1 ≤ 2 ^ span.family.width := by
    rw [← Family.addressCount_eq_two_pow, Span.family, span.sameFamily]
    exact span.last.value_lt
  have within := member.2.2
  have zeroAligned : 2 ^ span.family.width ∣ 0 :=
    Nat.dvd_zero _
  rcases Nat.eq_zero_or_pos cursor.value with atStart | behind
  · rw [← atStart] at zeroAligned
    rcases Nat.eq_or_lt_of_le behindEnd with whole | inFront
    · have :=
        run.length_eq_one_of_whole member (Nat.le_refl _) zeroAligned
          (by omega)
      omega
    · have :=
        run.length_le_of_descent member (Nat.le_refl _) zeroAligned
          (by omega)
      omega
  · rcases Nat.eq_or_lt_of_le behindEnd with toEnd | inFront
    · rcases
        run.length_le_of_peak member (Nat.le_refl _) (Nat.dvd_refl _)
          (by omega) (by omega) (Nat.le_of_eq toEnd.symm)
        with ended | ⟨top, rest, atPeak, topMember, topRun, counted⟩
      · omega
      · -- No address lies behind the last one of the family.
        have topWithin := topMember.2.2
        omega
    · have :=
        run.length_le_of_inside member (Nat.le_refl _) zeroAligned behind
          (by omega)
      omega

end Greedy

/-- A span is split by a run from its first address, and never in vain. -/
theorem blocks_eq_ok (span : Span) :
    ∃ blocks,
      span.blocks = .ok blocks ∧
        span.Greedy span.first blocks ∧
          blocks.length ≤ 2 * span.family.width - 2 := by
  obtain ⟨blocks, run⟩ := exists_greedy span.first_mem
  have bounded := run.length_le span.first_mem
  refine ⟨blocks, ?_, run, bounded⟩
  exact
    run.blocksFrom_eq_ok span.first_mem
      (Nat.le_trans bounded (Nat.sub_le _ 2))

/-- The span between two addresses of one family runs from least to greatest. -/
theorem between_eq_ok
    {one other : Address}
    (sameFamily : one.family = other.family) :
    ∃ span,
      between one other = .ok span ∧
        span.family = one.family ∧
          span.first.value = min one.value other.value ∧
            span.last.value = max one.value other.value := by
  by_cases ordered : one.value ≤ other.value
  · refine ⟨⟨one, other, sameFamily, ordered⟩, ?_, rfl, ?_, ?_⟩
    · simp [between, sameFamily, ordered]
    · exact (Nat.min_eq_left ordered).symm
    · exact (Nat.max_eq_right ordered).symm
  · have reversed := Nat.le_of_not_le ordered
    refine
      ⟨⟨other, one, sameFamily.symm, reversed⟩, ?_, sameFamily.symm,
        ?_, ?_⟩
    · simp [between, sameFamily, ordered]
    · exact (Nat.min_eq_right reversed).symm
    · exact (Nat.max_eq_left reversed).symm

end Span

/-- Splitting between two addresses of one family follows a greedy run. -/
theorem split_eq_ok
    {one other : Address}
    (sameFamily : one.family = other.family) :
    ∃ (span : Span) (blocks : List Block),
      split one other = .ok blocks ∧
        span.Greedy span.first blocks ∧
          blocks.length ≤ 2 * span.family.width - 2 ∧
            span.family = one.family ∧
              span.first.value = min one.value other.value ∧
                span.last.value = max one.value other.value := by
  obtain ⟨span, spanned, family, first, last⟩ :=
    Span.between_eq_ok sameFamily
  obtain ⟨blocks, splits, run, bounded⟩ := span.blocks_eq_ok
  refine ⟨span, blocks, ?_, run, bounded, family, first, last⟩
  rw [split, spanned]
  exact splits

end IpBlocks
