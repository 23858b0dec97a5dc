import IpBlocks.Proofs.Words.Agreement
import Mathlib.Order.Bounds.Basic
import Mathlib.Order.Interval.Set.Defs

namespace IpBlocks

/-!
# Searching for the widest prefix

Two things bound a block that starts at a cursor: the trailing zero bits of the
cursor, and the number of addresses from the cursor up to the limit.  For a
cursor within the limit, a prefix passes the mask test exactly if it leaves no
more host bits than both of them allow (`Family.fits_iff_sub_freeBits_le`).

So the prefixes that pass are those from some length on, and every way to look
for the first of them finds the same one: shortening the prefix until one
fails, trying all of them, and halving the range
(`Family.prefix_search_misses_nothing`).
-/

/-- The first number of a range from which on a property holds, found by halving the range. -/
def bisect (holds : Nat → Bool) (low high : Nat) : Nat :=
  if low < high then
    if holds ((low + high) / 2) then
      bisect holds low ((low + high) / 2)
    else
      bisect holds ((low + high) / 2 + 1) high
  else
    high
termination_by high - low

/-- Halving finds where a property begins to hold. -/
theorem bisect_eq
    {holds : Nat → Bool}
    {low least high : Nat}
    (lower : low ≤ least)
    (upper : least ≤ high)
    (begins :
      ∀ place, place ≤ high → (holds place = true ↔ least ≤ place)) :
    bisect holds low high = least := by
  fun_induction bisect holds low high with
  | case1 low high notEmpty holding inductionHypothesis =>
      have reached := (begins _ (by omega)).mp holding
      exact
        inductionHypothesis lower reached
          (fun place below => begins place (by omega))
  | case2 low high notEmpty failing inductionHypothesis =>
      have behind := mt (begins ((low + high) / 2) (by omega)).mpr failing
      exact inductionHypothesis (by omega) upper begins
  | case3 low high empty =>
      omega

/-- Powers of two divide a number whose lowest bits are clear. -/
theorem two_pow_dvd_iff_testBit {bits value : Nat} :
    2 ^ bits ∣ value ↔ ∀ place < bits, value.testBit place = false := by
  rw [Nat.dvd_iff_mod_eq_zero]
  constructor
  · intro noRemainder place below
    have lowBit := Nat.testBit_mod_two_pow value bits place
    simpa [noRemainder, below] using lowBit.symm
  · intro clear
    apply Nat.eq_of_testBit_eq
    intro place
    rw [Nat.testBit_mod_two_pow, Nat.zero_testBit]
    by_cases below : place < bits
    · rw [clear place below, Bool.and_false]
    · rw [decide_eq_false below, Bool.false_and]

namespace Family

variable {family : Family} {cursor limit prefixLen : Nat}

/-- The number of trailing zero bits of a number within the width. -/
def trailingZeros (family : Family) (value : Nat) : Nat :=
  (BitVec.ofNat family.width value).ctz.toNat

/-- The most host bits of a block that starts at a cursor and ends by a limit. -/
def freeBits (family : Family) (cursor limit : Nat) : Nat :=
  min (family.trailingZeros cursor) (Nat.log2 (limit - cursor + 1))

/-- The prefix lengths that pass the mask test for a cursor and a limit. -/
def fittingPrefixes (family : Family) (cursor limit : Nat) : Set Nat :=
  {prefixLen |
    prefixLen ≤ family.width ∧
      cursor &&& family.hostMask prefixLen = 0 ∧
        cursor ||| family.hostMask prefixLen ≤ limit}

theorem trailingZeros_le (family : Family) (value : Nat) :
    family.trailingZeros value ≤ family.width := by
  have bounded :=
    BitVec.le_def.mp
      (BitVec.clz_le (x := (BitVec.ofNat family.width value).reverse))
  exact Nat.le_trans bounded (Nat.mod_le _ _)

/-- Only a word without set bits has as many trailing zeros as it is wide. -/
theorem ofNat_ne_zero_of_trailingZeros_lt
    {value : Nat}
    (short : family.trailingZeros value < family.width) :
    BitVec.ofNat family.width value ≠ BitVec.ofNat family.width 0 := by
  rw [← BitVec.ctz_lt_iff_ne_zero, BitVec.lt_def]
  refine Nat.lt_of_lt_of_eq short ?_
  exact (Nat.mod_eq_of_lt Nat.lt_two_pow_self).symm

/-- Trailing zeros count by how many powers of two a number can be divided. -/
theorem le_trailingZeros_iff
    {bits value : Nat}
    (short : bits ≤ family.width) :
    bits ≤ family.trailingZeros value ↔ 2 ^ bits ∣ value := by
  have inWord (place : Nat) (inWidth : place < family.width) :
      (BitVec.ofNat family.width value).getLsbD place =
        value.testBit place := by
    rw [BitVec.getLsbD_ofNat, decide_eq_true inWidth, Bool.true_and]
  rw [two_pow_dvd_iff_testBit]
  constructor
  · intro enough place below
    rw [← inWord place (by omega)]
    exact BitVec.getLsbD_false_of_lt_ctz (Nat.lt_of_lt_of_le below enough)
  · intro clear
    by_contra few
    have inWidth : family.trailingZeros value < family.width := by
      omega
    have set :=
      BitVec.getLsbD_true_ctz_of_ne_zero
        (ofNat_ne_zero_of_trailingZeros_lt inWidth)
    change
      (BitVec.ofNat family.width value).getLsbD
        (family.trailingZeros value) = true at set
    rw [inWord _ inWidth, clear _ (by omega)] at set
    cases set

/-- All bits of zero are trailing. -/
@[simp] theorem trailingZeros_zero (family : Family) :
    family.trailingZeros 0 = family.width :=
  Nat.le_antisymm (family.trailingZeros_le 0)
    ((le_trailingZeros_iff (Nat.le_refl _)).mpr (Nat.dvd_zero _))

/-- The mask test spelled out. -/
theorem fits_iff_masks :
    family.fits cursor limit prefixLen = true ↔
      cursor &&& family.hostMask prefixLen = 0 ∧
        cursor ||| family.hostMask prefixLen ≤ limit := by
  rw [fits, Bool.and_eq_true, decide_eq_true_eq, decide_eq_true_eq]

theorem mem_fittingPrefixes_iff :
    prefixLen ∈ family.fittingPrefixes cursor limit ↔
      prefixLen ≤ family.width ∧
        family.fits cursor limit prefixLen = true :=
  and_congr_right' fits_iff_masks.symm

/-- No prefix passes the mask test behind the limit. -/
theorem not_fits_of_lt (behind : limit < cursor) :
    family.fits cursor limit prefixLen = false := by
  rw [Bool.eq_false_iff]
  intro fitting
  have room := (fits_iff.mp fitting).2
  have positive := family.blockSize_pos prefixLen
  omega

/-- A prefix passes the mask test if it leaves no more host bits than are free. -/
theorem fits_iff_sub_freeBits_le
    (within : cursor ≤ limit)
    (short : prefixLen ≤ family.width) :
    family.fits cursor limit prefixLen = true ↔
      family.width - family.freeBits cursor limit ≤ prefixLen := by
  have room :
      cursor + 2 ^ (family.width - prefixLen) ≤ limit + 1 ↔
        family.width - prefixLen ≤ Nat.log2 (limit - cursor + 1) := by
    rw [Nat.le_log2 (Nat.succ_ne_zero _)]
    omega
  rw [fits_iff, blockSize_eq_two_pow, room,
    ← le_trailingZeros_iff (Nat.sub_le _ _), ← le_min_iff]
  change family.width - prefixLen ≤ family.freeBits cursor limit ↔ _
  omega

/-- The prefixes that fit are those from the shortest one on. -/
theorem fittingPrefixes_eq (within : cursor ≤ limit) :
    family.fittingPrefixes cursor limit =
      Set.Icc (family.width - family.freeBits cursor limit)
        family.width := by
  ext prefixLen
  rw [mem_fittingPrefixes_iff, Set.mem_Icc, and_comm]
  constructor
  · rintro ⟨fitting, short⟩
    exact ⟨(fits_iff_sub_freeBits_le within short).mp fitting, short⟩
  · rintro ⟨long, short⟩
    exact ⟨(fits_iff_sub_freeBits_le within short).mpr long, short⟩

/-- The search that stops at the first failure finds the shortest prefix that fits. -/
theorem widestPrefix?_eq (within : cursor ≤ limit) :
    family.widestPrefix? cursor limit =
      some (family.width - family.freeBits cursor limit) := by
  have short : family.width - family.freeBits cursor limit ≤ family.width :=
    Nat.sub_le _ _
  rw [widestPrefix?_eq_some_iff]
  refine
    ⟨short, (fits_iff_sub_freeBits_le within short).mpr (Nat.le_refl _), ?_⟩
  intro other fitting
  rcases Nat.le_total other family.width with inWidth | beyond
  · exact (fits_iff_sub_freeBits_le within inWidth).mp fitting
  · exact Nat.le_trans short beyond

theorem widestPrefix?_eq_none_iff :
    family.widestPrefix? cursor limit = none ↔ limit < cursor := by
  constructor
  · intro stopped
    by_contra notBehind
    rw [widestPrefix?_eq (Nat.le_of_not_lt notBehind)] at stopped
    cases stopped
  · intro behind
    exact widestPrefixUpTo?_eq_none_iff.mpr (not_fits_of_lt behind)

/-- Trying all prefixes finds what the search that stops early finds. -/
theorem find?_fits_eq (family : Family) (cursor limit : Nat) :
    (List.range (family.width + 1)).find? (family.fits cursor limit) =
      family.widestPrefix? cursor limit := by
  cases search : family.widestPrefix? cursor limit with
  | none =>
      have behind := widestPrefix?_eq_none_iff.mp search
      rw [List.find?_range_eq_none]
      intro prefixLen _
      rw [not_fits_of_lt behind, Bool.not_false]
  | some prefixLen =>
      obtain ⟨short, fitting, least⟩ := widestPrefix?_eq_some_iff.mp search
      rw [List.find?_range_eq_some, List.mem_range]
      refine ⟨fitting, Nat.lt_succ_of_le short, ?_⟩
      intro shorter below
      rw [Bool.not_eq_true', Bool.eq_false_iff]
      intro shorterFits
      exact Nat.not_le_of_lt below (least shorter shorterFits)

/--
The search for the widest prefix misses nothing by stopping early.

It finds no prefix exactly for a cursor behind the limit.  Otherwise it finds
the least of the prefixes that pass the mask test, which are those from it up
to the width, so halving the range finds it as well, and so does trying all of
them.  It leaves as many host bits as the cursor has trailing zeros within the
width, or as the number of addresses up to the limit has binary digits behind
the first, whichever is less.  The search on machine words finds it, too.
-/
theorem prefix_search_misses_nothing (family : Family) :
    (∀ cursor limit : Nat,
      family.widestPrefix? cursor limit = none ↔ limit < cursor) ∧
    (∀ cursor limit : Nat,
      cursor ≤ limit →
        ∃ prefixLen,
          family.widestPrefix? cursor limit = some prefixLen ∧
          IsLeast (family.fittingPrefixes cursor limit) prefixLen ∧
          family.fittingPrefixes cursor limit =
            Set.Icc prefixLen family.width ∧
          bisect (family.fits cursor limit) 0 family.width = prefixLen ∧
          family.width - prefixLen =
            min (family.trailingZeros cursor)
              (Nat.log2 (limit - cursor + 1))) ∧
    (∀ cursor limit : Nat,
      (List.range (family.width + 1)).find? (family.fits cursor limit) =
        family.widestPrefix? cursor limit) ∧
    ∀ cursor limit : BitVec 128,
      family.widestPrefixWord? cursor limit =
        (family.widestPrefix? cursor.toNat limit.toNat).map
          (BitVec.ofNat 8) := by
  refine
    ⟨fun _ _ => widestPrefix?_eq_none_iff, ?_, family.find?_fits_eq,
      fun _ _ => widestPrefixWord?_eq _ _⟩
  intro cursor limit within
  have short : family.width - family.freeBits cursor limit ≤ family.width :=
    Nat.sub_le _ _
  have few : family.freeBits cursor limit ≤ family.width :=
    Nat.le_trans (Nat.min_le_left _ _) (family.trailingZeros_le cursor)
  refine
    ⟨_, widestPrefix?_eq within, ?_, fittingPrefixes_eq within, ?_,
      Nat.sub_sub_self few⟩
  · rw [fittingPrefixes_eq within]
    exact isLeast_Icc short
  · exact
      bisect_eq (Nat.zero_le _) short
        (fun _ => fits_iff_sub_freeBits_le within)

/-- The whole greater family, and a span that ends before its first address is as aligned. -/
theorem prefix_search_misses_nothing_in_whole_family :
    let cursor := 0x0a000100
    let limit := 0x0a000105
    (0 ≤ Family.v6.allOnes ∧
      Nat.log2 (Family.v6.allOnes - 0 + 1) = 128 ∧
      Family.v6.widestPrefix? 0 Family.v6.allOnes = some 0 ∧
      Family.v6.fittingPrefixes 0 Family.v6.allOnes = Set.Icc 0 128) ∧
    (cursor ≤ limit ∧
      Family.v4.trailingZeros cursor = 8 ∧
      Nat.log2 (limit - cursor + 1) = 2 ∧
      Family.v4.widestPrefix? cursor limit = some 30 ∧
      bisect (Family.v4.fits cursor limit) 0 32 = 30) := by
  intro cursor limit
  obtain ⟨-, whole, -, -⟩ := prefix_search_misses_nothing .v6
  obtain ⟨-, short, -, -⟩ := prefix_search_misses_nothing .v4
  have wholeWithin : 0 ≤ Family.v6.allOnes := Nat.zero_le _
  have within : cursor ≤ limit := by decide
  have wholeRoom : Nat.log2 (Family.v6.allOnes - 0 + 1) = 128 := by
    decide +kernel
  have zeros : Family.v4.trailingZeros cursor = 8 := by
    decide +kernel
  have room : Nat.log2 (limit - cursor + 1) = 2 := by
    decide +kernel
  have v6Width : Family.v6.width = 128 := rfl
  have v4Width : Family.v4.width = 32 := rfl
  obtain ⟨all, found, -, fitting, -, free⟩ := whole 0 _ wholeWithin
  obtain ⟨prefixLen, foundShort, least, -, halved, freeShort⟩ :=
    short cursor limit within
  rw [wholeRoom, trailingZeros_zero, v6Width] at free
  rw [zeros, room, v4Width] at freeShort
  have isAll : all = 0 := by
    omega
  have isShort : prefixLen = 30 := by
    omega
  subst isAll isShort
  exact
    ⟨⟨wholeWithin, wholeRoom, found, fitting⟩,
      within, zeros, room, foundShort, halved⟩

end Family

end IpBlocks
