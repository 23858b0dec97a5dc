import IpBlocks.Proofs.Address.Bits
import IpBlocks.Proofs.Block.Nesting
import IpBlocks.Proofs.Outcome
import IpBlocks.Proofs.Span.Greedy
import IpBlocks.Proofs.Words.Basic
import Mathlib.Data.List.Basic

namespace IpBlocks

/-!
# Words of values

Every address, block and span is held by words (`Address.words` and its kin).
On the words of values, each operation on words computes the words of what the
operation on values computes, and no value where that one refuses.

So no shift, mask or subtraction loses anything there.  The masks of a family
are the only words that need a look at their bits (`Family.toNat_hostMaskWord`,
`Family.toNat_networkMaskWord`); everything else compares numbers.
-/

namespace Family

@[simp] theorem toNat_widthWord (family : Family) :
    family.widthWord.toNat = family.width := by
  cases family <;> rfl

theorem width_le (family : Family) :
    family.width ≤ 128 := by
  cases family <;> decide

theorem allOnes_eq (family : Family) :
    family.allOnes = 2 ^ family.width - 1 := by
  rw [allOnes, addressCount_eq_two_pow]

/-- Every address of a family fits in the common word. -/
theorem allOnes_lt (family : Family) :
    family.allOnes < 2 ^ 128 := by
  cases family <;> decide

@[simp] theorem toNat_allOnesWord (family : Family) :
    family.allOnesWord.toNat = family.allOnes := by
  cases family <;> rfl

/-- Shifting the whole word leaves the bits after a prefix. -/
theorem toNat_hostMaskWord (family : Family) (prefixLen : BitVec 8) :
    (family.hostMaskWord prefixLen).toNat =
      family.hostMask prefixLen.toNat := by
  rw [hostMaskWord, hostMask, blockSize_eq_two_pow]
  split
  · rename_i long
    rw [BitVec.le_def, toNat_widthWord] at long
    rw [Nat.sub_eq_zero_of_le long]
    rfl
  · rename_i short
    rw [BitVec.le_def, toNat_widthWord, Nat.not_le] at short
    rw [BitVec.ushiftRight_eq', BitVec.toNat_ushiftRight, toNat_allOnesWord,
      allOnes_eq]
    -- Both words are runs of ones, so only their lengths have to agree.
    apply Nat.eq_of_testBit_eq
    intro place
    rw [Nat.testBit_shiftRight, Nat.testBit_two_pow_sub_one,
      Nat.testBit_two_pow_sub_one]
    congr 1
    exact propext (by omega)

/-- Clearing the host bits of the whole word leaves the bits of a prefix. -/
theorem toNat_networkMaskWord (family : Family) (prefixLen : BitVec 8) :
    (family.networkMaskWord prefixLen).toNat =
      family.networkMask prefixLen.toNat := by
  have hostSmall := family.hostMask_le_allOnes prefixLen.toNat
  have wordSmall := family.allOnes_lt
  have widthSmall := family.width_le
  have width := family.allOnes_eq
  rw [networkMaskWord, networkMask, BitVec.toNat_and, BitVec.toNat_not,
    toNat_hostMaskWord, toNat_allOnesWord]
  have inverted :
      2 ^ 128 - 1 - family.hostMask prefixLen.toNat =
        2 ^ 128 - (family.hostMask prefixLen.toNat + 1) := by
    omega
  have cleared :
      family.allOnes - family.hostMask prefixLen.toNat =
        2 ^ family.width - (family.hostMask prefixLen.toNat + 1) := by
    omega
  have below :
      family.hostMask prefixLen.toNat < 2 ^ family.width := by
    have positive := Nat.two_pow_pos family.width
    omega
  rw [inverted, cleared, width]
  -- Inverting sets the bits beyond the width as well; the whole word clears them.
  apply Nat.eq_of_testBit_eq
  intro place
  rw [Nat.testBit_and, Nat.testBit_two_pow_sub_one,
    Nat.testBit_two_pow_sub_succ (Nat.lt_of_le_of_lt hostSmall wordSmall),
    Nat.testBit_two_pow_sub_succ below]
  by_cases inside : place < family.width
  · have inWord : place < 128 := by
      omega
    simp [inside, inWord]
  · simp [inside]

end Family

/-- Where readers of texts agree, so do the readers of documents that store texts. -/
theorem Document.asText_bind_eq
    {view : α → γ}
    {parse : String → Except Fault α}
    {seen : String → Option γ}
    (agree : ∀ text, seen text = (parse text).toOption.map view)
    (document : Document) :
    document.asText.toOption.bind seen =
      (readText parse document).toOption.map view := by
  cases document with
  | text stored =>
      change
        seen stored = ((parse stored).mapError Fault.message).toOption.map view
      rw [agree stored]
      cases parse stored <;> rfl
  | _ =>
      rfl

namespace Address

/-- An address as words. -/
def words (address : Address) : AddressWords :=
  ⟨address.family, BitVec.ofNat 128 address.value⟩

@[simp] theorem family_words (address : Address) :
    address.words.family = address.family :=
  rfl

@[simp] theorem toNat_value_words (address : Address) :
    address.words.value.toNat = address.value :=
  Nat.mod_eq_of_lt
    (Nat.lt_of_le_of_lt address.value_le address.family.allOnes_lt)

theorem eq_words
    {words : AddressWords}
    {address : Address}
    (sameFamily : words.family = address.family)
    (sameValue : words.value.toNat = address.value) :
    words = address.words := by
  obtain ⟨family, value⟩ := words
  cases sameFamily
  rw [words, ← sameValue, BitVec.ofNat_toNat, BitVec.setWidth_eq]

theorem truncated_eq_words (family : Family) (value : BitVec 128) :
    AddressWords.truncated family value =
      (truncated family value.toNat).words := by
  refine eq_words rfl ?_
  rw [AddressWords.truncated, BitVec.toNat_and, Family.toNat_allOnesWord,
    Family.allOnes_eq, Nat.and_two_pow_sub_one_eq_mod, value_truncated,
    Family.addressCount_eq_two_pow]

/-- Nothing is cut off from a word that is the value of an address. -/
theorem truncated_eq_words_of_value
    {family : Family}
    {value : BitVec 128}
    {address : Address}
    (sameFamily : family = address.family)
    (sameValue : value.toNat = address.value) :
    AddressWords.truncated family value = address.words := by
  rw [truncated_eq_words, sameFamily, sameValue, truncated_value]

/-- A step overflows nowhere but at the end of the wider family. -/
theorem next?_words (address : Address) :
    address.words.next? = address.next?.map words := by
  have small := address.family.allOnes_lt
  have bounded := address.value_le
  have sum :
      (address.words.value + 1).toNat = (address.value + 1) % 2 ^ 128 := by
    rw [BitVec.toNat_add, toNat_value_words]
    rfl
  have overflows :
      BitVec.uaddOverflow address.words.value 1 =
        decide (2 ^ 128 ≤ address.value + 1) := by
    rw [BitVec.uaddOverflow, toNat_value_words]
    rfl
  rw [AddressWords.next?, overflows, next?]
  by_cases inside : address.value + 1 ≤ address.family.allOnes
  · have noOverflow : ¬ 2 ^ 128 ≤ address.value + 1 := by
      omega
    have sumIs : (address.words.value + 1).toNat = address.value + 1 := by
      omega
    have below :
        address.words.value + 1 ≤ address.words.family.allOnesWord := by
      rw [BitVec.le_def, sumIs, family_words, Family.toNat_allOnesWord]
      exact inside
    rw [dif_pos inside, decide_eq_false noOverflow,
      if_neg Bool.false_ne_true, if_pos below, Option.map_some]
    exact congrArg some (eq_words rfl sumIs)
  · rw [dif_neg inside, Option.map_none]
    split
    · rfl
    · rename_i noOverflow
      have above :
          ¬ address.words.value + 1 ≤ address.words.family.allOnesWord := by
        rw [decide_eq_true_eq] at noOverflow
        rw [BitVec.le_def, sum, family_words, Family.toNat_allOnesWord]
        omega
      rw [if_neg above]

/-- The cast to the width of a family drops no bit of an address. -/
theorem toNat_cast_words {address : Address} (family : address.family = .v4) :
    (address.words.value.setWidth 32).toNat = address.value := by
  have small : address.value < 2 ^ 32 := by
    have counted := address.value_lt
    rw [family] at counted
    exact counted
  rw [BitVec.toNat_setWidth, toNat_value_words, Nat.mod_eq_of_lt small]

theorem octets_toHost (address : Address) :
    address.words.toHost.octets = address.octets := by
  have sameFamily : address.words.toHost.family = address.family := by
    rw [AddressWords.toHost, family_words]
    cases address.family <;> rfl
  have sameNumber : address.words.toHost.number = address.value := by
    rw [AddressWords.toHost, family_words]
    cases family : address.family with
    | v4 =>
        exact toNat_cast_words family
    | v6 =>
        exact toNat_value_words address
  rw [octets, HostAddress.octets, sameFamily, sameNumber]

theorem ofHost_toHost (address : Address) :
    AddressWords.ofHost address.words.toHost = address.words := by
  rw [AddressWords.toHost, family_words]
  cases family : address.family with
  | v4 =>
      refine eq_words family.symm ?_
      rw [AddressWords.ofHost, BitVec.toNat_setWidth_of_le (by decide),
        toNat_cast_words family]
  | v6 =>
      exact eq_words family.symm (toNat_value_words address)

/-- What the networking library holds is an address. -/
theorem exists_host (host : HostAddress) :
    ∃ address : Address,
      address.words = .ofHost host ∧ address.octets = host.octets := by
  cases host with
  | v4 bits =>
      refine ⟨⟨.v4, bits.toNat, Nat.le_sub_one_of_lt bits.isLt⟩, ?_, rfl⟩
      exact (eq_words rfl (BitVec.toNat_setWidth_of_le (by decide))).symm
  | v6 bits =>
      refine ⟨⟨.v6, bits.toNat, Nat.le_sub_one_of_lt bits.isLt⟩, ?_, rfl⟩
      exact (eq_words rfl rfl).symm

theorem ofHost_eq (host : HostAddress) :
    some (AddressWords.ofHost host) =
      (ofOctets? host.octets).map words := by
  obtain ⟨address, sameWords, sameOctets⟩ := exists_host host
  rw [← sameOctets, ofOctets?_octets, Option.map_some, sameWords]

theorem read?_eq (text : List Char) :
    AddressWords.read? text = (read text).toOption.map words := by
  have quad (value : Nat) :
      AddressWords.ofHost (.v4 (BitVec.ofNat 32 value)) =
        (truncated .v4 value).words :=
    eq_words rfl
      (BitVec.toNat_setWidth_of_le (by decide) |>.trans (BitVec.toNat_ofNat ..))
  have groups (value : Nat) :
      AddressWords.ofHost (.v6 (BitVec.ofNat 128 value)) =
        (truncated .v6 value).words :=
    eq_words rfl (BitVec.toNat_ofNat ..)
  rw [AddressWords.read?, HostAddress.ofChars?, read, ofChars?]
  cases Quad.read? (Text.trim text) with
  | some value =>
      exact congrArg some (quad value)
  | none =>
      cases Groups.read? (Text.trim text) with
      | some value =>
          exact congrArg some (groups value)
      | none =>
          rfl

theorem parse?_eq (text : String) :
    AddressWords.parse? text = (parse text).toOption.map words :=
  read?_eq text.toList

theorem ofDocument?_eq (document : Document) :
    AddressWords.ofDocument? document =
      (ofDocument document).toOption.map words :=
  document.asText_bind_eq parse?_eq

end Address

namespace Block

/-- A block as words. -/
def words (block : Block) : BlockWords :=
  ⟨block.network.words, BitVec.ofNat 8 block.prefixLen⟩

@[simp] theorem network_words (block : Block) :
    block.words.network = block.network.words :=
  rfl

@[simp] theorem family_words (block : Block) :
    block.words.family = block.family :=
  rfl

/-- Every prefix length of a block fits in 8 bits. -/
@[simp] theorem toNat_prefixLen_words (block : Block) :
    block.words.prefixLen.toNat = block.prefixLen := by
  have short := Nat.le_trans block.prefixLen_le block.network.family.width_le
  exact Nat.mod_eq_of_lt (Nat.lt_of_le_of_lt short (by decide))

theorem eq_words
    {words : BlockWords}
    {block : Block}
    (sameNetwork : words.network = block.network.words)
    (sameLength : words.prefixLen.toNat = block.prefixLen) :
    words = block.words := by
  rw [Block.words, ← sameNetwork, ← sameLength, BitVec.ofNat_toNat,
    BitVec.setWidth_eq]

theorem around?_words (address : Address) (prefixLen : BitVec 8) :
    BlockWords.around? address.words prefixLen =
      (around address prefixLen.toNat).toOption.map words := by
  rw [BlockWords.around?, around, Address.family_words]
  by_cases short : prefixLen.toNat ≤ address.family.width
  · have notLong : ¬ address.family.widthWord < prefixLen := by
      rw [BitVec.lt_def, Family.toNat_widthWord]
      omega
    rw [dif_pos short, if_neg notLong, Outcome.toOption_ok, Option.map_some]
    refine congrArg some (eq_words ?_ rfl)
    refine Address.truncated_eq_words_of_value rfl ?_
    rw [BitVec.toNat_and, Address.toNat_value_words,
      Family.toNat_networkMaskWord]
    rfl
  · have long : address.family.widthWord < prefixLen := by
      rw [BitVec.lt_def, Family.toNat_widthWord]
      omega
    rw [dif_neg short, if_pos long, Outcome.toOption_error, Option.map_none]

theorem mask_words (block : Block) :
    block.words.mask = block.mask.words := by
  refine Address.truncated_eq_words_of_value rfl ?_
  rw [Family.toNat_networkMaskWord, toNat_prefixLen_words]
  rfl

theorem wildcard_words (block : Block) :
    block.words.wildcard = block.wildcard.words := by
  refine Address.truncated_eq_words_of_value rfl ?_
  rw [Family.toNat_hostMaskWord, toNat_prefixLen_words]
  rfl

theorem last_words (block : Block) :
    block.words.last = block.last.words := by
  refine Address.truncated_eq_words_of_value rfl ?_
  rw [BitVec.toNat_or, Family.toNat_hostMaskWord, toNat_prefixLen_words,
    network_words, Address.toNat_value_words]
  rfl

/-- The subtraction of 8 bits stays within the width. -/
theorem size_words (block : Block) :
    block.words.size = block.size := by
  have short : block.words.prefixLen ≤ block.words.family.widthWord := by
    rw [BitVec.le_def, toNat_prefixLen_words, Family.toNat_widthWord]
    exact block.prefixLen_le
  rw [BlockWords.size, BitVec.toNat_sub_of_le short, toNat_prefixLen_words,
    Family.toNat_widthWord]
  rfl

end Block

/-- An extent as words. -/
def Extent.words (extent : Extent) : ExtentWords :=
  ⟨extent.first.words, extent.last.words, extent.count⟩

namespace Block

theorem extent_words (block : Block) :
    block.words.extent = block.extent.words := by
  rw [BlockWords.extent, last_words, size_words]
  rfl

theorem lt_of_readPrefixLen
    {text : List Char}
    {prefixLen : Nat}
    (read : readPrefixLen text = .ok prefixLen) :
    prefixLen < 2 ^ 32 := by
  rw [readPrefixLen] at read
  split at read
  · rename_i kept
    cases read
    exact of_decide_eq_true (Option.filter_eq_some_iff.mp kept).2
  · cases read

/-- A prefix length that is read is cast to 8 bits only where it fits. -/
theorem readPrefixLen?_bind_around?
    (address : Address)
    (text : List Char) :
    ((BlockWords.readPrefixLen? address.family text).bind
        (BlockWords.around? address.words)) =
      (readPrefixLen text >>= around address).toOption.map words := by
  rw [BlockWords.readPrefixLen?]
  cases read : readPrefixLen text with
  | error fault =>
      rfl
  | ok number =>
      have small := lt_of_readPrefixLen read
      have wide := address.family.width_le
      have isNumber : (BitVec.ofNat 32 number).toNat = number :=
        Nat.mod_eq_of_lt small
      have isWidth :
          (address.family.widthWord.setWidth 32).toNat =
            address.family.width := by
        rw [BitVec.toNat_setWidth_of_le (by decide), Family.toNat_widthWord]
      rw [Outcome.ok_bind, Outcome.toOption_ok]
      by_cases short : number ≤ address.family.width
      · have fits :
            ¬ address.family.widthWord.setWidth 32 < BitVec.ofNat 32 number := by
          rw [BitVec.lt_def, isNumber, isWidth]
          omega
        have cast : ((BitVec.ofNat 32 number).setWidth 8).toNat = number := by
          rw [BitVec.toNat_setWidth, isNumber]
          omega
        simp only [Option.bind_eq_bind, Option.bind_some, if_neg fits,
          around?_words, cast]
      · have exceeds :
            address.family.widthWord.setWidth 32 < BitVec.ofNat 32 number := by
          rw [BitVec.lt_def, isNumber, isWidth]
          omega
        rw [around, dif_neg short]
        simp only [Option.bind_eq_bind, Option.bind_some, if_pos exceeds,
          Option.bind_none, Outcome.toOption_error, Option.map_none]

theorem read?_eq (text : List Char) :
    BlockWords.read? text = (read text).toOption.map words := by
  rw [BlockWords.read?, read]
  cases Text.cut? '/' (Text.trim text) with
  | none =>
      simp only [Address.read?_eq]
      apply Outcome.toOption_bind_view
      intro address
      rw [Address.family_words, around?_words, Family.toNat_widthWord]
  | some parts =>
      simp only [Address.read?_eq]
      apply Outcome.toOption_bind_view
      intro address
      exact readPrefixLen?_bind_around? address parts.2

theorem parse?_eq (text : String) :
    BlockWords.parse? text = (parse text).toOption.map words :=
  read?_eq text.toList

theorem ofDocument?_eq (document : Document) :
    BlockWords.ofDocument? document =
      (ofDocument document).toOption.map words :=
  document.asText_bind_eq parse?_eq

end Block

namespace Family

variable {family : Family}

/-- The mask test on words is the one on numbers. -/
theorem fitsWord_eq
    (cursor limit : BitVec 128)
    (prefixLen : BitVec 8) :
    family.fitsWord cursor limit prefixLen =
      family.fits cursor.toNat limit.toNat prefixLen.toNat := by
  have aligned :
      cursor &&& family.hostMaskWord prefixLen = 0 ↔
        cursor.toNat &&& family.hostMask prefixLen.toNat = 0 := by
    rw [← BitVec.toNat_inj, BitVec.toNat_and, toNat_hostMaskWord]
    rfl
  have room :
      cursor ||| family.hostMaskWord prefixLen ≤ limit ↔
        cursor.toNat ||| family.hostMask prefixLen.toNat ≤ limit.toNat := by
    rw [BitVec.le_def, BitVec.toNat_or, toNat_hostMaskWord]
  rw [fitsWord, fits, decide_eq_decide.mpr aligned, decide_eq_decide.mpr room]

/-- A prefix length up to the width of a family fits in 8 bits. -/
theorem toNat_ofNat_of_le_width
    {prefixLen : Nat}
    (short : prefixLen ≤ family.width) :
    (BitVec.ofNat 8 prefixLen).toNat = prefixLen := by
  have wide := family.width_le
  exact Nat.mod_eq_of_lt (by omega)

theorem widestPrefixWordUpTo?_eq
    (cursor limit : BitVec 128)
    {longest : Nat}
    (short : longest ≤ family.width) :
    family.widestPrefixWordUpTo? cursor limit longest =
      (family.widestPrefixUpTo? cursor.toNat limit.toNat longest).map
        (BitVec.ofNat 8) := by
  induction longest with
  | zero =>
      have zero : (0 : BitVec 8).toNat = 0 :=
        rfl
      rw [widestPrefixWordUpTo?, widestPrefixUpTo?, fitsWord_eq, zero]
      split <;> rfl
  | succ shorter inductionHypothesis =>
      rw [widestPrefixWordUpTo?, widestPrefixUpTo?, fitsWord_eq,
        toNat_ofNat_of_le_width short,
        inductionHypothesis (Nat.le_of_succ_le short)]
      split
      · cases family.widestPrefixUpTo? cursor.toNat limit.toNat shorter <;>
          rfl
      · rfl

/-- The search on words finds what the search on numbers finds. -/
theorem widestPrefixWord?_eq (cursor limit : BitVec 128) :
    family.widestPrefixWord? cursor limit =
      (family.widestPrefix? cursor.toNat limit.toNat).map
        (BitVec.ofNat 8) := by
  rw [widestPrefixWord?, widestPrefix?, toNat_widthWord]
  exact widestPrefixWordUpTo?_eq cursor limit (Nat.le_refl _)

theorem widestPrefixWord?_words (cursor limit : Address) :
    family.widestPrefixWord? cursor.words.value limit.words.value =
      (family.widestPrefix? cursor.value limit.value).map
        (BitVec.ofNat 8) := by
  rw [widestPrefixWord?_eq, Address.toNat_value_words,
    Address.toNat_value_words]

end Family

namespace Span

/-- A span as words. -/
def words (span : Span) : SpanWords :=
  ⟨span.first.words, span.last.words⟩

theorem between?_words (one other : Address) :
    SpanWords.between? one.words other.words =
      (between one other).toOption.map words := by
  have order :
      one.words.value ≤ other.words.value ↔ one.value ≤ other.value := by
    rw [BitVec.le_def, Address.toNat_value_words, Address.toNat_value_words]
  rw [SpanWords.between?, between, Address.family_words, Address.family_words]
  by_cases same : one.family = other.family
  · rw [if_pos same, dif_pos same]
    by_cases ordered : one.value ≤ other.value
    · rw [if_pos (order.mpr ordered), dif_pos ordered]
      rfl
    · rw [if_neg (mt order.mp ordered), dif_neg ordered]
      rfl
  · rw [if_neg same, dif_neg same]
    rfl

theorem read?_eq (text : List Char) :
    SpanWords.read? text = (read text).toOption.map words := by
  rw [SpanWords.read?, read]
  cases Text.cut? '-' (Text.trim text) with
  | none =>
      rfl
  | some parts =>
      obtain ⟨oneText, otherText⟩ := parts
      simp only [Option.bind_eq_bind, Option.bind_some]
      split
      · rfl
      · simp only [Address.read?_eq]
        apply Outcome.toOption_bind_view
        intro one
        apply Outcome.toOption_bind_view
        intro other
        exact between?_words one other

theorem parse?_eq (text : String) :
    SpanWords.parse? text = (parse text).toOption.map words :=
  read?_eq text.toList

/-- The steps on words stop where the steps on values do. -/
theorem blocksFrom?_words (span : Span) (steps : Nat) (cursor : Address) :
    span.words.blocksFrom? steps cursor.words =
      (span.blocksFrom steps cursor).toOption.map (List.map Block.words) := by
  induction steps generalizing cursor with
  | zero =>
      rfl
  | succ steps inductionHypothesis =>
      have search :
          span.words.first.family.widestPrefixWord? cursor.words.value
              span.words.last.value =
            (span.family.widestPrefix? cursor.value span.last.value).map
              (BitVec.ofNat 8) :=
        Family.widestPrefixWord?_words cursor span.last
      rw [SpanWords.blocksFrom?, blocksFrom, search]
      cases found : span.family.widestPrefix? cursor.value span.last.value with
      | none =>
          rfl
      | some prefixLen =>
          have short : prefixLen ≤ span.family.width :=
            (Family.widestPrefixUpTo?_sound found).1
          simp only [Option.map_some, Option.bind_eq_bind, Option.bind_some,
            Block.around?_words, Family.toNat_ofNat_of_le_width short]
          apply Outcome.toOption_bind_view
          intro block
          have ends :
              block.last.words.value = span.words.last.value ↔
                block.last.value = span.last.value := by
            rw [← BitVec.toNat_inj, Address.toNat_value_words]
            exact Eq.congr_right span.last.toNat_value_words
          rw [Block.last_words, Address.next?_words]
          by_cases isLast : block.last.value = span.last.value
          · rw [if_pos (ends.mpr isLast), if_pos isLast]
            rfl
          · rw [if_neg (mt ends.mp isLast), if_neg isLast]
            cases block.last.next? with
            | none =>
                rfl
            | some following =>
                rw [Option.map_some, Option.bind_some,
                  inductionHypothesis following]
                apply Outcome.toOption_bind_view
                intro later
                rfl

theorem blocks?_words (span : Span) :
    span.words.blocks? =
      span.blocks.toOption.map (List.map Block.words) := by
  rw [SpanWords.blocks?, blocks, blockCap, Family.toNat_widthWord]
  exact span.blocksFrom?_words _ span.first

end Span

theorem splitWords?_words (one other : Address) :
    splitWords? one.words other.words =
      (split one other).toOption.map (List.map Block.words) := by
  rw [splitWords?, split, Span.between?_words]
  exact Outcome.toOption_bind_view Span.blocks?_words

namespace Target

/-- A target as words. -/
def words : Target → TargetWords
  | .block single => .block single.words
  | .span whole => .span whole.words

theorem read?_eq (text : List Char) :
    TargetWords.read? text = (read text).toOption.map words := by
  rw [TargetWords.read?, read]
  split
  · rw [Span.read?_eq]
    cases Span.read (Text.trim text) <;> rfl
  · rw [Block.read?_eq]
    cases Block.read (Text.trim text) <;> rfl

theorem parse?_eq (text : String) :
    TargetWords.parse? text = (parse text).toOption.map words :=
  read?_eq text.toList

theorem blocks?_words (target : Target) :
    target.words.blocks? =
      target.blocks.toOption.map (List.map Block.words) := by
  cases target with
  | block single =>
      rfl
  | span whole =>
      exact whole.blocks?_words

end Target

end IpBlocks
