namespace IpBlocks

/-!
# Address families

A family fixes the width of its addresses in bits, and with it the words that
mask an address: `networkMask` keeps the leading bits that name a network,
`hostMask` the bits after them that name a host.
-/

/-- The two address families. -/
inductive Family where
  | v4
  | v6
  deriving DecidableEq, Repr

namespace Family

/-- The place of a family in the order of addresses. -/
def rank : Family → Nat
  | v4 => 0
  | v6 => 1

/-- The number of bits of an address. -/
def width : Family → Nat
  | v4 => 32
  | v6 => 128

/-- The number of octets of an address. -/
def octetCount (family : Family) : Nat :=
  family.width / 8

/-- The number of addresses of a family. -/
def addressCount (family : Family) : Nat :=
  1 <<< family.width

/-- The number of addresses that share a prefix of some length. -/
def blockSize (family : Family) (prefixLen : Nat) : Nat :=
  1 <<< (family.width - prefixLen)

/-- The word with every bit set, which is the greatest address. -/
def allOnes (family : Family) : Nat :=
  family.addressCount - 1

/-- The word whose bits after the first `prefixLen` are set. -/
def hostMask (family : Family) (prefixLen : Nat) : Nat :=
  family.blockSize prefixLen - 1

/-- The word whose first `prefixLen` bits are set. -/
def networkMask (family : Family) (prefixLen : Nat) : Nat :=
  family.allOnes - family.hostMask prefixLen

/-- The name shown to a reader. -/
def name : Family → String
  | v4 => "IPv4"
  | v6 => "IPv6"

/-- The short name used in documents. -/
def tag : Family → String
  | v4 => "v4"
  | v6 => "v6"

/-- The family with a given short name. -/
def ofTag? (tag : String) : Option Family :=
  [v4, v6].find? fun family => family.tag = tag

/-- A family is found by its own short name. -/
@[simp] theorem ofTag?_tag (family : Family) :
    ofTag? family.tag = some family := by
  cases family <;> decide

/-- A family has at least one address. -/
theorem addressCount_pos (family : Family) :
    0 < family.addressCount := by
  rw [addressCount, Nat.one_shiftLeft]
  exact Nat.two_pow_pos family.width

/-- At least one address has any given prefix. -/
theorem blockSize_pos (family : Family) (prefixLen : Nat) :
    0 < family.blockSize prefixLen := by
  rw [blockSize, Nat.one_shiftLeft]
  exact Nat.two_pow_pos (family.width - prefixLen)

/-- The addresses with a given prefix are a fraction of the family. -/
theorem blockSize_dvd_addressCount (family : Family) (prefixLen : Nat) :
    family.blockSize prefixLen ∣ family.addressCount := by
  rw [blockSize, addressCount, Nat.one_shiftLeft, Nat.one_shiftLeft]
  exact Nat.pow_dvd_pow 2 (Nat.sub_le family.width prefixLen)

/-- A number is an address of a family if it counts fewer than there are. -/
theorem le_allOnes_iff {family : Family} {value : Nat} :
    value ≤ family.allOnes ↔ value < family.addressCount := by
  have positive := family.addressCount_pos
  unfold allOnes
  omega

/-- No host mask exceeds the width. -/
theorem hostMask_le_allOnes (family : Family) (prefixLen : Nat) :
    family.hostMask prefixLen ≤ family.allOnes :=
  Nat.sub_le_sub_right
    (Nat.le_of_dvd family.addressCount_pos
      (family.blockSize_dvd_addressCount prefixLen)) 1

/-- The two masks add up to the whole word. -/
theorem networkMask_add_hostMask (family : Family) (prefixLen : Nat) :
    family.networkMask prefixLen + family.hostMask prefixLen =
      family.allOnes :=
  Nat.sub_add_cancel (family.hostMask_le_allOnes prefixLen)

/-- Masking with a host mask keeps the offset within a block. -/
theorem and_hostMask (family : Family) (prefixLen value : Nat) :
    value &&& family.hostMask prefixLen =
      value % family.blockSize prefixLen := by
  rw [hostMask, blockSize, Nat.one_shiftLeft, Nat.and_two_pow_sub_one_eq_mod]

/-- No bit is set in both masks. -/
theorem networkMask_and_hostMask (family : Family) (prefixLen : Nat) :
    family.networkMask prefixLen &&& family.hostMask prefixLen = 0 := by
  have sizePositive := family.blockSize_pos prefixLen
  have networkWord :
      family.networkMask prefixLen =
        family.addressCount - family.blockSize prefixLen := by
    unfold networkMask allOnes hostMask
    omega
  rw [and_hostMask, networkWord]
  exact Nat.mod_eq_zero_of_dvd
    (Nat.dvd_sub (family.blockSize_dvd_addressCount prefixLen)
      (Nat.dvd_refl _))

/-- Masking with a network mask drops the offset within a block. -/
theorem and_networkMask
    {family : Family}
    {prefixLen value : Nat}
    (small : value < family.addressCount) :
    value &&& family.networkMask prefixLen =
      value - value % family.blockSize prefixLen := by
  have sizePositive := family.blockSize_pos prefixLen
  have sizeSmall : family.blockSize prefixLen ≤ family.addressCount :=
    Nat.le_of_dvd family.addressCount_pos
      (family.blockSize_dvd_addressCount prefixLen)
  have dropped :
      value - value % family.blockSize prefixLen =
        value >>> (family.width - prefixLen) <<<
          (family.width - prefixLen) := by
    rw [blockSize, Nat.one_shiftLeft, Nat.shiftRight_eq_div_pow,
      Nat.shiftLeft_eq, Nat.mul_comm]
    have parts := Nat.div_add_mod value (2 ^ (family.width - prefixLen))
    omega
  have networkWord :
      family.networkMask prefixLen =
        2 ^ family.width - (family.hostMask prefixLen + 1) := by
    rw [networkMask, allOnes, addressCount, Nat.one_shiftLeft]
    omega
  have hostSmall : family.hostMask prefixLen < 2 ^ family.width := by
    rw [addressCount, Nat.one_shiftLeft] at sizeSmall
    unfold hostMask
    omega
  rw [dropped, networkWord]
  apply Nat.eq_of_testBit_eq
  intro place
  rw [Nat.testBit_and, Nat.testBit_two_pow_sub_succ hostSmall, hostMask,
    blockSize, Nat.one_shiftLeft, Nat.testBit_two_pow_sub_one,
    Nat.testBit_shiftLeft, Nat.testBit_shiftRight]
  rw [addressCount, Nat.one_shiftLeft] at small
  by_cases inHost : place < family.width - prefixLen
  · simp [inHost, Nat.not_le.mpr inHost]
  · have restored :
        family.width - prefixLen + (place - (family.width - prefixLen)) =
          place := by
      omega
    by_cases inWord : place < family.width
    · simp [inHost, inWord, Nat.le_of_not_lt inHost, restored]
    · have clear : value.testBit place = false :=
        Nat.testBit_lt_two_pow
          (Nat.lt_of_lt_of_le small
            (Nat.pow_le_pow_right (by decide) (Nat.le_of_not_lt inWord)))
      simp [clear, restored]

/-- Setting the host bits of a network leads to the end of its block. -/
theorem or_hostMask
    {family : Family}
    {prefixLen value : Nat}
    (aligned : value % family.blockSize prefixLen = 0) :
    value ||| family.hostMask prefixLen =
      value + (family.blockSize prefixLen - 1) := by
  have sizePositive := family.blockSize_pos prefixLen
  have below :
      family.blockSize prefixLen - 1 < 2 ^ (family.width - prefixLen) := by
    rw [blockSize, Nat.one_shiftLeft] at *
    omega
  have multiple :
      value =
        2 ^ (family.width - prefixLen) *
          (value / family.blockSize prefixLen) := by
    have parts := Nat.div_add_mod value (family.blockSize prefixLen)
    rw [aligned, Nat.add_zero, blockSize, Nat.one_shiftLeft] at parts
    rw [blockSize, Nat.one_shiftLeft, parts]
  rw [hostMask, multiple, Nat.two_pow_add_eq_or_of_lt below]

/-- Words below a family's address count stay below it when joined. -/
theorem or_lt_addressCount
    {family : Family}
    {one other : Nat}
    (oneSmall : one < family.addressCount)
    (otherSmall : other < family.addressCount) :
    one ||| other < family.addressCount := by
  rw [addressCount, Nat.one_shiftLeft] at *
  exact Nat.or_lt_two_pow oneSmall otherSmall

end Family

end IpBlocks
