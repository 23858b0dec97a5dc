import IpBlocks.Proofs.Address.Bits

namespace IpBlocks

/-!
# The order of addresses

Addresses are ordered by family and then by value.  Lists of digits of one
length are compared like the numbers that they spell
(`Positional.compare_digits`), because a further digit decides only between
numbers with the same quotient.  So within a family the octets of addresses,
compared from the left, are in the order of the addresses
(`Address.compare_eq_compare_octets`).
-/

/-- Lists of one length are compared by their fronts, and then by their ends. -/
theorem compare_concat
    {α : Type}
    [Ord α]
    {front otherFront : List α}
    (sameLength : front.length = otherFront.length)
    (last otherLast : α) :
    compare (front ++ [last]) (otherFront ++ [otherLast]) =
      (compare front otherFront).then (compare last otherLast) := by
  induction front generalizing otherFront with
  | nil =>
      obtain rfl := List.eq_nil_of_length_eq_zero sameLength.symm
      simp [List.compare_cons_cons, List.compare_nil_nil]
  | cons head rest inductionHypothesis =>
      cases otherFront with
      | nil =>
          cases sameLength
      | cons otherHead otherRest =>
          have restLength : rest.length = otherRest.length :=
            Nat.succ.inj sameLength
          rw [List.cons_append, List.cons_append, List.compare_cons_cons,
            List.compare_cons_cons, inductionHypothesis restLength,
            Ordering.then_assoc]

/-- Lists are compared as what is seen of their elements. -/
theorem compare_map
    {α β : Type}
    [Ord α]
    [Ord β]
    {view : α → β}
    (agree : ∀ one other, compare (view one) (view other) = compare one other)
    (items otherItems : List α) :
    compare (items.map view) (otherItems.map view) =
      compare items otherItems := by
  induction items generalizing otherItems with
  | nil =>
      cases otherItems <;> rfl
  | cons item rest inductionHypothesis =>
      cases otherItems with
      | nil =>
          rfl
      | cons otherItem otherRest =>
          rw [List.map_cons, List.map_cons, List.compare_cons_cons,
            List.compare_cons_cons, agree, inductionHypothesis]

/-- Numbers are compared by their quotients, and then by their remainders. -/
theorem compare_div_mod (base one other : Nat) :
    compare one other =
      (compare (one / base) (other / base)).then
        (compare (one % base) (other % base)) := by
  rcases Nat.lt_trichotomy (one / base) (other / base) with
    less | same | more
  · have below : one < other := Nat.lt_of_div_lt_div less
    rw [Nat.compare_eq_lt.mpr below, Nat.compare_eq_lt.mpr less]
    rfl
  · have oneParts := Nat.div_add_mod one base
    have otherParts := Nat.div_add_mod other base
    rw [Nat.compare_eq_eq.mpr same, Ordering.eq_then]
    rw [same] at oneParts
    rcases Nat.lt_trichotomy (one % base) (other % base) with
      less | equal | more
    · rw [Nat.compare_eq_lt.mpr less]
      exact Nat.compare_eq_lt.mpr (by omega)
    · rw [Nat.compare_eq_eq.mpr equal]
      exact Nat.compare_eq_eq.mpr (by omega)
    · rw [Nat.compare_eq_gt.mpr more]
      exact Nat.compare_eq_gt.mpr (by omega)
  · have above : other < one := Nat.lt_of_div_lt_div more
    rw [Nat.compare_eq_gt.mpr above, Nat.compare_eq_gt.mpr more]
    rfl

/-- Digits are compared from the left like the numbers that they spell. -/
theorem Positional.compare_digits
    {base count one other : Nat}
    (oneSmall : one < base ^ count)
    (otherSmall : other < base ^ count) :
    compare (digits base count one) (digits base count other) =
      compare one other := by
  induction count generalizing one other with
  | zero =>
      rw [pow_zero, Nat.lt_one_iff] at oneSmall otherSmall
      rw [oneSmall, otherSmall]
      rfl
  | succ count inductionHypothesis =>
      rw [pow_succ] at oneSmall otherSmall
      have oneQuotient := Nat.div_lt_of_lt_mul (Nat.mul_comm _ base ▸ oneSmall)
      have otherQuotient :=
        Nat.div_lt_of_lt_mul (Nat.mul_comm _ base ▸ otherSmall)
      have sameLength :
          (digits base count (one / base)).length =
            (digits base count (other / base)).length := by
        rw [length_digits, length_digits]
      rw [digits, digits, compare_concat sameLength,
        inductionHypothesis oneQuotient otherQuotient,
        ← compare_div_mod base]

/-- Octets are compared as numbers. -/
theorem compare_toNat (one other : UInt8) :
    compare one.toNat other.toNat = compare one other := by
  change
    compareOfLessAndEq one.toNat other.toNat = compareOfLessAndEq one other
  simp only [compareOfLessAndEq, UInt8.lt_iff_toNat_lt, UInt8.toNat_inj]

namespace Address

/-- Addresses of one family are ordered by their octets, from the left. -/
theorem compare_eq_compare_octets
    {one other : Address}
    (sameFamily : one.family = other.family) :
    compare one other = compare one.octets other.octets := by
  have otherSmall := other.value_lt_pow
  rw [← sameFamily] at otherSmall
  calc
    compare one other = compare one.value other.value :=
      compare_eq_compare_value sameFamily
    _ = compare
          (Positional.digits 256 one.family.octetCount one.value)
          (Positional.digits 256 one.family.octetCount other.value) :=
      (Positional.compare_digits one.value_lt_pow otherSmall).symm
    _ = compare
          (one.octets.map UInt8.toNat) (other.octets.map UInt8.toNat) := by
      rw [map_toNat_octets, map_toNat_octets, sameFamily]
    _ = compare one.octets other.octets :=
      compare_map compare_toNat _ _

/-- Every address of the smaller family comes before those of the other. -/
theorem compare_of_families
    {one other : Address}
    (oneFamily : one.family = .v4)
    (otherFamily : other.family = .v6) :
    compare one other = .lt := by
  change
    (compare one.family.rank other.family.rank).then
      (compare one.value other.value) = _
  rw [oneFamily, otherFamily]
  rfl

end Address

end IpBlocks
