import IpBlocks.Proofs.Words.Agreement

namespace IpBlocks

/-!
# Stepping through a family

A step adds one to the value of an address, so stepping counts: after some
number of steps the value has grown by that number, or the family has ended
(`Address.advance?_eq`).  On machine words the step also looks out for the end
of the word, which is the end of the greater family only, and counts alike.

Seen through the octets, a step is that of an odometer.  Full octets at the end
go back to zero, and the octet in front of them grows by one
(`Positional.exists_carry`).
-/

/-- Adding one to a number lets one digit grow and sets the full digits behind it to zero. -/
theorem Positional.exists_carry
    {base count value : Nat}
    (positive : 0 < base)
    (small : value + 1 < base ^ count) :
    ∃ front digit behind,
      digit + 1 < base ∧
        digits base count value =
          front ++ digit :: List.replicate behind (base - 1) ∧
        digits base count (value + 1) =
          front ++ (digit + 1) :: List.replicate behind 0 := by
  induction count generalizing value with
  | zero =>
      rw [pow_zero] at small
      omega
  | succ count inductionHypothesis =>
      have parts := Nat.div_add_mod value base
      have lastSmall := Nat.mod_lt value positive
      rcases Nat.lt_or_ge (value % base + 1) base with grows | full
      · -- The last digit grows, and nothing is carried.
        have shape :
            value + 1 = base * (value / base) + (value % base + 1) := by
          omega
        refine
          ⟨digits base count (value / base), value % base, 0, grows, rfl, ?_⟩
        rw [shape]
        exact digits_mul_add grows count (value / base)
      · -- The last digit is full, and one is carried to those before it.
        have isFull : value % base = base - 1 := by
          omega
        have shape : value + 1 = base * (value / base + 1) + 0 := by
          rw [Nat.mul_succ]
          omega
        have quotientSmall : value / base + 1 < base ^ count := by
          rw [shape, pow_succ'] at small
          exact Nat.lt_of_mul_lt_mul_left small
        obtain ⟨front, digit, behind, grows, before, after⟩ :=
          inductionHypothesis quotientSmall
        refine ⟨front, digit, behind + 1, grows, ?_, ?_⟩
        · rw [digits, before, isFull, List.replicate_succ',
            List.append_assoc, List.cons_append]
        · rw [shape, digits_mul_add positive, after, List.replicate_succ',
            List.append_assoc, List.cons_append]

/-- The words that many steps further, unless a step fails before. -/
def AddressWords.advance? (address : AddressWords) :
    Nat → Option AddressWords
  | 0 => some address
  | count + 1 => (address.advance? count).bind next?

namespace Address

/-- Stepping adds up, and leads nowhere beyond the greatest address. -/
theorem advance?_eq (address : Address) (count : Nat) :
    address.advance? count =
      if within : address.value + count ≤ address.family.allOnes then
        some ⟨address.family, address.value + count, within⟩
      else
        none := by
  induction count with
  | zero =>
      have stays : address.value + 0 ≤ address.family.allOnes :=
        address.value_le
      rw [dif_pos stays]
      rfl
  | succ count inductionHypothesis =>
      rw [advance?, inductionHypothesis]
      by_cases within : address.value + (count + 1) ≤ address.family.allOnes
      · have before : address.value + count ≤ address.family.allOnes := by
          omega
        rw [dif_pos within, dif_pos before, Option.bind_some]
        exact next?_eq_some_iff.mpr ⟨rfl, rfl⟩
      · rw [dif_neg within]
        split
        · rename_i before
          rw [Option.bind_some, next?_eq_none_iff]
          change address.value + count = address.family.allOnes
          omega
        · rfl

/-- Steps from the following address go one step further. -/
theorem advance?_next
    {address following : Address}
    (next : address.next? = some following)
    (count : Nat) :
    following.advance? count = address.advance? (count + 1) := by
  obtain ⟨sameFamily, value⟩ := next?_eq_some_iff.mp next
  have shifted : following.value + count = address.value + (count + 1) := by
    omega
  simp only [advance?_eq, sameFamily, shifted]

/-- The addresses are walked through one after another, until a step fails. -/
theorem walk_eq (address : Address) (count : Nat) :
    address.walk count =
      ((List.range count).map fun step => address.advance? (step + 1)).take
        (address.family.allOnes - address.value + 1) := by
  induction count generalizing address with
  | zero =>
      rfl
  | succ count inductionHypothesis =>
      rw [walk, List.range_succ_eq_map, List.map_cons, List.take_succ_cons,
        List.map_map]
      have first : address.advance? (0 + 1) = address.next? :=
        rfl
      rw [first]
      cases next : address.next? with
      | none =>
          rw [next?_eq_none_iff.mp next, Nat.sub_self, List.take_zero]
      | some following =>
          obtain ⟨sameFamily, value⟩ := next?_eq_some_iff.mp next
          have bounded := following.value_le
          rw [sameFamily] at bounded
          have room :
              address.family.allOnes - address.value =
                address.family.allOnes - following.value + 1 := by
            omega
          simp only [inductionHypothesis, advance?_next next, sameFamily,
            room]
          rfl

/-- The least address of a family leads to every other one. -/
theorem advance?_from_least (address : Address) :
    (truncated address.family 0).advance? address.value = some address := by
  have reached :
      (truncated address.family 0).value + address.value =
        address.value := by
    rw [value_truncated, Nat.zero_mod, Nat.zero_add]
  have within :
      (truncated address.family 0).value + address.value ≤
        address.family.allOnes :=
    reached.trans_le address.value_le
  rw [advance?_eq]
  exact (dif_pos within).trans (congrArg some (Address.ext rfl reached))

/-- Words of addresses are stepped through like the addresses. -/
theorem advance?_words (address : Address) (count : Nat) :
    address.words.advance? count = (address.advance? count).map words := by
  induction count with
  | zero =>
      rfl
  | succ count inductionHypothesis =>
      rw [AddressWords.advance?, advance?, inductionHypothesis]
      cases address.advance? count with
      | none =>
          rfl
      | some reached =>
          exact reached.next?_words

/-- A step lets one octet grow and sets the full octets behind it to zero. -/
theorem exists_carry_of_next?
    {address following : Address}
    (next : address.next? = some following) :
    ∃ front octet grown behind,
      grown.toNat = octet.toNat + 1 ∧
        address.octets = front ++ octet :: List.replicate behind 255 ∧
        following.octets = front ++ grown :: List.replicate behind 0 := by
  obtain ⟨sameFamily, value⟩ := next?_eq_some_iff.mp next
  have small := following.value_lt_pow
  rw [sameFamily, value] at small
  obtain ⟨front, digit, behind, grows, before, after⟩ :=
    Positional.exists_carry (by decide) small
  refine
    ⟨front.map UInt8.ofNat, UInt8.ofNat digit, UInt8.ofNat (digit + 1),
      behind, ?_, ?_, ?_⟩
  · rw [UInt8.toNat_ofNat_of_lt' grows,
      UInt8.toNat_ofNat_of_lt' (Nat.lt_of_succ_lt grows)]
  · rw [octets, before, List.map_append, List.map_cons, List.map_replicate]
    rfl
  · rw [octets, sameFamily, value, after, List.map_append, List.map_cons,
      List.map_replicate]
    rfl

/--
Stepping through a family counts, and carries like an odometer.

After some number of steps the value has grown by that number, unless the
family ends before; then one of the steps fails, and no later one leads
anywhere.  A walk lists the addresses that are reached up to the step that
fails.  From the least address every address of the family is reached, and
words are stepped through like the addresses.  A single step lets one octet
grow by one, leaves those in front of it, and sets those behind it from full
to zero.
-/
theorem steps_count_and_carry :
    (∀ (address : Address) (count : Nat),
      (address.advance? count =
        if within : address.value + count ≤ address.family.allOnes then
          some ⟨address.family, address.value + count, within⟩
        else
          none) ∧
      (address.family.allOnes < address.value + count →
        ∃ steps last,
          steps < count ∧
          address.advance? steps = some last ∧
          last.next? = none) ∧
      (address.walk count =
        ((List.range count).map fun step => address.advance? (step + 1)).take
          (address.family.allOnes - address.value + 1)) ∧
      address.words.advance? count = (address.advance? count).map words) ∧
    (∀ address : Address,
      (truncated address.family 0).advance? address.value = some address) ∧
    ∀ address following : Address,
      address.next? = some following →
        ∃ front octet grown behind,
          grown.toNat = octet.toNat + 1 ∧
          address.octets = front ++ octet :: List.replicate behind 255 ∧
          following.octets = front ++ grown :: List.replicate behind 0 := by
  refine
    ⟨?_, advance?_from_least, fun _ _ next => exists_carry_of_next? next⟩
  intro address count
  refine
    ⟨address.advance?_eq count, ?_, address.walk_eq count,
      address.advance?_words count⟩
  intro beyond
  have bounded := address.value_le
  -- The greatest address is reached first, and it has no successor.
  have atEnd :
      address.value + (address.family.allOnes - address.value) =
        address.family.allOnes := by
    omega
  refine
    ⟨address.family.allOnes - address.value,
      ⟨address.family, address.family.allOnes, Nat.le_refl _⟩, by omega, ?_,
      next?_eq_none_iff.mpr rfl⟩
  rw [advance?_eq, dif_pos (Nat.le_of_eq atEnd)]
  exact congrArg some (Address.ext rfl atEnd)

/-- A step over two full octets, and steps beyond the greatest word. -/
theorem steps_count_and_carry_over_full_octets :
    let address := truncated .v4 0x0a00ffff
    let following := truncated .v4 0x0a010000
    let greatest := truncated .v6 0xffffffffffffffffffffffffffffffff
    (address.next? = some following ∧
      ∃ (front : List UInt8) (octet grown : UInt8) (behind : Nat),
        grown.toNat = octet.toNat + 1 ∧
        [10, 0, 255, 255] = front ++ octet :: List.replicate behind 255 ∧
        [10, 1, 0, 0] = front ++ grown :: List.replicate behind 0) ∧
    (greatest.family.allOnes < greatest.value + 3 ∧
      (∃ steps last,
        steps < 3 ∧
        greatest.advance? steps = some last ∧
        last.next? = none) ∧
      greatest.walk 3 = [none] ∧
      greatest.words.advance? 3 = none) := by
  intro address following greatest
  obtain ⟨counts, -, carries⟩ := steps_count_and_carry
  have stepped : address.next? = some following := by
    decide +kernel
  have octets : address.octets = [10, 0, 255, 255] := by
    decide +kernel
  have followingOctets : following.octets = [10, 1, 0, 0] := by
    decide +kernel
  have beyond : greatest.family.allOnes < greatest.value + 3 := by
    decide +kernel
  obtain ⟨advanced, ended, walked, words⟩ := counts greatest 3
  have nowhere : greatest.advance? 3 = none :=
    advanced.trans (dif_neg (Nat.not_le_of_lt beyond))
  have first : greatest.advance? 1 = none := by
    decide +kernel
  have carried := carries address following stepped
  rw [octets, followingOctets] at carried
  rw [nowhere] at words
  have room : greatest.family.allOnes - greatest.value + 1 = 1 := by
    decide +kernel
  refine ⟨⟨stepped, carried⟩, beyond, ended beyond, ?_, words⟩
  rw [walked, room, List.range_succ_eq_map, List.map_cons,
    List.take_succ_cons, List.take_zero, first]

end Address

end IpBlocks
