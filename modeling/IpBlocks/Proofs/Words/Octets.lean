import IpBlocks.Proofs.Address.Order
import IpBlocks.Proofs.Words.Agreement

namespace IpBlocks

/-!
# Octets of words

A program on machine words takes octets out of a word by shifting it to the
right and casting it to 8 bits, and puts octets together by shifting each of
them in from the right.  Both follow the digits of a number in base 256
(`Word.map_toNat_octets`, `Word.toNat_ofOctets`).

The common word has 16 octets, of which an address has the last ones, as many
as its family has.  These are the octets of the address as a number, and the
word of the family that they make up is the address again.  So octets, numbers
and words count the addresses alike, and compare them alike
(`Address.octets_number_addresses`).
-/

/-- The digits of a number are its quotients by powers of the base, reduced. -/
theorem Positional.digits_eq_map (base count value : Nat) :
    digits base count value =
      (List.range count).map fun place =>
        value / base ^ (count - 1 - place) % base := by
  induction count generalizing value with
  | zero =>
      rfl
  | succ count inductionHypothesis =>
      rw [digits, inductionHypothesis, List.range_succ, List.map_append,
        List.map_singleton]
      congr 1
      · apply List.map_congr_left
        intro place member
        have inFront := List.mem_range.mp member
        have further : count + 1 - 1 - place = (count - 1 - place) + 1 := by
          omega
        rw [further, pow_succ', Nat.div_div_eq_div_mul]
      · rw [Nat.add_sub_cancel, Nat.sub_self, pow_zero, Nat.div_one]

namespace Word

variable {width : Nat}

/-- The last octets of a word, as many as are asked for, most significant first. -/
def octets (count : Nat) (word : BitVec width) : List UInt8 :=
  (List.range count).map fun place =>
    UInt8.ofBitVec ((word >>> (8 * (count - 1 - place))).setWidth 8)

/-- The word that octets make up, each shifted in behind those before it. -/
def ofOctets (width : Nat) (octets : List UInt8) : BitVec width :=
  octets.foldl
    (fun word octet => word <<< 8 ||| octet.toBitVec.setWidth width) 0

@[simp] theorem length_octets (count : Nat) (word : BitVec width) :
    (octets count word).length = count := by
  simp [octets]

/-- Shifting and casting leaves the digits of a word. -/
theorem map_toNat_octets (count : Nat) (word : BitVec width) :
    (octets count word).map UInt8.toNat =
      Positional.digits 256 count word.toNat := by
  rw [Positional.digits_eq_map, octets, List.map_map]
  apply List.map_congr_left
  intro place _
  have power : 256 ^ (count - 1 - place) = 2 ^ (8 * (count - 1 - place)) :=
    (pow_mul 2 8 (count - 1 - place)).symm
  change
    ((word >>> (8 * (count - 1 - place))).setWidth 8).toNat =
      word.toNat / 256 ^ (count - 1 - place) % 256
  rw [power, BitVec.toNat_setWidth, BitVec.toNat_ushiftRight,
    Nat.shiftRight_eq_div_pow]

/-- An octet is shifted into a word as a digit is put behind a number. -/
theorem toNat_shifted_or
    (wide : 8 ≤ width)
    (word : BitVec width)
    (octet : UInt8) :
    (word <<< 8 ||| octet.toBitVec.setWidth width).toNat =
      (word.toNat * 256 + octet.toNat) % 2 ^ width := by
  have small : octet.toNat < 2 ^ 8 := octet.toNat_lt
  have split : 2 ^ width = 2 ^ 8 * 2 ^ (width - 8) := by
    rw [← pow_add, Nat.add_sub_cancel' wide]
  have quotient : (word.toNat * 2 ^ 8 + octet.toNat) / 2 ^ 8 = word.toNat := by
    omega
  have remainder :
      (word.toNat * 2 ^ 8 + octet.toNat) % 2 ^ 8 = octet.toNat := by
    omega
  change _ = (word.toNat * 2 ^ 8 + octet.toNat) % 2 ^ width
  rw [BitVec.toNat_or, BitVec.toNat_shiftLeft, Nat.shiftLeft_eq,
    BitVec.toNat_setWidth_of_le wide, UInt8.toNat_toBitVec, split,
    Nat.mul_comm word.toNat, Nat.mul_mod_mul_left,
    ← Nat.two_pow_add_eq_or_of_lt small, Nat.mul_comm _ word.toNat,
    Nat.mod_mul, quotient, remainder, Nat.add_comm]

/-- Shifting octets in one after another leaves the number that they spell. -/
theorem toNat_ofOctets
    (wide : 8 ≤ width)
    (octets : List UInt8) :
    (ofOctets width octets).toNat =
      Positional.number 256 (octets.map UInt8.toNat) % 2 ^ width := by
  induction octets using List.reverseRecOn with
  | nil =>
      rfl
  | append_singleton front octet inductionHypothesis =>
      have further :
          ofOctets width (front ++ [octet]) =
            ofOctets width front <<< 8 |||
              octet.toBitVec.setWidth width := by
        rw [ofOctets, List.foldl_concat]
        rfl
      rw [further, toNat_shifted_or wide, inductionHypothesis,
        List.map_append, List.map_singleton, Positional.number_concat]
      simp only [Nat.add_mod, Nat.mul_mod, Nat.mod_mod]

end Word

/-- The octets of an address are cut off the end of the common word. -/
def AddressWords.octets (address : AddressWords) : List UInt8 :=
  (Word.octets 16 address.value).drop (16 - address.family.octetCount)

/-- The address that four or sixteen octets make up in its own width. -/
def HostAddress.ofOctets? (octets : List UInt8) : Option HostAddress :=
  if octets.length = 4 then
    some (.v4 (Word.ofOctets 32 octets))
  else if octets.length = 16 then
    some (.v6 (Word.ofOctets 128 octets))
  else
    none

namespace Address

/-- The octets at the end of the common word are those of the address. -/
theorem octets_words (address : Address) :
    address.words.octets = address.octets := by
  have enough : 16 - address.family.octetCount + address.family.octetCount = 16 := by
    cases address.family <;> decide
  have cut :=
    Positional.digits_add 256 (16 - address.family.octetCount)
      address.family.octetCount address.value
  rw [enough] at cut
  apply List.map_injective_iff.mpr (fun _ _ => UInt8.toNat_inj.mp)
  rw [AddressWords.octets, List.map_drop, Word.map_toNat_octets,
    toNat_value_words, family_words, cut, map_toNat_octets,
    List.drop_left' (Positional.length_digits ..)]

/-- Octets make up the same address as a word of its family and as a number. -/
theorem ofHost_ofOctets? (octets : List UInt8) :
    (HostAddress.ofOctets? octets).map AddressWords.ofHost =
      (ofOctets? octets).map words := by
  rw [HostAddress.ofOctets?, ofOctets?]
  split
  · rename_i four
    rw [four]
    refine congrArg some (eq_words rfl ?_)
    exact
      (BitVec.toNat_setWidth_of_le (by decide)).trans
        (Word.toNat_ofOctets (by decide) octets)
  · rename_i notFour
    split
    · rename_i sixteen
      rw [sixteen]
      refine congrArg some (eq_words rfl ?_)
      exact Word.toNat_ofOctets (by decide) octets
    · rename_i notSixteen
      have unknown : familyOfOctetCount? octets.length = none := by
        simp [familyOfOctetCount?, Family.octetCount, Family.width, notFour,
          notSixteen, eq_comm]
      rw [unknown]
      rfl

/-- An address has the octets that it is made of. -/
theorem octets_of_ofOctets?
    {octets : List UInt8}
    {address : Address}
    (made : ofOctets? octets = some address) :
    address.octets = octets := by
  obtain ⟨family, counted, rfl⟩ := Option.map_eq_some_iff.mp made
  have octetCount : octets.length = family.octetCount := by
    simpa [eq_comm] using List.find?_some counted
  have small :
      ∀ digit ∈ octets.map UInt8.toNat, digit < 256 := by
    intro digit member
    obtain ⟨octet, -, rfl⟩ := List.mem_map.mp member
    exact octet.toNat_lt
  have spelled := Positional.digits_number _ small
  have bounded := Positional.number_lt small
  rw [List.length_map, octetCount] at spelled bounded
  apply List.map_injective_iff.mpr (fun _ _ => UInt8.toNat_inj.mp)
  rw [map_toNat_octets, family_truncated, value_truncated,
    family.addressCount_eq_pow, Nat.mod_eq_of_lt bounded, spelled]

/-- Four or sixteen octets make up an address. -/
theorem exists_ofOctets?
    {octets : List UInt8}
    (counted : octets.length = 4 ∨ octets.length = 16) :
    ∃ address, ofOctets? octets = some address := by
  rcases counted with four | sixteen
  · rw [ofOctets?, four]
    exact ⟨_, rfl⟩
  · rw [ofOctets?, sixteen]
    exact ⟨_, rfl⟩

/--
Octets, numbers and words count the addresses alike.

The octets of an address are as many as its family has and spell its value.
They are the last octets of the common word, and they make up the address
again, as a number as well as in the word of its family.  Any four or sixteen
octets are those of the address that they make up.  Within a family addresses
are in the order of their octets, and every IPv4 address comes before every
IPv6 address.
-/
theorem octets_number_addresses :
    (∀ address : Address,
      address.octets.length = address.family.octetCount ∧
      Positional.number 256 (address.octets.map UInt8.toNat) =
        address.value ∧
      address.words.octets = address.octets ∧
      ofOctets? address.octets = some address ∧
      ∃ host,
        HostAddress.ofOctets? address.octets = some host ∧
          AddressWords.ofHost host = address.words) ∧
    (∀ octets : List UInt8,
      octets.length = 4 ∨ octets.length = 16 →
        ∃ address host,
          ofOctets? octets = some address ∧
          address.octets = octets ∧
          HostAddress.ofOctets? octets = some host ∧
          (AddressWords.ofHost host).octets = octets) ∧
    (∀ one other : Address,
      one.family = other.family →
        compare one other = compare one.octets other.octets) ∧
    ∀ one other : Address,
      one.family = .v4 → other.family = .v6 → compare one other = .lt := by
  have exists_host {octets : List UInt8} {address : Address}
      (made : ofOctets? octets = some address) :
      ∃ host,
        HostAddress.ofOctets? octets = some host ∧
          AddressWords.ofHost host = address.words := by
    have hosted := ofHost_ofOctets? octets
    rw [made] at hosted
    exact Option.map_eq_some_iff.mp hosted
  refine ⟨?_, ?_, fun _ _ => compare_eq_compare_octets, ?_⟩
  · intro address
    exact
      ⟨address.length_octets, address.number_octets, address.octets_words,
        address.ofOctets?_octets, exists_host address.ofOctets?_octets⟩
  · intro octets counted
    obtain ⟨address, made⟩ := exists_ofOctets? counted
    obtain ⟨host, hosted, sameWords⟩ := exists_host made
    have sameOctets := octets_of_ofOctets? made
    refine ⟨address, host, made, sameOctets, hosted, ?_⟩
    rw [sameWords, octets_words, sameOctets]
  · intro one other oneFamily otherFamily
    exact compare_of_families oneFamily otherFamily

/-- Addresses that differ in their last octets, and the least one of the greater family. -/
theorem octets_number_addresses_by_last_octet :
    let octets : List UInt8 := [192, 168, 1, 255]
    let later := Address.truncated .v4 0xc0a80200
    let least := Address.truncated .v6 0
    (octets.length = 4 ∨ octets.length = 16) ∧
      ∃ address host,
        ofOctets? octets = some address ∧
        address = .truncated .v4 0xc0a801ff ∧
        HostAddress.ofOctets? octets = some host ∧
        (AddressWords.ofHost host).octets = octets ∧
        (address.family = later.family ∧
          compare address later = compare octets [192, 168, 2, 0] ∧
          compare address later = .lt) ∧
        address.family = .v4 ∧
        least.family = .v6 ∧
        compare address least = .lt := by
  intro octets later least
  obtain ⟨-, made, ordered, families⟩ := octets_number_addresses
  have counted : octets.length = 4 ∨ octets.length = 16 := .inl rfl
  obtain ⟨address, host, read, sameOctets, hosted, back⟩ :=
    made octets counted
  have found : ofOctets? octets = some (.truncated .v4 0xc0a801ff) := by
    decide +kernel
  obtain rfl := Option.some.inj (read.symm.trans found)
  have compared := ordered (.truncated .v4 0xc0a801ff) later rfl
  have laterOctets : later.octets = [192, 168, 2, 0] := by
    decide +kernel
  rw [sameOctets, laterOctets] at compared
  refine
    ⟨counted, _, host, read, rfl, hosted, back, ⟨rfl, compared, ?_⟩, rfl,
      rfl, families _ least rfl rfl⟩
  rw [compared]
  decide +kernel

end Address

end IpBlocks
