import IpBlocks.Document.Values
import IpBlocks.Proofs.Address.Reading

namespace IpBlocks

/-!
# The written form of an address

`Address.Written` states which text stands for an address without reference to
the search for zeros: a dotted quad for an IPv4 address, a double colon and a
dotted quad for a mapped one, and otherwise groups in which the first of the
longest runs of two or more zeros is left out.

The text of an address is its one written form (`Address.written_iff`), and
reading it gives the address back (`Address.text_round_trip`).
-/

/-- More digits are those of the quotient, then those of the remainder. -/
theorem Positional.digits_add (base front back value : Nat) :
    digits base (front + back) value =
      digits base front (value / base ^ back) ++ digits base back value := by
  induction back generalizing value with
  | zero =>
      rw [pow_zero, Nat.div_one, digits, List.append_nil, Nat.add_zero]
  | succ back inductionHypothesis =>
      rw [← Nat.add_assoc, digits, inductionHypothesis, digits,
        Nat.div_div_eq_div_mul, pow_succ', List.append_assoc]

/-- At most one run of zeros is the first of the longest. -/
theorem Groups.IsFirstLongestRun.unique
    {groups front otherFront back otherBack : List Nat}
    {length otherLength : Nat}
    (run : IsFirstLongestRun groups front length back)
    (otherRun :
      IsFirstLongestRun groups otherFront otherLength otherBack) :
    front = otherFront ∧ length = otherLength ∧ back = otherBack := by
  have sameLength : length = otherLength :=
    Nat.le_antisymm
      (otherRun.longest _ _ _ run.whole)
      (run.longest _ _ _ otherRun.whole)
  subst otherLength
  have sameStart : front.length = otherFront.length :=
    Nat.le_antisymm
      (run.first _ _ otherRun.whole)
      (otherRun.first _ _ run.whole)
  have sameWhole := run.whole.symm.trans otherRun.whole
  rw [List.append_assoc, List.append_assoc] at sameWhole
  obtain ⟨sameFront, sameRest⟩ := List.append_inj sameWhole sameStart
  exact ⟨sameFront, rfl, List.append_cancel_left sameRest⟩

namespace Address

/-- The eight groups of an IPv6 address. -/
def groups (address : Address) : List Nat :=
  Positional.digits 65536 Groups.count address.value

/-- Octets with dots between them. -/
def dotted (octets : List UInt8) : List Char :=
  ['.'].intercalate (octets.map fun octet => Nat.toDigits 10 octet.toNat)

/-- An IPv6 address whose last four octets stand for an IPv4 address. -/
def IsMapped (address : Address) : Prop :=
  address.family = .v6 ∧
    address.octets.take 12 = List.replicate 10 0 ++ [0xff, 0xff]

/-- The text that stands for an address. -/
inductive Written (address : Address) : List Char → Prop where
  | quad
      (family : address.family = .v4) :
      Written address (dotted address.octets)
  | mapped
      (isMapped : address.IsMapped) :
      Written address
        ("::ffff:".toList ++ dotted (address.octets.drop 12))
  | plain
      (family : address.family = .v6)
      (notMapped : ¬ address.IsMapped)
      (noRun :
        ∀ front length back,
          address.groups = front ++ List.replicate length 0 ++ back →
            length < 2) :
      Written address (Groups.plain address.groups)
  | compressed
      {front back : List Nat}
      {length : Nat}
      (family : address.family = .v6)
      (notMapped : ¬ address.IsMapped)
      (run : Groups.IsFirstLongestRun address.groups front length back)
      (long : 2 ≤ length) :
      Written address
        (Groups.plain front ++ [':', ':'] ++ Groups.plain back)

/-- The octets of an address are the digits of its value. -/
theorem map_toNat_octets (address : Address) :
    address.octets.map UInt8.toNat =
      Positional.digits 256 address.family.octetCount address.value := by
  rw [octets, List.map_map]
  have unchanged :
      ∀ digit ∈
          Positional.digits 256 address.family.octetCount address.value,
        (UInt8.toNat ∘ UInt8.ofNat) digit = digit := by
    intro digit member
    have small : digit < 256 :=
      Positional.lt_of_mem_digits (by decide) member
    exact Nat.mod_eq_of_lt small
  rw [List.map_congr_left unchanged, List.map_id']

theorem dotted_eq (octets : List UInt8) :
    dotted octets =
      ['.'].intercalate
        ((octets.map UInt8.toNat).map (Nat.toDigits 10)) := by
  rw [dotted, List.map_map]
  rfl

/-- An IPv4 address is written as its octets. -/
theorem chars_of_v4 {address : Address} (family : address.family = .v4) :
    address.chars = dotted address.octets := by
  rw [dotted_eq, map_toNat_octets, family, chars, family]
  rfl

theorem digits_of_v6 {address : Address} (family : address.family = .v6) :
    address.octets.map UInt8.toNat =
      Positional.digits 256 12 (address.value / 256 ^ 4) ++
        Positional.digits 256 4 address.value := by
  rw [map_toNat_octets, family]
  exact Positional.digits_add 256 12 4 address.value

theorem dotted_drop_of_v6 {address : Address} (family : address.family = .v6) :
    dotted (address.octets.drop 12) = Quad.chars address.value := by
  rw [dotted_eq, List.map_drop, digits_of_v6 family,
    List.drop_left' (Positional.length_digits ..)]
  rfl

/-- An address is mapped if its leading 96 bits spell the number 0xffff. -/
theorem isMapped_iff {address : Address} (family : address.family = .v6) :
    address.IsMapped ↔ address.value >>> 32 = 0xffff := by
  have power : 2 ^ 32 = 256 ^ 4 := by
    decide
  have leading :
      (address.octets.take 12).map UInt8.toNat =
        Positional.digits 256 12 (address.value / 256 ^ 4) := by
    rw [List.map_take, digits_of_v6 family,
      List.take_left' (Positional.length_digits ..)]
  have small : address.value / 256 ^ 4 < 256 ^ 12 := by
    have bounded := address.value_lt
    rw [family] at bounded
    exact Nat.div_lt_of_lt_mul bounded
  rw [Nat.shiftRight_eq_div_pow, power]
  constructor
  · rintro ⟨-, ones⟩
    rw [ones] at leading
    have spelled := Positional.number_digits small
    rw [← leading] at spelled
    exact spelled.symm
  · intro ones
    refine ⟨family, ?_⟩
    rw [ones] at leading
    apply (List.map_inj_right fun _ _ => UInt8.toNat_inj.mp).mp
    rw [leading]
    decide

theorem chars_of_mapped {address : Address} (isMapped : address.IsMapped) :
    address.chars =
      "::ffff:".toList ++ dotted (address.octets.drop 12) := by
  have family := isMapped.1
  rw [dotted_drop_of_v6 family]
  rw [isMapped_iff family] at isMapped
  rw [chars, family]
  simp only [Groups.chars, if_pos isMapped]

theorem chars_of_not_mapped
    {address : Address}
    (family : address.family = .v6)
    (notMapped : ¬ address.IsMapped) :
    address.chars = Groups.compressed address.groups := by
  rw [isMapped_iff family] at notMapped
  rw [chars, family]
  simp only [Groups.chars, if_neg notMapped]
  rfl

/-- The text of an address is a written form of it. -/
theorem written_chars (address : Address) :
    address.Written address.chars := by
  have zeroRun := Groups.zeroRun_isFirstLongestRun address.groups
  cases family : address.family with
  | v4 =>
      rw [chars_of_v4 family]
      exact .quad family
  | v6 =>
      by_cases isMapped : address.IsMapped
      · rw [chars_of_mapped isMapped]
        exact .mapped isMapped
      · rw [chars_of_not_mapped family isMapped]
        by_cases short : (Groups.zeroRun address.groups).2 < 2
        · simp only [Groups.compressed, if_pos short]
          apply Written.plain family isMapped
          intro front length back whole
          exact Nat.lt_of_le_of_lt (zeroRun.longest _ _ _ whole) short
        · simp only [Groups.compressed, if_neg short]
          exact
            .compressed family isMapped zeroRun (Nat.not_lt.mp short)

/-- The text of an address is its one written form. -/
theorem written_iff {address : Address} {text : List Char} :
    address.Written text ↔ text = address.chars := by
  have zeroRun := Groups.zeroRun_isFirstLongestRun address.groups
  constructor
  · intro written
    cases written with
    | quad family =>
        exact (chars_of_v4 family).symm
    | mapped isMapped =>
        exact (chars_of_mapped isMapped).symm
    | plain family notMapped noRun =>
        have short := noRun _ _ _ zeroRun.whole
        rw [chars_of_not_mapped family notMapped]
        simp only [Groups.compressed, if_pos short]
    | compressed family notMapped run long =>
        obtain ⟨sameFront, sameLength, sameBack⟩ := run.unique zeroRun
        rw [sameLength] at long
        rw [chars_of_not_mapped family notMapped, sameFront, sameBack]
        simp only [Groups.compressed, if_neg (Nat.not_lt.mpr long)]
  · intro isText
    rw [isText]
    exact written_chars address

/--
Every address is read back from its text and from its document, its text is
its one written form, and a text that is read says the same as that form.
-/
theorem text_round_trip :
    (∀ address : Address, parse (toString address) = .ok address) ∧
      (∀ address : Address, ofDocument address.toDocument = .ok address) ∧
      (∀ one other : Address, toString one = toString other → one = other) ∧
      (∀ (text : String) (address : Address),
        parse text = .ok address →
          parse (toString address) = parse text) ∧
      ∀ (address : Address) (text : String),
        address.Written text.toList ↔ text = toString address := by
  refine ⟨parse_toString, ?_, ?_, ?_, ?_⟩
  · intro address
    change (parse (toString address)).mapError Fault.message = .ok address
    rw [parse_toString]
    rfl
  · intro one other sameText
    have sameParse := parse_toString one
    rw [sameText, parse_toString] at sameParse
    exact (Except.ok.inj sameParse).symm
  · intro text address read
    rw [parse_toString, read]
  · intro address text
    rw [written_iff, ← toList_toString, String.toList_inj]

/-- A mapped address spelled in groups is read as it is written with a quad. -/
theorem text_round_trip_of_mapped :
    let text := " 0:0:0::FFFF:0102:304 "
    let address := truncated .v6 0xffff01020304
    parse text = .ok address ∧
      toString address = "::ffff:1.2.3.4" ∧
        parse (toString address) = parse text ∧
          address.Written "::ffff:1.2.3.4".toList := by
  intro text address
  have read : parse text = .ok address := by
    decide +kernel
  have shown : toString address = "::ffff:1.2.3.4" := by
    decide +kernel
  obtain ⟨-, -, -, sameReading, written⟩ := text_round_trip
  exact
    ⟨read, shown, sameReading text address read,
      (written address "::ffff:1.2.3.4").mpr shown.symm⟩

end Address

end IpBlocks
