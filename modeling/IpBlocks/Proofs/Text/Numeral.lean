import IpBlocks.Text.Numeral
import Mathlib.Algebra.Order.Ring.Nat

namespace IpBlocks

/-!
# Reading numerals back

A number of so many digits is spelled by its digits, and the shortest numeral
of a number reads back as that number in every base up to sixteen.
-/

namespace Positional

/-- A number is spelled by its digits if it has no more than those. -/
theorem number_digits
    {base count value : Nat}
    (small : value < base ^ count) :
    number base (digits base count value) = value := by
  induction count generalizing value with
  | zero =>
      rw [pow_zero] at small
      rw [digits, number_nil]
      omega
  | succ count inductionHypothesis =>
      have quotientSmall : value / base < base ^ count := by
        rw [pow_succ] at small
        exact Nat.div_lt_of_lt_mul (Nat.mul_comm _ _ ▸ small)
      rw [digits, number_concat, inductionHypothesis quotientSmall,
        Nat.mul_comm, Nat.div_add_mod]

end Positional

namespace Numeral

/-- In bases up to sixteen every digit reads back as its value. -/
theorem digitValue?_digitChar :
    ∀ base ≤ 16, ∀ digit < base,
      digitValue? base (Nat.digitChar digit) = some digit := by
  decide

theorem digitValues?_append (base : Nat) (front back : List Char) :
    digitValues? base (front ++ back) =
      (digitValues? base front).bind fun frontValues =>
        (digitValues? base back).map fun backValues =>
          frontValues ++ backValues := by
  induction front with
  | nil =>
      simp [digitValues?]
  | cons head rest inductionHypothesis =>
      rw [List.cons_append, digitValues?, digitValues?, inductionHypothesis]
      cases digitValue? base head <;>
        cases digitValues? base rest <;>
          cases digitValues? base back <;> rfl

/-- The digits of the shortest numeral spell its number. -/
theorem exists_digitValues?_toDigits
    {base : Nat}
    (two : 1 < base)
    (sixteen : base ≤ 16)
    (number : Nat) :
    ∃ values,
      digitValues? base (Nat.toDigits base number) = some values ∧
        Positional.number base values = number := by
  induction number using Nat.strong_induction_on with
  | _ number inductionHypothesis =>
      by_cases single : number < base
      · refine ⟨[number], ?_, ?_⟩
        · rw [Nat.toDigits_of_lt_base single, digitValues?,
            digitValue?_digitChar base sixteen number single]
          rfl
        · simp [Positional.number]
      · have smaller : number / base < number :=
          Nat.div_lt_self (by omega) two
        have lastSmall : number % base < base :=
          Nat.mod_lt number (by omega)
        obtain ⟨values, read, spelled⟩ := inductionHypothesis _ smaller
        refine ⟨values ++ [number % base], ?_, ?_⟩
        · rw [Nat.toDigits_of_base_le two (Nat.le_of_not_lt single),
            digitValues?_append, read, digitValues?,
            digitValue?_digitChar base sixteen _ lastSmall]
          rfl
        · rw [Positional.number_concat, spelled, Nat.mul_comm,
            Nat.div_add_mod]

/-- The shortest numeral of a number reads back as the number. -/
theorem read?_toDigits
    {base : Nat}
    (two : 1 < base)
    (sixteen : base ≤ 16)
    (number : Nat) :
    read? base (Nat.toDigits base number) = some number := by
  obtain ⟨values, read, spelled⟩ :=
    exists_digitValues?_toDigits two sixteen number
  rw [read?, if_neg Nat.toDigits_ne_nil, read]
  exact congrArg some spelled

/-- A numeral consists of digits of its base. -/
theorem exists_digitChar_of_mem
    {base number : Nat}
    (two : 1 < base)
    {character : Char}
    (member : character ∈ Nat.toDigits base number) :
    ∃ digit < base, character = Nat.digitChar digit := by
  induction number using Nat.strong_induction_on with
  | _ number inductionHypothesis =>
      by_cases single : number < base
      · rw [Nat.toDigits_of_lt_base single, List.mem_singleton] at member
        exact ⟨number, single, member⟩
      · rw [Nat.toDigits_of_base_le two (Nat.le_of_not_lt single),
          List.mem_append, List.mem_singleton] at member
        rcases member with inFront | isLast
        · exact
            inductionHypothesis _ (Nat.div_lt_self (by omega) two) inFront
        · exact ⟨number % base, Nat.mod_lt number (by omega), isLast⟩

/-- A character that is no digit of a base does not stand in its numerals. -/
theorem notMem_toDigits
    {base : Nat}
    (two : 1 < base)
    {character : Char}
    (differs : ∀ digit < base, Nat.digitChar digit ≠ character)
    (number : Nat) :
    character ∉ Nat.toDigits base number := by
  intro member
  obtain ⟨digit, small, same⟩ := exists_digitChar_of_mem two member
  exact differs digit small same.symm

end Numeral

end IpBlocks
