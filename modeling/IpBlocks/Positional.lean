namespace IpBlocks

/-!
# Positional digits

A list of `count` digits in a base and a number with that many digits are two
views of one thing. Addresses are seen through base 256 as octets and through
base 65536 as groups, and octets are written through bases 2, 8, 10 and 16.

Digits are read from left to right: each further digit multiplies what stands
before it by the base (`number_concat`). Reading digits back gives them again
(`digits_number`).
-/

namespace Positional

/-- The `count` lowest digits of a number, most significant first. -/
def digits (base : Nat) : Nat → Nat → List Nat
  | 0, _ => []
  | count + 1, value =>
      digits base count (value / base) ++ [value % base]

/-- The number that a list of digits spells, most significant first. -/
def number (base : Nat) (spelled : List Nat) : Nat :=
  spelled.foldl (fun before digit => before * base + digit) 0

/-- Exactly the requested number of digits is produced. -/
@[simp] theorem length_digits (base count value : Nat) :
    (digits base count value).length = count := by
  induction count generalizing value with
  | zero =>
      rfl
  | succ count inductionHypothesis =>
      simp [digits, inductionHypothesis]

/-- Every digit produced is below the base. -/
theorem lt_of_mem_digits
    {base count value digit : Nat}
    (positive : 0 < base)
    (member : digit ∈ digits base count value) :
    digit < base := by
  induction count generalizing value with
  | zero =>
      simp [digits] at member
  | succ count inductionHypothesis =>
      rcases List.mem_append.mp member with inFront | isLast
      · exact inductionHypothesis inFront
      · exact List.mem_singleton.mp isLast ▸ Nat.mod_lt value positive

@[simp] theorem number_nil (base : Nat) :
    number base [] = 0 :=
  rfl

/-- A further digit multiplies what stands before it by the base. -/
@[simp] theorem number_concat
    (base last : Nat)
    (front : List Nat) :
    number base (front ++ [last]) = number base front * base + last := by
  simp [number]

/-- What is added to a multiple of the base is the last digit. -/
theorem digits_mul_add
    {base last : Nat}
    (small : last < base)
    (count quotient : Nat) :
    digits base (count + 1) (base * quotient + last) =
      digits base count quotient ++ [last] := by
  have positive : 0 < base := Nat.zero_lt_of_lt small
  rw [digits, Nat.mul_add_div positive, Nat.div_eq_of_lt small,
    Nat.add_zero, Nat.mul_add_mod, Nat.mod_eq_of_lt small]

/-- Digits below the base are recovered from the number that they spell. -/
theorem digits_number
    {base : Nat}
    (spelled : List Nat)
    (small : ∀ digit ∈ spelled, digit < base) :
    digits base spelled.length (number base spelled) = spelled := by
  rcases List.eq_nil_or_concat spelled with isEmpty | ⟨front, last, whole⟩
  · subst spelled
    rfl
  · rw [List.concat_eq_append] at whole
    subst spelled
    have lastSmall : last < base :=
      small last (List.mem_append_right front List.mem_cons_self)
    have frontSmall : ∀ digit ∈ front, digit < base :=
      fun digit member => small digit (List.mem_append_left [last] member)
    rw [List.length_append, List.length_singleton, number_concat,
      Nat.mul_comm, digits_mul_add lastSmall, digits_number front frontSmall]
termination_by spelled.length
decreasing_by
  simp [whole]

end Positional

end IpBlocks
