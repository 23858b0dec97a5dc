import IpBlocks.Proofs.Text.Numeral
import Mathlib.Data.List.Forall2
import Mathlib.Data.List.Induction

namespace IpBlocks

/-!
# Numerals as they may be spelled

`Numeral.Spells` states which texts stand for a number in a base, without
reference to the reader: digits of either case, in any number but none, with
any number of leading zeros.  A number is read from a text exactly if the text
spells it (`Numeral.read?_eq_some_iff`), so a text spells one number at most.
-/

/-- In two lists that are related place by place, each element has its partner. -/
theorem exists_related_of_mem
    {related : α → β → Prop}
    {left : List α}
    {right : List β}
    (pairs : List.Forall₂ related left right)
    {item : α}
    (member : item ∈ left) :
    ∃ partner ∈ right, related item partner := by
  induction pairs with
  | nil =>
      cases member
  | @cons head partner rest later headRelated restRelated
      inductionHypothesis =>
      rcases List.mem_cons.mp member with isHead | inRest
      · exact ⟨partner, List.mem_cons_self, isHead ▸ headRelated⟩
      · obtain ⟨other, otherMember, itemRelated⟩ :=
          inductionHypothesis inRest
        exact ⟨other, List.mem_cons_of_mem partner otherMember, itemRelated⟩

/-- If each element has a partner, then the list has a list of partners. -/
theorem exists_related_of_forall
    {related : α → β → Prop}
    {left : List α}
    (each : ∀ item ∈ left, ∃ partner, related item partner) :
    ∃ right, List.Forall₂ related left right := by
  induction left with
  | nil =>
      exact ⟨[], .nil⟩
  | cons head rest inductionHypothesis =>
      obtain ⟨partner, headRelated⟩ := each head List.mem_cons_self
      obtain ⟨later, restRelated⟩ :=
        inductionHypothesis fun item member =>
          each item (List.mem_cons_of_mem head member)
      exact ⟨partner :: later, .cons headRelated restRelated⟩

/--
A reader that takes one item after another reads a list of values exactly
where it reads each of them.
-/
theorem readAll?_eq_some_iff
    (read? : α → Option β)
    (readAll? : List α → Option (List β))
    {related : α → β → Prop}
    (none : readAll? [] = some [])
    (more :
      ∀ head rest,
        readAll? (head :: rest) =
          (read? head).bind fun value =>
            (readAll? rest).bind fun values => some (value :: values))
    (each : ∀ item value, read? item = some value ↔ related item value)
    {items : List α}
    {values : List β} :
    readAll? items = some values ↔ List.Forall₂ related items values := by
  induction items generalizing values with
  | nil =>
      simp [none, eq_comm]
  | cons head rest inductionHypothesis =>
      simp only [more, Option.bind_eq_some_iff, List.forall₂_cons_left_iff,
        each, inductionHypothesis, Option.some.injEq]
      constructor
      · rintro ⟨value, headRelated, later, restRelated, shape⟩
        exact ⟨value, later, headRelated, restRelated, shape.symm⟩
      · rintro ⟨value, later, headRelated, restRelated, shape⟩
        exact ⟨value, headRelated, later, restRelated, shape.symm⟩

namespace Positional

/-- So many digits below the base spell a number below that power of it. -/
theorem number_lt
    {base : Nat}
    {spelled : List Nat}
    (small : ∀ digit ∈ spelled, digit < base) :
    number base spelled < base ^ spelled.length := by
  induction spelled using List.reverseRecOn with
  | nil =>
      exact Nat.one_pos
  | append_singleton front last inductionHypothesis =>
      have lastSmall : last < base :=
        small last (List.mem_append_right front List.mem_cons_self)
      have frontBelow : number base front + 1 ≤ base ^ front.length :=
        inductionHypothesis fun digit member =>
          small digit (List.mem_append_left [last] member)
      calc
        number base (front ++ [last])
        _ = number base front * base + last := number_concat base last front
        _ < (number base front + 1) * base := by
          rw [Nat.add_mul, Nat.one_mul]
          exact Nat.add_lt_add_left lastSmall _
        _ ≤ base ^ front.length * base := Nat.mul_le_mul_right base frontBelow
        _ = base ^ (front ++ [last]).length := by
          rw [List.length_append, List.length_singleton, pow_succ]

end Positional

namespace Numeral

/-- A character that stands for a digit of a base, in either case. -/
def IsDigit (base : Nat) (character : Char) (digit : Nat) : Prop :=
  digit < base ∧
    (character = Nat.digitChar digit ∨
      character = (Nat.digitChar digit).toUpper)

instance (base : Nat) (character : Char) (digit : Nat) :
    Decidable (IsDigit base character digit) :=
  inferInstanceAs (Decidable (_ ∧ (_ ∨ _)))

/-- A text of digits that spell a number, most significant first. -/
def Spells (base : Nat) (text : List Char) (number : Nat) : Prop :=
  text ≠ [] ∧
    ∃ digits,
      List.Forall₂ (IsDigit base) text digits ∧
        Positional.number base digits = number

/-- Only characters of the basic set are digits. -/
theorem toNat_lt_of_digitValue?
    {base digit : Nat}
    {character : Char}
    (read : digitValue? base character = some digit) :
    character.toNat < 128 := by
  have bounded : ∀ limit : Char, limit.toNat < 128 →
      character ≤ limit → character.toNat < 128 :=
    fun limit small below => Nat.lt_of_le_of_lt below small
  simp only [digitValue?, Option.ite_none_right_eq_some] at read
  obtain ⟨belowBase, -⟩ := read
  split at belowBase
  · rename_i decimal
    exact bounded '9' (by decide) decimal.2
  · split at belowBase
    · rename_i lower
      exact bounded 'z' (by decide) lower.2
    · split at belowBase
      · rename_i upper
        exact bounded 'Z' (by decide) upper.2
      · exact absurd belowBase (Nat.lt_irrefl base)

/-- The value of a character is the digit that it stands for. -/
theorem digitValue?_eq_some_iff
    {base digit : Nat}
    (sixteen : base ≤ 16)
    {character : Char} :
    digitValue? base character = some digit ↔
      IsDigit base character digit := by
  constructor
  · intro read
    have restored := Char.ofNat_toNat character
    have code := toNat_lt_of_digitValue? read
    have all :
        ∀ base ≤ 16, ∀ code < 128,
          ∀ digit ∈ digitValue? base (Char.ofNat code),
            IsDigit base (Char.ofNat code) digit := by
      decide +kernel
    rw [← restored] at read ⊢
    exact all base sixteen _ code digit read
  · rintro ⟨small, rfl | rfl⟩
    · exact digitValue?_digitChar base sixteen digit small
    · have all :
          ∀ base ≤ 16, ∀ digit < base,
            digitValue? base (Nat.digitChar digit).toUpper =
              some digit := by
        decide
      exact all base sixteen digit small

theorem digitValues?_eq_some_iff
    {base : Nat}
    (sixteen : base ≤ 16)
    {text : List Char}
    {digits : List Nat} :
    digitValues? base text = some digits ↔
      List.Forall₂ (IsDigit base) text digits :=
  readAll?_eq_some_iff (digitValue? base) (digitValues? base) rfl
    (fun _ _ => rfl) fun _ _ => digitValue?_eq_some_iff sixteen

/-- A number is read from exactly the texts that spell it. -/
theorem read?_eq_some_iff
    {base number : Nat}
    (sixteen : base ≤ 16)
    {text : List Char} :
    read? base text = some number ↔ Spells base text number := by
  rw [read?, Spells, Option.ite_none_left_eq_some, Option.map_eq_some_iff]
  simp only [digitValues?_eq_some_iff sixteen]
  rfl

/-- The decimal digits are the ten characters from zero to nine. -/
theorem exists_isDigit_iff {character : Char} :
    (∃ digit, IsDigit 10 character digit) ↔ character.isDigit = true := by
  constructor
  · rintro ⟨digit, small, rfl | rfl⟩
    · have all : ∀ digit < 10, (Nat.digitChar digit).isDigit = true := by
        decide
      exact all digit small
    · have all :
          ∀ digit < 10, (Nat.digitChar digit).toUpper.isDigit = true := by
        decide
      exact all digit small
  · intro isDigit
    have code : character.toNat ≤ '9'.toNat :=
      (Char.isDigit_iff_toNat.mp isDigit).2
    have all :
        ∀ code ≤ '9'.toNat, (Char.ofNat code).isDigit = true →
          ∃ digit < 10, IsDigit 10 (Char.ofNat code) digit := by
      decide
    have restored := Char.ofNat_toNat character
    rw [← restored] at isDigit ⊢
    obtain ⟨digit, -, stands⟩ := all _ code isDigit
    exact ⟨digit, stands⟩

namespace Spells

variable {base number : Nat} {text : List Char}

/-- Every character of a numeral is a digit. -/
theorem exists_digit_of_mem
    (spelled : Spells base text number)
    {character : Char}
    (member : character ∈ text) :
    ∃ digit, IsDigit base character digit := by
  obtain ⟨-, digits, stands, -⟩ := spelled
  obtain ⟨digit, -, isDigit⟩ := exists_related_of_mem stands member
  exact ⟨digit, isDigit⟩

/-- A character that is no digit of a base does not stand in a numeral. -/
theorem notMem
    (spelled : Spells base text number)
    {character : Char}
    (noDigit : ∀ digit < base, ¬ IsDigit base character digit) :
    character ∉ text := by
  intro member
  obtain ⟨digit, isDigit⟩ := spelled.exists_digit_of_mem member
  exact noDigit digit isDigit.1 isDigit

/-- A text with so many digits spells a number below that power of the base. -/
theorem lt_pow (spelled : Spells base text number) :
    number < base ^ text.length := by
  obtain ⟨-, digits, stands, rfl⟩ := spelled
  rw [stands.length_eq]
  apply Positional.number_lt
  intro digit member
  obtain ⟨character, -, isDigit⟩ :=
    exists_related_of_mem stands.flip member
  exact isDigit.1

/-- A text spells one number at most. -/
theorem unique
    (sixteen : base ≤ 16)
    {other : Nat}
    (spelled : Spells base text number)
    (otherSpelled : Spells base text other) :
    number = other := by
  have read := (read?_eq_some_iff sixteen).mpr spelled
  rw [(read?_eq_some_iff sixteen).mpr otherSpelled] at read
  exact (Option.some.inj read).symm

end Spells

/-- A text spells some number exactly if it has digits and nothing else. -/
theorem exists_spells_iff {base : Nat} {text : List Char} :
    (∃ number, Spells base text number) ↔
      text ≠ [] ∧
        ∀ character ∈ text, ∃ digit, IsDigit base character digit := by
  constructor
  · rintro ⟨number, spelled⟩
    exact ⟨spelled.1, fun _ => spelled.exists_digit_of_mem⟩
  · rintro ⟨nonempty, allDigits⟩
    obtain ⟨digits, stand⟩ := exists_related_of_forall allDigits
    exact ⟨_, nonempty, digits, stand, rfl⟩

end Numeral

end IpBlocks
