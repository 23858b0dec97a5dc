namespace IpBlocks

/-!
# Steps that may fail

Readers and the splitting loop are written as steps of which each may end in
a fault.  The lemmas here take such a sequence apart at its first step, and
draw from a reader that undoes a writer what that says of the writer.
-/

namespace Outcome

variable {ε α β : Type}

@[simp] theorem ok_bind (value : α) (next : α → Except ε β) :
    ((Except.ok value : Except ε α) >>= next) = next value :=
  rfl

@[simp] theorem error_bind (fault : ε) (next : α → Except ε β) :
    ((Except.error fault : Except ε α) >>= next) = .error fault :=
  rfl

/-- Two steps fail if the first one fails, or else the second. -/
theorem bind_eq_error_iff
    {first : Except ε α}
    {next : α → Except ε β}
    {fault : ε} :
    (first >>= next) = .error fault ↔
      first = .error fault ∨
        ∃ value, first = .ok value ∧ next value = .error fault := by
  cases first <;> simp

theorem map_eq_ok_iff
    {step : Except ε α}
    {change : α → β}
    {result : β} :
    step.map change = .ok result ↔
      ∃ value, step = .ok value ∧ change value = result := by
  cases step <;> simp [Except.map]

theorem map_eq_error_iff
    {step : Except ε α}
    {change : α → β}
    {fault : ε} :
    step.map change = .error fault ↔ step = .error fault := by
  cases step <;> simp [Except.map]

@[simp] theorem toOption_ok (value : α) :
    (Except.ok value : Except ε α).toOption = some value :=
  rfl

@[simp] theorem toOption_error (fault : ε) :
    (Except.error fault : Except ε α).toOption = none :=
  rfl

theorem toOption_eq_some_iff {step : Except ε α} {value : α} :
    step.toOption = some value ↔ step = .ok value := by
  cases step <;> simp

section

variable {γ δ : Type} {view : α → γ} {viewNext : β → δ} {seen : γ → Option δ}

/-- Steps agree in sequence with what is seen of them if each of them does. -/
theorem bind_view
    {before : Option α}
    {step : α → Option β}
    (agree : ∀ value, seen (view value) = (step value).map viewNext) :
    (before.map view).bind seen = (before.bind step).map viewNext := by
  cases before with
  | none => rfl
  | some value => exact agree value

theorem toOption_bind_view
    {before : Except ε α}
    {step : α → Except ε β}
    (agree :
      ∀ value, seen (view value) = (step value).toOption.map viewNext) :
    (before.toOption.map view).bind seen =
      (before >>= step).toOption.map viewNext := by
  have sequence :
      (before >>= step).toOption =
        before.toOption.bind fun value => (step value).toOption := by
    cases before <;> rfl
  rw [sequence]
  exact bind_view agree

end

/-- Values whose texts are all read back have different texts. -/
theorem eq_of_read_back
    {write : α → String}
    {read : String → Except ε α}
    (readBack : ∀ value, read (write value) = .ok value)
    {one other : α}
    (sameText : write one = write other) :
    one = other := by
  have sameRead := readBack one
  rw [sameText, readBack other] at sameRead
  exact (Except.ok.inj sameRead).symm

end Outcome

end IpBlocks
