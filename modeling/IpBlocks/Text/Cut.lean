namespace IpBlocks

/-!
# Cutting a text at a separator

A block text is cut at its first slash, a range text at its first hyphen, an
option at its first equals sign and an IPv6 text at its first double colon.
Nothing is lost by a cut, and the part before it holds no separator:
`cut?_eq_some_iff` and `cut?_eq_none_iff`.
-/

namespace Text

/-- The parts before and after the first occurrence of a separator. -/
def cut? (separator : Char) : List Char → Option (List Char × List Char)
  | [] => none
  | character :: rest =>
      if character = separator then
        some ([], rest)
      else
        (cut? separator rest).map fun (before, after) =>
          (character :: before, after)

/-- The parts before and after the first two adjacent separators. -/
def cutDouble? (separator : Char) :
    List Char → Option (List Char × List Char)
  | [] => none
  | character :: rest =>
      if character = separator ∧ rest.head? = some separator then
        some ([], rest.tail)
      else
        (cutDouble? separator rest).map fun (before, after) =>
          (character :: before, after)

/-- A text is not cut exactly when the separator does not occur in it. -/
theorem cut?_eq_none_iff {separator : Char} {text : List Char} :
    cut? separator text = none ↔ separator ∉ text := by
  induction text with
  | nil =>
      simp [cut?]
  | cons head rest inductionHypothesis =>
      by_cases same : head = separator
      · simp [cut?, same]
      · simp [cut?, same, inductionHypothesis, Ne.symm same]

/-- A cut splits the text around the first separator, without loss. -/
theorem cut?_eq_some_iff
    {separator : Char}
    {text before after : List Char} :
    cut? separator text = some (before, after) ↔
      text = before ++ separator :: after ∧ separator ∉ before := by
  induction text generalizing before with
  | nil =>
      simp [cut?]
  | cons head rest inductionHypothesis =>
      by_cases same : head = separator
      · subst head
        cases before with
        | nil =>
            simp [cut?]
        | cons first remaining =>
            simp only [cut?, if_true, Option.some.injEq, Prod.mk.injEq,
              List.cons_append, List.cons.injEq, List.mem_cons]
            constructor
            · rintro ⟨impossible, _⟩
              cases impossible
            · rintro ⟨⟨isFirst, _⟩, absent⟩
              exact absurd (Or.inl isFirst) absent
      · cases before with
        | nil =>
            simp [cut?, same]
        | cons first remaining =>
            have tailCut :=
              @inductionHypothesis remaining
            simp only [cut?, same, if_false, Option.map_eq_some_iff,
              Prod.exists, Prod.mk.injEq, List.cons.injEq,
              List.cons_append, List.mem_cons, not_or]
            constructor
            · rintro ⟨front, back, found, ⟨rfl, rfl⟩, rfl⟩
              have := (inductionHypothesis).mp found
              exact ⟨⟨rfl, this.1⟩, Ne.symm same, this.2⟩
            · rintro ⟨⟨rfl, whole⟩, _, absent⟩
              exact ⟨remaining, after, tailCut.mpr ⟨whole, absent⟩,
                ⟨rfl, rfl⟩, rfl⟩

end Text

end IpBlocks
