namespace IpBlocks

/-!
# Parts of a text between byte offsets

An offset counts the bytes of the UTF-8 form in front of a place. No part
begins or ends within a character: a text is split at an offset exactly when
some front part of it has that many bytes (`splitAtByte?_eq_some_iff`).
-/

namespace Text

/-- The number of bytes of the UTF-8 form of a text. -/
def byteCount : List Char → Nat
  | [] => 0
  | character :: rest => character.utf8Size + byteCount rest

/-- The parts before and after an offset, if no character lies across it. -/
def splitAtByte? (offset : Nat) :
    List Char → Option (List Char × List Char)
  | [] => if offset = 0 then some ([], []) else none
  | character :: rest =>
      if offset = 0 then
        some ([], character :: rest)
      else if character.utf8Size ≤ offset then
        (splitAtByte? (offset - character.utf8Size) rest).map
          fun (before, after) => (character :: before, after)
      else
        none

/-- The part from an offset on. -/
def sliceFrom? (start : Nat) (text : List Char) : Option (List Char) :=
  (splitAtByte? start text).map Prod.snd

/-- The part from one offset up to another. -/
def slice? (start stop : Nat) (text : List Char) : Option (List Char) := do
  let behind ← sliceFrom? start text
  let (within, _) ← splitAtByte? (stop - start) behind
  return within

/-- The offset at which an end part of a text begins. -/
def offsetOf (text remainder : List Char) : Nat :=
  byteCount text - byteCount remainder

/-- The bytes of two texts in a row are counted together. -/
@[simp] theorem byteCount_append (one other : List Char) :
    byteCount (one ++ other) = byteCount one + byteCount other := by
  induction one with
  | nil =>
      simp [byteCount]
  | cons head rest inductionHypothesis =>
      simp [byteCount, inductionHypothesis, Nat.add_assoc]

/-- An end part begins behind the bytes in front of it. -/
@[simp] theorem offsetOf_append (front remainder : List Char) :
    offsetOf (front ++ remainder) remainder = byteCount front := by
  simp [offsetOf]

/-- A text is split at the bytes of a front part, without loss. -/
theorem splitAtByte?_eq_some_iff
    {offset : Nat}
    {text before after : List Char} :
    splitAtByte? offset text = some (before, after) ↔
      text = before ++ after ∧ byteCount before = offset := by
  induction text generalizing offset before with
  | nil =>
      cases before with
      | nil =>
          by_cases isStart : offset = 0 <;>
            simp [splitAtByte?, byteCount, isStart, eq_comm]
      | cons first remaining =>
          by_cases isStart : offset = 0 <;> simp [splitAtByte?, isStart]
  | cons head rest inductionHypothesis =>
      have positive := Char.utf8Size_pos head
      cases before with
      | nil =>
          by_cases isStart : offset = 0
          · simp [splitAtByte?, byteCount, isStart]
          · by_cases fits : head.utf8Size ≤ offset <;>
              simp [splitAtByte?, byteCount, isStart, fits, Ne.symm isStart]
      | cons first remaining =>
          by_cases isStart : offset = 0
          · simp only [splitAtByte?, isStart, if_true, Option.some.injEq,
              Prod.mk.injEq, byteCount, List.cons_append, List.cons.injEq]
            constructor
            · rintro ⟨impossible, _⟩
              cases impossible
            · rintro ⟨⟨rfl, _⟩, empty⟩
              omega
          · by_cases fits : head.utf8Size ≤ offset
            · simp only [splitAtByte?, isStart, fits, if_true, if_false,
                Option.map_eq_some_iff, Prod.exists, Prod.mk.injEq,
                List.cons.injEq, List.cons_append, byteCount]
              constructor
              · rintro ⟨front, back, found, ⟨rfl, rfl⟩, rfl⟩
                have ⟨whole, counted⟩ := inductionHypothesis.mp found
                exact ⟨⟨rfl, whole⟩, by omega⟩
              · rintro ⟨⟨rfl, whole⟩, counted⟩
                exact ⟨remaining, after,
                  inductionHypothesis.mpr ⟨whole, by omega⟩,
                  ⟨rfl, rfl⟩, rfl⟩
            · simp only [splitAtByte?, isStart, fits, if_false,
                List.cons_append, List.cons.injEq, byteCount]
              constructor
              · intro impossible
                cases impossible
              · rintro ⟨⟨rfl, _⟩, counted⟩
                omega

end Text

end IpBlocks
