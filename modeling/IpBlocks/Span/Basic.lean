import IpBlocks.Address.Basic
import IpBlocks.Address.Text

namespace IpBlocks

/-!
# Spans

A span is the run of all addresses between two ends of one family, both ends
included. It is written as its ends with a hyphen between them, and its ends
may be given in either order.
-/

/-- The addresses of one family from a first one to a last one. -/
structure Span where
  first : Address
  last : Address
  sameFamily : first.family = last.family
  ordered : first.value ≤ last.value
  deriving DecidableEq

namespace Span

/-- The family of the addresses of a span. -/
def family (span : Span) : Family :=
  span.first.family

/-- The span between two addresses of one family, given in either order. -/
def between (one other : Address) : Except Fault Span :=
  if same : one.family = other.family then
    if ordered : one.value ≤ other.value then
      .ok ⟨one, other, same, ordered⟩
    else
      .ok ⟨other, one, same.symm, Nat.le_of_not_le ordered⟩
  else
    .error (.mixedFamilies (toString one) (toString other))

/-- Read two addresses with a hyphen between them, blanks ignored. -/
def read (text : List Char) : Except Fault Span :=
  let trimmed := Text.trim text
  match Text.cut? '-' trimmed with
  | none =>
      .error (.malformed
        ("Expected format: first-last, got " ++ String.ofList trimmed))
  | some (oneText, otherText) =>
      if '-' ∈ otherText then
        .error (.malformed
          ("Expected a single '-' in range: " ++ String.ofList trimmed))
      else do
        let one ← Address.read oneText
        let other ← Address.read otherText
        between one other

/-- Read a span from a string. -/
def parse (text : String) : Except Fault Span :=
  read text.toList

/-- The characters of the text of a span. -/
def chars (span : Span) : List Char :=
  span.first.chars ++ '-' :: span.last.chars

instance : ToString Span where
  toString span :=
    String.ofList span.chars

/-- An address belongs to a span of its family whose ends enclose it. -/
instance : Membership Address Span where
  mem span address :=
    address.family = span.family ∧
      span.first.value ≤ address.value ∧
        address.value ≤ span.last.value

instance (address : Address) (span : Span) :
    Decidable (address ∈ span) :=
  inferInstanceAs (Decidable (_ ∧ _ ∧ _))

@[simp] theorem toList_toString (span : Span) :
    (toString span).toList = span.chars :=
  String.toList_ofList

/-- Spans with the same ends are the same. -/
@[ext] theorem ext
    {one other : Span}
    (sameFirst : one.first = other.first)
    (sameLast : one.last = other.last) :
    one = other := by
  cases one
  cases other
  cases sameFirst
  cases sameLast
  rfl

end Span

end IpBlocks
