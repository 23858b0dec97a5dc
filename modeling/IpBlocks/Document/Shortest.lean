import IpBlocks.Document.Decimal

namespace IpBlocks

/-!
# Shortest decimal numbers

A message shows a binary64 number with the fewest digits that read back as
that number. Numbers from 0.00001 up to sixteen digits before the point are
written positionally, all others with an exponent and its sign.
-/

namespace Document

namespace Decimal

/-- The exact decimal expansion of a positive binary64 number. -/
def exact (value : Float) : Decimal :=
  let bits := value.toBits.toNat
  let fraction := bits % (1 <<< 52)
  let scale := (bits >>> 52) % (1 <<< 11)
  let significand := if scale = 0 then fraction else fraction + (1 <<< 52)
  let power : Int := (max scale 1 : Nat) - 1075
  if 0 ≤ power then
    ⟨false, significand <<< power.natAbs, 0⟩
  else
    ⟨false, significand * Nat.pow 5 power.natAbs, power⟩

/--
The two neighbours with some digits dropped, the nearer one first.

Of two neighbours that are equally near the one with an even last digit comes
first.
-/
def neighbours (number : Decimal) (dropped : Nat) : List Decimal :=
  let unit := Nat.pow 10 dropped
  let below := number.digits / unit
  let remainder := number.digits % unit
  let shortened (digits : Nat) : Decimal :=
    ⟨number.negative, digits, number.exponent + dropped⟩
  let downwards :=
    2 * remainder < unit ∨ (2 * remainder = unit ∧ below % 2 = 0)
  if downwards then
    [shortened below, shortened (below + 1)]
  else
    [shortened (below + 1), shortened below]

/-- The greatest number of digits that a binary64 number needs. -/
def digitLimit : Nat :=
  17

/--
The fewest digits that read back as a positive binary64 number.

Of two numbers with that many digits the one nearer to it is taken. No digit
at all is tried first, since the next power of ten may already read back.
-/
def shortest (value : Float) : Decimal :=
  let expansion := exact value
  let digitCount := (Nat.toDigits 10 expansion.digits).length
  let readsBack (shorter : Decimal) : Bool :=
    shorter.nearest.toBits = value.toBits
  let found := (List.range (digitLimit + 1)).findSome? fun kept =>
    (expansion.neighbours (digitCount - kept)).find? readsBack
  found.getD expansion

/-- The greatest number of digits before the point of a positional number. -/
def wholeLimit : Int :=
  16

/-- The greatest number of zeros behind the point of a positional number. -/
def zeroLimit : Int :=
  4

/-- Digits with a point before the last few of them. -/
def withPoint (digits : List Char) (places : Nat) : List Char :=
  digits.take (digits.length - places) ++ '.' ::
    digits.drop (digits.length - places)

/-- An exponent with its sign. -/
def exponentText (exponent : Int) : List Char :=
  (if exponent < 0 then '-' else '+') :: Nat.toDigits 10 exponent.natAbs

/-- The text of a number that already has the fewest digits. -/
def layout (number : Decimal) : String :=
  let digits := Nat.toDigits 10 number.digits
  let before := digits.length + number.exponent
  let zeros (count : Int) := List.replicate count.toNat '0'
  let magnitude :=
    if number.digits = 0 then
      "0.0".toList
    else if 0 ≤ number.exponent ∧ before ≤ wholeLimit then
      digits ++ zeros number.exponent ++ ".0".toList
    else if 0 < before ∧ before ≤ wholeLimit then
      withPoint digits (-number.exponent).toNat
    else if -zeroLimit ≤ before ∧ before ≤ 0 then
      "0.".toList ++ zeros (-before) ++ digits
    else
      let mantissa :=
        if digits.length = 1 then digits
        else withPoint digits (digits.length - 1)
      mantissa ++ 'e' :: exponentText (before - 1)
  String.ofList (if number.negative then '-' :: magnitude else magnitude)

/-- The text under which a message shows the number held for a number. -/
def text (number : Decimal) : String :=
  layout { shortest number.held with negative := number.negative }

end Decimal

end Document

end IpBlocks
