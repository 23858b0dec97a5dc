import IpBlocks.Document.Basic
import IpBlocks.Text.Cut
import IpBlocks.Text.Numeral

namespace IpBlocks

/-!
# Documents as texts

The text of a document follows the JSON grammar. A number without a point and
without an exponent is an integer if 64 bits hold it; every other number is a
decimal number, also where its value is whole. Zero with a minus sign is no
integer. A decimal number beyond the greatest binary64 number is refused, and
so is an escaped surrogate without its other half.
-/

namespace Document

/-- The first magnitude that 64 bits without a sign do not hold. -/
def unsignedLimit : Nat :=
  1 <<< 64

/-- The greatest magnitude of a negative number that 64 bits hold. -/
def negativeLimit : Nat :=
  1 <<< 63

/-- The document of a whole number from its sign and its magnitude. -/
def ofWhole (negative : Bool) (magnitude : Nat) : Document :=
  if negative then
    if 0 < magnitude ∧ magnitude ≤ negativeLimit then
      integer (-magnitude)
    else
      decimal ⟨true, magnitude, 0⟩
  else if magnitude < unsignedLimit then
    integer magnitude
  else
    decimal ⟨false, magnitude, 0⟩

/-- Read an exponent, with or without a sign. -/
def exponent? : List Char → Option Int
  | '-' :: digits => (Numeral.read? 10 digits).map fun value => -value
  | '+' :: digits => (Numeral.read? 10 digits).map Int.ofNat
  | digits => (Numeral.read? 10 digits).map Int.ofNat

/-- Whether digits before a point have no needless zero in front. -/
def isPlain (digits : List Char) : Bool :=
  digits.head? ≠ some '0' || digits.length = 1

/-- Read a number without its sign. -/
def magnitude? (negative : Bool) (written : List Char) : Option Document := do
  let isMark (character : Char) : Bool := character ∈ ['e', 'E']
  let mantissa := written.takeWhile fun character => !isMark character
  let scaling := written.dropWhile fun character => !isMark character
  let (whole, fraction) :=
    (Text.cut? '.' mantissa).getD (mantissa, [])
  guard (isPlain whole)
  let units ← Numeral.read? 10 whole
  if mantissa = whole ∧ scaling = [] then
    return ofWhole negative units
  else
    let digits ←
      if mantissa = whole then some units
      else do
        let _ ← Numeral.read? 10 fraction
        Numeral.read? 10 (whole ++ fraction)
    let power ← if scaling = [] then some 0 else exponent? scaling.tail
    return decimal ⟨negative, digits, power - fraction.length⟩

/-- Whether a document is no number beyond the greatest binary64 number. -/
def isHeld : Document → Bool
  | decimal number => number.held.isFinite
  | _ => true

/-- Read a number. -/
def number? (written : List Char) : Option Document :=
  let number :=
    match written with
    | '-' :: unsigned => magnitude? true unsigned
    | unsigned => magnitude? false unsigned
  number.filter isHeld

/-- Whether a character may stand in a number. -/
def isNumberChar (character : Char) : Bool :=
  character.isDigit || character ∈ ['-', '+', '.', 'e', 'E']

/-- The code point that an escaping letter stands for. -/
def escapedCode? : Char → Option Nat
  | '"' => some 0x22
  | '\\' => some 0x5C
  | '/' => some 0x2F
  | 'b' => some 0x08
  | 'f' => some 0x0C
  | 'n' => some 0x0A
  | 'r' => some 0x0D
  | 't' => some 0x09
  | _ => none

/-- The codes of a string up to its closing mark, and the text behind it. -/
def codes? : List Char → Option (List Nat × List Char)
  | [] => none
  | '"' :: rest => some ([], rest)
  | '\\' :: 'u' :: a :: b :: c :: d :: rest => do
      let code ← Numeral.read? 16 [a, b, c, d]
      let (codes, rest) ← codes? rest
      return (code :: codes, rest)
  | '\\' :: letter :: rest => do
      let code ← escapedCode? letter
      let (codes, rest) ← codes? rest
      return (code :: codes, rest)
  | character :: rest => do
      guard (0x20 ≤ character.toNat)
      let (codes, rest) ← codes? rest
      return (character.toNat :: codes, rest)

/-- The code point of a pair of surrogates, if two codes make one. -/
def paired? (high low : Nat) : Option Nat :=
  if 0xD800 ≤ high ∧ high < 0xDC00 ∧ 0xDC00 ≤ low ∧ low < 0xE000 then
    some (0x10000 + (high - 0xD800) * 0x400 + (low - 0xDC00))
  else
    none

/-- The characters of some codes, with each pair of surrogates joined. -/
def characters? : List Nat → Option (List Char)
  | [] => some []
  | code :: rest =>
      if code.isValidChar then
        (characters? rest).map (Char.ofNat code :: ·)
      else
        match rest with
        | [] => none
        | low :: rest => do
            let joined ← paired? code low
            let characters ← characters? rest
            return Char.ofNat joined :: characters

/-- Read a string behind its opening mark, and keep the text behind it. -/
def string? (written : List Char) : Option (String × List Char) := do
  let (codes, rest) ← codes? written
  let characters ← characters? codes
  return (String.ofList characters, rest)

/-- The text from the first character on that is no white space. -/
def skipSpace (written : List Char) : List Char :=
  written.dropWhile fun character => character ∈ [' ', '\t', '\n', '\r']

/-- Read a name or a number, and keep the text behind it. -/
def word? (written : List Char) : Option (Document × List Char) :=
  match written with
  | 'n' :: 'u' :: 'l' :: 'l' :: rest => some (null, rest)
  | 't' :: 'r' :: 'u' :: 'e' :: rest => some (boolean true, rest)
  | 'f' :: 'a' :: 'l' :: 's' :: 'e' :: rest => some (boolean false, rest)
  | _ =>
      (number? (written.takeWhile isNumberChar)).map fun number =>
        (number, written.dropWhile isNumberChar)

mutual

/-- Read a value that has at most some number of parts, and keep the rest. -/
def value? : Nat → List Char → Option (Document × List Char)
  | 0, _ => none
  | parts + 1, written =>
      match skipSpace written with
      | '"' :: rest =>
          (string? rest).map fun (value, rest) => (.text value, rest)
      | '[' :: rest =>
          match skipSpace rest with
          | ']' :: rest => some (sequence [], rest)
          | rest =>
              (items? parts rest).map fun (items, rest) =>
                (sequence items, rest)
      | '{' :: rest =>
          match skipSpace rest with
          | '}' :: rest => some (map [], rest)
          | rest =>
              (entries? parts rest).map fun (entries, rest) =>
                (map entries, rest)
      | rest => word? rest

/-- Read the items of a sequence up to its end, and keep the rest. -/
def items? : Nat → List Char → Option (List Document × List Char)
  | 0, _ => none
  | parts + 1, written => do
      let (item, rest) ← value? parts written
      match skipSpace rest with
      | ',' :: rest => do
          let (items, rest) ← items? parts rest
          return (item :: items, rest)
      | ']' :: rest => return ([item], rest)
      | _ => none

/-- Read the entries of a map up to its end, and keep the rest. -/
def entries? : Nat → List Char → Option (List (String × Document) × List Char)
  | 0, _ => none
  | parts + 1, written =>
      match skipSpace written with
      | '"' :: rest => do
          let (name, rest) ← string? rest
          match skipSpace rest with
          | ':' :: rest => do
              let (value, rest) ← value? parts rest
              match skipSpace rest with
              | ',' :: rest => do
                  let (entries, rest) ← entries? parts rest
                  return ((name, value) :: entries, rest)
              | '}' :: rest => return ([(name, value)], rest)
              | _ => none
          | _ => none
      | _ => none

end

/--
Read a document.

A value has a character of its own in the text, a first item or entry has the
closing bracket behind it, and a further one has the comma in front of it, so
the length of the text bounds the parts of the document.
-/
def read? (written : String) : Option Document := do
  let (document, rest) ← value? (written.length + 1) written.toList
  guard (skipSpace rest = [])
  return document

end Document

end IpBlocks
