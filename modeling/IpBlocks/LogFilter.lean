import IpBlocks.Pattern.Text
import IpBlocks.Text.Cut
import IpBlocks.Text.Slice

namespace IpBlocks

/-!
# Log filters

A log filter is a list of directives with commas between them, where a
directive may also be left out. A directive begins with a level or a target, or
with a span in brackets, or with a target and a span. Behind a target or a span
a level may follow after an equals sign, which may also be left out there.

Blanks may stand around a directive. Its field and its level are found without
them, but are then cut out of the whole piece at the same byte offsets: a field
behind blanks lies that many bytes too far to the front, and a level takes all
blanks at the end with it.

A target begins with a letter, a number, a hyphen, a colon or an underscore and
goes on up to an equals sign or an opening bracket. A span has a name, which
may be empty, and may have a field in braces, which may be compared with a
value.
-/

namespace LogFilter

/-- The names of the levels. -/
def levelNames : List String :=
  ["off", "error", "warn", "info", "debug", "trace"]

/-- The greatest number that stands for a level. -/
def greatestLevel : Nat :=
  5

/-- Whether a text is the number of a level, with or without a plus sign. -/
def isLevelNumber (text : List Char) : Bool :=
  let digits := if text.head? = some '+' then text.tail else text
  (Numeral.read? 10 digits).any fun level => level ≤ greatestLevel

/-- Whether a text names a level, in letters of any case or as a number. -/
def isLevel (text : List Char) : Bool :=
  String.ofList (text.map Char.toLower) ∈ levelNames || isLevelNumber text

/-- Whether a text is a row of digits with at most one point between them. -/
def isFraction (text : List Char) : Bool :=
  match Text.cut? '.' text with
  | none => !text.isEmpty && text.all Char.isDigit
  | some (whole, fraction) =>
      !(whole ++ fraction).isEmpty && (whole ++ fraction).all Char.isDigit

/-- Whether a text is a row of digits, with or without a sign. -/
def isExponent (text : List Char) : Bool :=
  let digits :=
    if text.head? ∈ [some '+', some '-'] then text.tail else text
  !digits.isEmpty && digits.all Char.isDigit

/-- Whether a text is a number without a sign. -/
def isNumber (text : List Char) : Bool :=
  let lower := text.map Char.toLower
  match Text.cut? 'e' lower with
  | none =>
      isFraction lower ||
        String.ofList lower ∈ ["inf", "infinity", "nan"]
  | some (mantissa, exponent) =>
      isFraction mantissa && isExponent exponent

/--
Whether a field may be compared with a value.

A value is a number or a pattern. Behind a plus sign it can be a number only,
since no pattern begins with one; all other numbers are patterns too.
-/
def isValue : List Char → Bool
  | '+' :: number => isNumber number
  | value => Pattern.isValid value

/-- Whether a text is a field, with or without a value. -/
def isField (text : List Char) : Bool :=
  !text.isEmpty &&
    match text.splitOn '=' with
    | _ :: value :: _ => isValue value
    | _ => true

/--
The offset at which an end part of a directive begins.

It is counted from the start of the directive, without the blanks before it.
-/
def offsetOf (piece remainder : List Char) : Nat :=
  Text.offsetOf (Text.trim piece) remainder

/-- Whether a text is what may follow an equals sign. -/
def isLevelOrNothing (text : List Char) : Bool :=
  text.isEmpty || isLevel text

/--
Whether an end part of a directive may follow a span.

The level is cut out of the piece of the filter that holds the directive.
-/
def mayFollowSpan (piece : List Char) : List Char → Bool
  | [] => true
  | '=' :: level =>
      (Text.sliceFrom? (offsetOf piece level) piece).any isLevelOrNothing
  | _ => false

/-- Whether a character may stand in the name of a span. -/
def isSpanChar (character : Char) : Bool :=
  character ∉ [']', '\x7b']

/-- Whether a character may stand in a field. -/
def isFieldChar (character : Char) : Bool :=
  character ≠ '\x7d'

/--
Whether an end part of a directive may follow the opening brace of a field.

The field is cut out of the piece of the filter that holds the directive.
-/
def mayFollowBrace (piece text : List Char) : Bool :=
  let ending := text.dropWhile isFieldChar
  let field? :=
    Text.slice? (offsetOf piece text) (offsetOf piece ending) piece
  match ending with
  | '\x7d' :: ']' :: rest => field?.any isField && mayFollowSpan piece rest
  | _ => false

/-- Whether an end part of a directive may follow an opening bracket. -/
def mayFollowBracket (piece text : List Char) : Bool :=
  match text.dropWhile isSpanChar with
  | ']' :: rest => mayFollowSpan piece rest
  | '\x7b' :: rest => mayFollowBrace piece rest
  | _ => false

/-- Whether a target may begin with a character. -/
def isTargetStart (character : Char) : Bool :=
  character ∈ ['-', ':', '_'] ||
    Text.isLetter character || Text.isNumber character

/-- Whether a character may stand in a target. -/
def isTargetChar (character : Char) : Bool :=
  character ∉ ['=', '[']

/-- Whether an end part of a directive may follow a target. -/
def mayFollowTarget (piece : List Char) : List Char → Bool
  | '[' :: rest => mayFollowBracket piece rest
  | rest => mayFollowSpan piece rest

/-- Whether a piece of a filter holds a directive. -/
def isDirective (piece : List Char) : Bool :=
  match Text.trim piece with
  | [] => false
  | '[' :: rest => mayFollowBracket piece rest
  | first :: rest =>
      isTargetStart first &&
        mayFollowTarget piece (rest.dropWhile isTargetChar)

/-- Whether a text is a log filter. -/
def isValid (text : String) : Bool :=
  (text.toList.splitOn ',').all fun piece =>
    piece.isEmpty || isDirective piece

end LogFilter

end IpBlocks
