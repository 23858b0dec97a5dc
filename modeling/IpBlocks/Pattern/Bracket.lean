import IpBlocks.Pattern.Atom
import IpBlocks.Pattern.Depth

namespace IpBlocks

/-!
# Classes in brackets

A class is written as its items between brackets, behind a caret if all other
characters are meant. An item is a character, a range of characters, a
shorthand, a class with a name, or a further class in brackets. The operators
`&&`, `--` and `~~` join what stands before them with the items behind them.

Hyphens behind the opening bracket stand for themselves, and so does a closing
bracket that follows the opening bracket or its caret. A hyphen behind an item
stands for itself before another hyphen and before a closing bracket; otherwise
it begins the end of a range.
-/

namespace Pattern

/-- A class in brackets as far as it has been read. -/
structure Bracket where
  /-- Whether nothing but hyphens has been read. -/
  atStart : Bool
  /-- The depth of what stands before the last operator. -/
  operand? : Option Nat
  /-- The depths of the items behind the last operator. -/
  items : List Nat
  deriving DecidableEq, Repr

namespace Bracket

/-- A class before its first item. -/
def empty : Bracket :=
  ⟨true, none, []⟩

/-- The class with a further item. -/
def add (bracket : Bracket) (depth : Nat) : Bracket :=
  ⟨false, bracket.operand?, depth :: bracket.items⟩

/-- The depth of all that has been read. -/
def contentDepth (bracket : Bracket) : Nat :=
  match bracket.operand? with
  | none => rowDepth bracket.items
  | some operand => max operand (rowDepth bracket.items) + 1

/-- The class with an operator behind its last item. -/
def join (bracket : Bracket) : Bracket :=
  ⟨false, some bracket.contentDepth, []⟩

/-- The depth of the class. -/
def depth (bracket : Bracket) : Nat :=
  bracket.contentDepth + 1

/-- Whether a hyphen or a bracket stands for itself at the start. -/
def standsAtStart (bracket : Bracket) (character : Char) : Bool :=
  bracket.atStart &&
    (character = '-' || character = ']' && bracket.items.isEmpty)

/-- The class with a hyphen or a bracket that stands for itself. -/
def addAtStart (bracket : Bracket) (character : Char) : Bracket :=
  { bracket.add 0 with atStart := character = '-' }

/-- The names that a class can have. -/
def names : List String :=
  ["alnum", "alpha", "ascii", "blank", "cntrl", "digit", "graph", "lower",
    "print", "punct", "space", "upper", "word", "xdigit"]

/-- Whether it is known under the flags what a class with a name adds. -/
def isKnownName (flags : Flags) (negated : Bool) : Bool :=
  if flags.unicode then !flags.caseless else !negated

/--
Read a class with a name from behind its opening bracket.

Along with the text behind it comes whether all other characters are meant.
-/
def readName? (text : List Char) : Option (Bool × List Char) := do
  let ':' :: behindColon := text | none
  let negated := behindColon.head? = some '^'
  let named := if negated then behindColon.tail else behindColon
  let ':' :: ']' :: rest := named.dropWhile (· ≠ ':') | none
  guard (String.ofList (named.takeWhile (· ≠ ':')) ∈ names)
  return (negated, rest)

/-- The text behind an operator. -/
def operator? : List Char → Option (List Char)
  | '&' :: '&' :: rest => some rest
  | '-' :: '-' :: rest => some rest
  | '~' :: '~' :: rest => some rest
  | _ => none

/-- The text behind a caret, which bytes do not allow, or behind none. -/
def afterCaret? (flags : Flags) (text : List Char) : Option (List Char) :=
  match flags.skip text with
  | '^' :: rest => if flags.unicode then some rest else none
  | rest => some rest

/-- Whether a hyphen stands for itself before what is expected next. -/
def isLoneBefore : Option Char → Bool
  | some '-' => true
  | some ']' => true
  | _ => false

/-- The text behind a character, a shorthand or a range. -/
def afterItem? (flags : Flags) (text : List Char) : Option (List Char) := do
  let (first, behindFirst) ← Atom.readInClass? flags text
  guard (first.isKnownInClass flags)
  match flags.skip behindFirst with
  | '-' :: rest =>
      if isLoneBefore (flags.peek? rest) then
        return '-' :: rest
      else
        let (last, behindLast) ← Atom.readInClass? flags (flags.skip rest)
        guard (first.isRange last && last.isKnownInClass flags)
        return behindLast
  | rest => return rest

/--
Read a class up to its closing bracket.

Its depth is found, and the text behind it. The fuel bounds the number of
items, operators and brackets.
-/
def readItems? (flags : Flags) :
    Nat → Bracket → List Char → Option (Nat × List Char)
  | 0, _, _ => none
  | fuel + 1, bracket, text =>
      match flags.skip text with
      | [] => none
      | first :: rest =>
          if bracket.standsAtStart first then do
            guard ((Atom.literal first).isKnownInClass flags)
            readItems? flags fuel (bracket.addAtStart first) rest
          else if first = ']' then
            some (bracket.depth, rest)
          else if first = '[' then
            match readName? rest with
            | some (negated, rest) => do
                guard (isKnownName flags negated)
                readItems? flags fuel (bracket.add 0) rest
            | none => do
                let content ← afterCaret? flags rest
                let (depth, rest) ← readItems? flags fuel empty content
                readItems? flags fuel (bracket.add depth) rest
          else
            match operator? (first :: rest) with
            | some rest => readItems? flags fuel bracket.join rest
            | none => do
                let rest ← afterItem? flags (first :: rest)
                readItems? flags fuel (bracket.add 0) rest

/-- Read a class in brackets from behind its opening bracket. -/
def read? (flags : Flags) (text : List Char) : Option (Nat × List Char) := do
  let content ← afterCaret? flags text
  readItems? flags (content.length + 1) empty content

end Bracket

end Pattern

end IpBlocks
