import IpBlocks.Pattern.Flags
import IpBlocks.Text.Letter

namespace IpBlocks

/-!
# Parentheses of patterns

Behind an opening parenthesis a group begins. It can have a name, or it can
turn flags for what it holds. Flags can also stand alone in parentheses; then
they hold up to the end of the group around them.
-/

namespace Pattern

/-- What begins with an opening parenthesis. -/
inductive Opening where
  /-- A change of flags that stands alone. -/
  | change (change : List Char)
  /-- A group with a change of flags, which may be empty. -/
  | group (change : List Char)
  /-- A group with a name. -/
  | named (name : List Char)
  deriving DecidableEq, Repr

namespace Opening

/-- Whether a character may stand at the start of a name. -/
def isNameStart (character : Char) : Bool :=
  character = '_' || Text.isLetter character

/-- Whether a character may stand in a name. -/
def isNameChar (character : Char) : Bool :=
  isNameStart character || Text.isNumber character ||
    character ∈ ['.', '[', ']']

/-- Whether a text is the name of a group. -/
def isName : List Char → Bool
  | [] => false
  | first :: rest => isNameStart first && rest.all isNameChar

/-- Read a name from behind its opening mark. -/
def readName? (text : List Char) : Option (Opening × List Char) := do
  let name := text.takeWhile (· ≠ '>')
  let '>' :: rest := text.dropWhile (· ≠ '>') | none
  guard (isName name)
  return (named name, rest)

/-- Whether a character ends a change of flags. -/
def endsChange (character : Char) : Bool :=
  character ∈ [':', ')']

/-- Read a change of flags from behind the question mark. -/
def readChange? (text : List Char) : Option (Opening × List Char) := do
  let letters := text.takeWhile fun character => !endsChange character
  guard (Flags.isChange letters)
  match text.dropWhile fun character => !endsChange character with
  | ':' :: rest => return (group letters, rest)
  | ')' :: rest => if letters = [] then none else return (change letters, rest)
  | _ => none

/-- Read what begins behind an opening parenthesis. -/
def read? (flags : Flags) (text : List Char) : Option (Opening × List Char) :=
  match flags.skip text with
  | '?' :: 'P' :: '<' :: rest => readName? rest
  | '?' :: '<' :: rest => readName? rest
  | '?' :: rest => readChange? rest
  | rest => some (group [], rest)

end Opening

end Pattern

end IpBlocks
