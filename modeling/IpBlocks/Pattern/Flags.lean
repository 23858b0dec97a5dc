import IpBlocks.Text.Blank

namespace IpBlocks

/-!
# Flags of patterns

A pattern can turn flags on and off for its rest or for a group. Three of them
decide which texts are patterns: with `x` blanks and comments are skipped,
without `u` bytes are matched in place of characters, and with `i` letters
match in either case. The other flags (`m`, `s`, `U` and `R`) only decide what
a pattern matches.

A comment leads from a number sign to the end of its line.
-/

namespace Pattern

/-- The text behind blanks and comments, from within a comment or not. -/
def skipBlanks : Bool → List Char → List Char
  | _, [] => []
  | true, character :: rest => skipBlanks (character ≠ '\n') rest
  | false, character :: rest =>
      if character = '#' then
        skipBlanks true rest
      else if Text.isBlank character then
        skipBlanks false rest
      else
        character :: rest

/-- The flags that decide which texts are patterns. -/
structure Flags where
  /-- Blanks and comments are skipped. -/
  skipsBlanks : Bool
  /-- Characters are matched, and not bytes. -/
  unicode : Bool
  /-- Letters match in either case. -/
  caseless : Bool
  deriving DecidableEq, Repr

namespace Flags

/-- The flags at the start of a pattern. -/
def initial : Flags :=
  ⟨false, true, false⟩

/-- The letters of all flags. -/
def letters : List Char :=
  ['i', 'm', 's', 'U', 'u', 'R', 'x']

/-- Turn the flag of a letter on or off. -/
def turn (flags : Flags) (on : Bool) : Char → Flags
  | 'x' => { flags with skipsBlanks := on }
  | 'u' => { flags with unicode := on }
  | 'i' => { flags with caseless := on }
  | _ => flags

/--
Whether a text says which flags to turn.

Letters before a hyphen turn flags on and letters behind it turn them off. No
letter stands twice, and a hyphen is followed by a letter.
-/
def isChange (change : List Char) : Bool :=
  change.all (fun sign => sign ∈ '-' :: letters) &&
    change.Nodup && change.getLast? ≠ some '-'

/-- The flags after a change. -/
def changed (flags : Flags) (change : List Char) : Flags :=
  let turnedOn := change.takeWhile (· ≠ '-')
  let turnedOff := (change.dropWhile (· ≠ '-')).tail
  turnedOff.foldl (turn · false ·)
    (turnedOn.foldl (turn · true ·) flags)

/-- The text behind what is skipped under the flags. -/
def skip (flags : Flags) (text : List Char) : List Char :=
  if flags.skipsBlanks then skipBlanks false text else text

/--
The character that is expected next, which decides how a hyphen is read.

Blanks are left out, and a number sign among them too; what follows the number
sign is not left out with it. If nothing else follows, it is the first blank.
-/
def peek? (flags : Flags) (text : List Char) : Option Char :=
  if flags.skipsBlanks then
    let next := text.dropWhile Text.isBlank
    let beyond :=
      if next.head? = some '#' then next.tail.dropWhile Text.isBlank
      else next
    beyond.head?.or text.head?
  else
    text.head?

/-- The turning of a flag keeps the flags of all other letters. -/
@[simp] theorem turn_of_notMem
    (flags : Flags)
    (on : Bool)
    {letter : Char}
    (other : letter ∉ ['x', 'u', 'i']) :
    flags.turn on letter = flags := by
  simp only [List.mem_cons, List.not_mem_nil, or_false, not_or] at other
  unfold turn
  split <;> simp_all

end Flags

/-- No character is skipped unless blanks are. -/
@[simp] theorem Flags.skip_initial (text : List Char) :
    Flags.initial.skip text = text :=
  rfl

end Pattern

end IpBlocks
