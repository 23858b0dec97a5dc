import IpBlocks.Pattern.Flags
import IpBlocks.Text.Numeral

namespace IpBlocks

/-!
# Atoms of patterns

Atoms are the parts of a pattern that hold no further parts: characters,
shorthands for classes, and conditions on a place. A backslash begins an
escape, which is an atom as well.

What an atom stands for must be known without tables of characters. Under
Unicode this leaves out the shorthands, the edges of words and letters in
either case; these are known for bytes, where only ASCII is meant. Bytes on the
other hand must not match a piece of a character, which leaves out single bytes
beyond ASCII and everything that would match them: any character, and all
shorthands for the rest of a class.
-/

namespace Pattern

/-- The smallest part of a pattern. -/
inductive Atom where
  /-- A character. -/
  | literal (character : Char)
  /-- A character, or a single byte, by its code. -/
  | byte (code : Nat)
  /-- Any character. -/
  | anyCharacter
  /-- The start or the end of a text or line. -/
  | textEdge
  /-- The start or the end of a word, or what is neither. -/
  | wordEdge
  /-- A shorthand for a class, or for the rest of it. -/
  | shorthand (negated : Bool)
  deriving DecidableEq, Repr

namespace Atom

/-- The code of the character or the byte that an atom stands for. -/
def code? : Atom → Option Nat
  | literal character => some character.toNat
  | byte code => some code
  | _ => none

/-- Whether it is known under the flags what an atom stands for. -/
def isKnown (flags : Flags) : Atom → Bool
  | literal _ => !(flags.unicode && flags.caseless)
  | byte code => if flags.unicode then !flags.caseless else code < 0x80
  | anyCharacter => flags.unicode
  | textEdge => true
  | wordEdge => !flags.unicode
  | shorthand negated => !flags.unicode && !negated

/-- Whether it is known under the flags what an atom adds to a class. -/
def isKnownInClass (flags : Flags) : Atom → Bool
  | literal character =>
      if flags.unicode then !flags.caseless else character.toNat < 0x80
  | byte code => if flags.unicode then !flags.caseless else code < 0x80
  | shorthand negated => !flags.unicode && !negated
  | _ => false

/-- Whether a range leads from one atom to another. -/
def isRange (first last : Atom) : Bool :=
  match first.code?, last.code? with
  | some firstCode, some lastCode => firstCode ≤ lastCode
  | _, _ => false

/-- The number of digits that follow a letter which announces a code. -/
def codeWidth? : Char → Option Nat
  | 'x' => some 2
  | 'u' => some 4
  | 'U' => some 8
  | _ => none

/-- The character that an escaped letter stands for. -/
def control? : Char → Option Char
  | 'a' => some '\x07'
  | 't' => some '\t'
  | 'n' => some '\n'
  | 'v' => some '\x0b'
  | 'f' => some '\x0c'
  | 'r' => some '\r'
  | _ => none

/-- Whether a character is ASCII, and neither a letter nor a digit. -/
def isSign (character : Char) : Bool :=
  character.toNat < 0x80 && !character.isAlphanum

/-- The atom of an escaped character that announces nothing further. -/
def escaped? (character : Char) : Option Atom :=
  if character ∈ ['d', 's', 'w'] then some (shorthand false)
  else if character ∈ ['D', 'S', 'W'] then some (shorthand true)
  else if character ∈ ['A', 'z'] then some textEdge
  else if character ∈ ['b', 'B', '<', '>'] then some wordEdge
  else if isSign character then some (literal character)
  else (control? character).map literal

/-- Read a number of digits, with what is skipped before each of them. -/
def readDigits? (flags : Flags) :
    Nat → List Char → Option (List Char × List Char)
  | 0, text => some ([], text)
  | count + 1, text =>
      match flags.skip text with
      | [] => none
      | digit :: rest =>
          (readDigits? flags count rest).map fun (digits, rest) =>
            (digit :: digits, rest)

/-- Read the code of a character in a number of hexadecimal digits. -/
def readCode? (flags : Flags) (width : Nat) (text : List Char) :
    Option (Atom × List Char) := do
  let (digits, rest) ← readDigits? flags width text
  let code ← Numeral.read? 16 digits
  guard code.isValidChar
  return (if width = 2 then byte code else literal (Char.ofNat code), rest)

/-- Read an escape from behind its backslash. -/
def readEscape? (flags : Flags) : List Char → Option (Atom × List Char)
  | [] => none
  | character :: rest =>
      match codeWidth? character with
      | some width => readCode? flags width rest
      | none => (escaped? character).map fun atom => (atom, rest)

/-- Read an atom between the brackets of a class. -/
def readInClass? (flags : Flags) : List Char → Option (Atom × List Char)
  | [] => none
  | '\\' :: rest => readEscape? flags rest
  | character :: rest => some (literal character, rest)

/-- Read an atom outside of classes. -/
def read? (flags : Flags) : List Char → Option (Atom × List Char)
  | '.' :: rest => some (anyCharacter, rest)
  | '^' :: rest => some (textEdge, rest)
  | '$' :: rest => some (textEdge, rest)
  | text => readInClass? flags text

end Atom

end Pattern

end IpBlocks
