import IpBlocks.Block.Text
import IpBlocks.Text.Name

namespace IpBlocks

/-!
# Styles

A style fixes how octets are written when a block is shown as an address and
a mask: in which base, with how many digits, and with which separator. The
style `cisco` is decimal and shows the wildcard in place of the mask.
-/

/-- The ways to show a block as an address and a mask. -/
inductive Style where
  | binary
  | octal
  | decimal
  | hex
  | cisco
  deriving DecidableEq, Repr

namespace Style

/-- Every style, in the order in which they are listed. -/
def all : List Style :=
  [binary, octal, decimal, hex, cisco]

/-- The name under which a style is shown. -/
def name : Style → String
  | binary => "binary"
  | octal => "octal"
  | decimal => "decimal"
  | hex => "hex"
  | cisco => "cisco"

/-- The further names under which a style is understood. -/
def shortNames : Style → List String
  | binary => ["bin", "b"]
  | octal => ["oct", "o"]
  | decimal => ["dec", "d"]
  | hex => ["x"]
  | cisco => ["i"]

/-- The style with a given name or short name. -/
def ofName? (name : String) : Option Style :=
  all.find? fun style => name = style.name ∨ name ∈ style.shortNames

/-- Read a style, with blanks around its name and letter case ignored. -/
def parse (text : String) : Except Fault Style :=
  match ofName? (Text.plainName text) with
  | some style => .ok style
  | none => .error (.unknownStyle text)

/-- Whether a style shows the wildcard in place of the mask. -/
def showsWildcard : Style → Bool
  | cisco => true
  | _ => false

/-- The character between octets. -/
def separator : Style → Char
  | binary | octal | hex => ' '
  | decimal | cisco => '.'

/-- The characters of an octet. -/
def octetChars : Style → Nat → List Char
  | binary, octet => Numeral.fixed 2 8 octet
  | octal, octet => Numeral.fixed 8 3 octet
  | hex, octet => Numeral.fixed 16 2 octet
  | decimal, octet | cisco, octet => Nat.toDigits 10 octet

/-- The characters of an address, octet after octet. -/
def addressChars (style : Style) (address : Address) : List Char :=
  [style.separator].intercalate
    (address.octets.map fun octet => style.octetChars octet.toNat)

/-- The text of an address, octet after octet. -/
def render (style : Style) (address : Address) : String :=
  String.ofList (style.addressChars address)

end Style

namespace Block

/-- The mask of a block as a style shows it. -/
def shownMask (block : Block) (style : Style) : Address :=
  if style.showsWildcard then block.wildcard else block.mask

/-- The characters of a block as an address and a mask. -/
def styledChars (block : Block) (style : Style) : List Char :=
  style.addressChars block.network ++ " / ".toList ++
    style.addressChars (block.shownMask style)

/-- The text of a block as an address and a mask. -/
def styled (block : Block) (style : Style) : String :=
  String.ofList (block.styledChars style)

end Block

end IpBlocks
