import IpBlocks.Address.Basic
import IpBlocks.Address.Groups
import IpBlocks.Fault
import IpBlocks.Text.Blank

namespace IpBlocks

/-!
# Address texts

An address is read from a dotted quad or from hexadecimal groups, with blanks
allowed around it, and written in the form of its family.
-/

namespace Address

/-- The address that a text without blanks around it spells. -/
def ofChars? (text : List Char) : Option Address :=
  match Quad.read? text with
  | some value => some (truncated .v4 value)
  | none => (Groups.read? text).map (truncated .v6)

/-- Read an address, with blanks around it ignored. -/
def read (text : List Char) : Except Fault Address :=
  match ofChars? (Text.trim text) with
  | some address => .ok address
  | none => .error (.notAnAddress (String.ofList (Text.trim text)))

/-- Read an address from a string. -/
def parse (text : String) : Except Fault Address :=
  read text.toList

/-- The characters of the text of an address. -/
def chars (address : Address) : List Char :=
  match address.family with
  | .v4 => Quad.chars address.value
  | .v6 => Groups.chars address.value

instance : ToString Address where
  toString address :=
    String.ofList address.chars

@[simp] theorem toList_toString (address : Address) :
    (toString address).toList = address.chars :=
  String.toList_ofList

end Address

end IpBlocks
