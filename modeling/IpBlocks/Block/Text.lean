import IpBlocks.Address.Text
import IpBlocks.Block.Basic

namespace IpBlocks

/-!
# Block texts

A block is written as its network, a slash and its prefix length. It is read
from any address with a slash and a prefix length, or from an address alone,
which stands for the block of that single address.
-/

namespace Block

/-- Every prefix length that is read lies below this number. -/
def prefixLenBound : Nat :=
  1 <<< 32

/-- Read a prefix length, with blanks around it ignored. -/
def readPrefixLen (text : List Char) : Except Fault Nat :=
  match (Numeral.read? 10 (Text.trim text)).filter (· < prefixLenBound) with
  | some prefixLen => .ok prefixLen
  | none =>
      .error (.malformed ("Invalid prefix: " ++ String.ofList text))

/-- Read a block or a single address, with blanks around it ignored. -/
def read (text : List Char) : Except Fault Block :=
  match Text.cut? '/' (Text.trim text) with
  | none => do
      let address ← Address.read (Text.trim text)
      around address address.family.width
  | some (addressText, prefixText) => do
      let address ← Address.read addressText
      let prefixLen ← readPrefixLen prefixText
      around address prefixLen

/-- Read a block from a string. -/
def parse (text : String) : Except Fault Block :=
  read text.toList

/-- The characters of the text of a block. -/
def chars (block : Block) : List Char :=
  block.network.chars ++ '/' :: Nat.toDigits 10 block.prefixLen

instance : ToString Block where
  toString block :=
    String.ofList block.chars

@[simp] theorem toList_toString (block : Block) :
    (toString block).toList = block.chars :=
  String.toList_ofList

end Block

end IpBlocks
