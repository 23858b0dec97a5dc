import IpBlocks.Block.Text

namespace IpBlocks

/-!
# Extents

The extent of a block names its two ends and the number of its addresses.
-/

/-- The ends of a run of addresses and their number. -/
structure Extent where
  first : Address
  last : Address
  count : Nat
  deriving DecidableEq

namespace Extent

/-- The characters of the text of an extent. -/
def chars (extent : Extent) : List Char :=
  extent.first.chars ++ " -> ".toList ++ extent.last.chars ++
    " (".toList ++ Nat.toDigits 10 extent.count ++ [')']

instance : ToString Extent where
  toString extent :=
    String.ofList extent.chars

end Extent

namespace Block

/-- The ends and the size of a block. -/
def extent (block : Block) : Extent where
  first :=
    block.network
  last :=
    block.last
  count :=
    block.size

end Block

/-- The extent of the block that a text names. -/
def Extent.ofBlockText (text : String) : Except Fault Extent :=
  (Block.parse text).map Block.extent

end IpBlocks
