import IpBlocks.Span.Split

namespace IpBlocks

/-!
# Targets

A target is what a user asks about: one block, or a span to be split into
blocks. A text with a hyphen names a span, any other text a block.
-/

/-- One block, or a span of addresses. -/
inductive Target where
  | block (single : Block)
  | span (whole : Span)
  deriving DecidableEq

namespace Target

/-- The first address of a target. -/
def first : Target → Address
  | .block single => single.network
  | .span whole => whole.first

/-- The last address of a target. -/
def last : Target → Address
  | .block single => single.last
  | .span whole => whole.last

/-- Read a target, with blanks around it ignored. -/
def read (text : List Char) : Except Fault Target :=
  if '-' ∈ Text.trim text then
    (Span.read (Text.trim text)).map span
  else
    (Block.read (Text.trim text)).map block

/-- Read a target from a string. -/
def parse (text : String) : Except Fault Target :=
  read text.toList

/-- The blocks that a target consists of, in ascending order. -/
def blocks : Target → Except Fault (List Block)
  | .block single => .ok [single]
  | .span whole => whole.blocks

instance : ToString Target where
  toString
    | .block single => toString single
    | .span whole => toString whole

end Target

end IpBlocks
