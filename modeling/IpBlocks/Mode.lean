import IpBlocks.Block.Extent
import IpBlocks.Style
import IpBlocks.Target

namespace IpBlocks

/-!
# Output modes

A mode fixes what is shown of each block of a target: its text, its extent,
or its address and mask in one of the styles.
-/

/-- What is shown of each block. -/
inductive Mode where
  | cidr
  | range
  | styled (style : Style)
  deriving DecidableEq, Repr

namespace Mode

/-- Every mode, in the order in which they are listed. -/
def all : List Mode :=
  [cidr, range] ++ Style.all.map styled

/-- The name of a mode. -/
def name : Mode → String
  | .cidr => "cidr"
  | .range => "range"
  | .styled style => style.name

/-- The mode with exactly a given name. -/
def ofName? (name : String) : Option Mode :=
  all.find? fun mode => name = mode.name

/--
Read a mode, with blanks around its name and letter case ignored.

The short names of the styles are understood too. A refused name is quoted
without blanks around it and in lower case.
-/
def parse (text : String) : Except Fault Mode :=
  let name := Text.plainName text
  if name = cidr.name then
    .ok cidr
  else if name = range.name then
    .ok range
  else
    (Style.parse name).map styled

/--
The mode of a run.

A flag wins over a configured name, and without either each block is shown
as its text.
-/
def resolve (flag : Option Mode) (configured : Option String) :
    Except Fault Mode :=
  match flag, configured with
  | some mode, _ => .ok mode
  | none, some name => parse name
  | none, none => .ok cidr

/-- What a mode shows of a block. -/
def line (mode : Mode) (block : Block) : String :=
  match mode with
  | .cidr => toString block
  | .range => toString block.extent
  | .styled style => block.styled style

/-- The lines shown for a target, one for each of its blocks. -/
def lines (mode : Mode) (target : String) : Except Fault (List String) := do
  let parsed ← Target.parse target
  let blocks ← parsed.blocks
  return blocks.map mode.line

end Mode

end IpBlocks
