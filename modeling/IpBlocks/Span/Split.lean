import IpBlocks.Block.Text
import IpBlocks.Span.Basic

namespace IpBlocks

/-!
# Splitting a span into blocks

A span is split from its first address on. Each step takes the widest block
that starts at the cursor and ends within the span, and moves the cursor
behind it.

The number of steps is capped at twice the width of the family. Reaching the
cap, or a cursor at which no block starts, would be a defect of the program,
and is reported as such.
-/

namespace Family

/-- Whether a block of some prefix length starts at a cursor and ends by a limit. -/
def fits (family : Family) (cursor limit prefixLen : Nat) : Bool :=
  cursor &&& family.hostMask prefixLen = 0 &&
    cursor ||| family.hostMask prefixLen ≤ limit

/-- Shorten a prefix for as long as its block fits. -/
def widestPrefixUpTo? (family : Family) (cursor limit : Nat) :
    Nat → Option Nat
  | 0 =>
      if family.fits cursor limit 0 then some 0 else none
  | shorter + 1 =>
      if family.fits cursor limit (shorter + 1) then
        (family.widestPrefixUpTo? cursor limit shorter).or
          (some (shorter + 1))
      else
        none

/-- The shortest prefix whose block starts at a cursor and ends by a limit. -/
def widestPrefix? (family : Family) (cursor limit : Nat) : Option Nat :=
  family.widestPrefixUpTo? cursor limit family.width

end Family

namespace Span

/-- The cap on the number of blocks of a span. -/
def blockCap (span : Span) : Nat :=
  2 * span.family.width

/-- The blocks of a span from a cursor on, in at most some number of steps. -/
def blocksFrom (span : Span) : Nat → Address → Except Fault (List Block)
  | 0, _ =>
      .error (.unconverged
        s!"{span} needs more than {span.blockCap} blocks")
  | steps + 1, cursor =>
      match span.family.widestPrefix? cursor.value span.last.value with
      | none =>
          .error (.unconverged s!"no block starts at {cursor} within {span}")
      | some prefixLen => do
          let block ← Block.around cursor prefixLen
          if block.last.value = span.last.value then
            return [block]
          else
            match block.last.next? with
            | none =>
                let familyName := span.family.name
                .error (.unconverged
                  s!"ran past the end of the {familyName} space in {span}")
            | some following =>
                let later ← span.blocksFrom steps following
                return block :: later

/-- The blocks that a span consists of, in ascending order. -/
def blocks (span : Span) : Except Fault (List Block) :=
  span.blocksFrom span.blockCap span.first

end Span

/-- The blocks between two addresses of one family, given in either order. -/
def split (one other : Address) : Except Fault (List Block) :=
  (Span.between one other).bind Span.blocks

end IpBlocks
