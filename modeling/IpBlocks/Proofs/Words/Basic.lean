import IpBlocks.Block.Extent
import IpBlocks.Document.Values
import IpBlocks.Target

namespace IpBlocks

/-!
# Values as machine words

The types of addresses, blocks and spans leave no room for a value that breaks
its invariants.  A program on machine words has no such types.  It holds an
address in 128 bits and a prefix length in 8, whatever the family, and each of
its operations relies on the values that other operations made before.

Here the operations are stated on such words.  They shift, mask, add and
subtract modulo a power of two, cast to fewer bits, and check nothing beyond
what decides between a value and none.
-/

namespace Family

/-- The number of bits of an address, as a word. -/
def widthWord : Family → BitVec 8
  | v4 => 32
  | v6 => 128

/-- The word with every bit of a family set. -/
def allOnesWord : Family → BitVec 128
  | v4 => (BitVec.allOnes 32).setWidth 128
  | v6 => BitVec.allOnes 128

/-- The word whose bits after a prefix are set, which are none after too long a prefix. -/
def hostMaskWord (family : Family) (prefixLen : BitVec 8) : BitVec 128 :=
  if family.widthWord ≤ prefixLen then
    0
  else
    family.allOnesWord >>> prefixLen

/-- The word whose bits up to the end of a prefix are set. -/
def networkMaskWord (family : Family) (prefixLen : BitVec 8) : BitVec 128 :=
  family.allOnesWord &&& ~~~family.hostMaskWord prefixLen

/-- Whether a block of some prefix length starts at a cursor and ends by a limit. -/
def fitsWord
    (family : Family)
    (cursor limit : BitVec 128)
    (prefixLen : BitVec 8) :
    Bool :=
  cursor &&& family.hostMaskWord prefixLen = 0 &&
    cursor ||| family.hostMaskWord prefixLen ≤ limit

/-- Shorten a prefix for as long as its block fits. -/
def widestPrefixWordUpTo?
    (family : Family)
    (cursor limit : BitVec 128) :
    Nat → Option (BitVec 8)
  | 0 =>
      if family.fitsWord cursor limit 0 then some 0 else none
  | shorter + 1 =>
      let longest := BitVec.ofNat 8 (shorter + 1)
      if family.fitsWord cursor limit longest then
        (family.widestPrefixWordUpTo? cursor limit shorter).or (some longest)
      else
        none

/-- The shortest prefix whose block starts at a cursor and ends by a limit. -/
def widestPrefixWord?
    (family : Family)
    (cursor limit : BitVec 128) :
    Option (BitVec 8) :=
  family.widestPrefixWordUpTo? cursor limit family.widthWord.toNat

end Family

/-- An address in the width of its family, as the networking library holds it. -/
inductive HostAddress where
  | v4 (bits : BitVec 32)
  | v6 (bits : BitVec 128)
  deriving DecidableEq

namespace HostAddress

/-- The family of an address. -/
def family : HostAddress → Family
  | .v4 _ => .v4
  | .v6 _ => .v6

/-- The number that the bits of an address spell. -/
def number : HostAddress → Nat
  | .v4 bits => bits.toNat
  | .v6 bits => bits.toNat

/-- The octets of an address, most significant first. -/
def octets (host : HostAddress) : List UInt8 :=
  (Positional.digits 256 host.family.octetCount host.number).map UInt8.ofNat

/-- The address that a text without blanks around it spells. -/
def ofChars? (text : List Char) : Option HostAddress :=
  match Quad.read? text with
  | some value => some (.v4 (BitVec.ofNat 32 value))
  | none =>
      (Groups.read? text).map fun value => .v6 (BitVec.ofNat 128 value)

end HostAddress

/-- A family and a word that may have more bits than the family. -/
structure AddressWords where
  family : Family
  value : BitVec 128
  deriving DecidableEq

namespace AddressWords

/-- The address of the lowest bits of a word. -/
def truncated (family : Family) (value : BitVec 128) : AddressWords :=
  ⟨family, value &&& family.allOnesWord⟩

/-- The address that the networking library holds, in the common width. -/
def ofHost : HostAddress → AddressWords
  | .v4 bits => ⟨.v4, bits.setWidth 128⟩
  | .v6 bits => ⟨.v6, bits⟩

/-- The address for the networking library, cast to the width of its family. -/
def toHost (address : AddressWords) : HostAddress :=
  match address.family with
  | .v4 => .v4 (address.value.setWidth 32)
  | .v6 => .v6 address.value

/-- The following address, unless the word overflows or exceeds the family. -/
def next? (address : AddressWords) : Option AddressWords :=
  if BitVec.uaddOverflow address.value 1 then
    none
  else if address.value + 1 ≤ address.family.allOnesWord then
    some ⟨address.family, address.value + 1⟩
  else
    none

/-- Read an address, with blanks around it ignored. -/
def read? (text : List Char) : Option AddressWords :=
  (HostAddress.ofChars? (Text.trim text)).map ofHost

/-- Read an address from a string. -/
def parse? (text : String) : Option AddressWords :=
  read? text.toList

/-- The address that a document stores. -/
def ofDocument? (document : Document) : Option AddressWords :=
  document.asText.toOption.bind parse?

end AddressWords

/-- The ends of a run of addresses and their number. -/
structure ExtentWords where
  first : AddressWords
  last : AddressWords
  count : Nat
  deriving DecidableEq

/-- A network, which may have host bits, and any prefix length of 8 bits. -/
structure BlockWords where
  network : AddressWords
  prefixLen : BitVec 8
  deriving DecidableEq

namespace BlockWords

/-- The family of the addresses of a block. -/
def family (block : BlockWords) : Family :=
  block.network.family

/-- The block around an address, unless the prefix exceeds the width. -/
def around? (address : AddressWords) (prefixLen : BitVec 8) :
    Option BlockWords :=
  let family := address.family
  if family.widthWord < prefixLen then
    none
  else
    some
      ⟨.truncated family (address.value &&& family.networkMaskWord prefixLen),
        prefixLen⟩

/-- The address whose bits are set exactly within the prefix. -/
def mask (block : BlockWords) : AddressWords :=
  .truncated block.family (block.family.networkMaskWord block.prefixLen)

/-- The address whose bits are set exactly after the prefix. -/
def wildcard (block : BlockWords) : AddressWords :=
  .truncated block.family (block.family.hostMaskWord block.prefixLen)

/-- The last address of a block, in which every bit after the prefix is set. -/
def last (block : BlockWords) : AddressWords :=
  .truncated block.family
    (block.network.value ||| block.family.hostMaskWord block.prefixLen)

/-- The number of addresses of a block, by a subtraction of 8 bits. -/
def size (block : BlockWords) : Nat :=
  1 <<< (block.family.widthWord - block.prefixLen).toNat

/-- The ends and the size of a block. -/
def extent (block : BlockWords) : ExtentWords :=
  ⟨block.network, block.last, block.size⟩

/-- Read a prefix length of 32 bits, and cast it to 8 unless it exceeds the width. -/
def readPrefixLen? (family : Family) (text : List Char) :
    Option (BitVec 8) := do
  let number ← (Block.readPrefixLen text).toOption
  let prefixLen := BitVec.ofNat 32 number
  if family.widthWord.setWidth 32 < prefixLen then
    none
  else
    some (prefixLen.setWidth 8)

/-- Read a block or a single address, with blanks around it ignored. -/
def read? (text : List Char) : Option BlockWords :=
  match Text.cut? '/' (Text.trim text) with
  | none => do
      let address ← AddressWords.read? (Text.trim text)
      around? address address.family.widthWord
  | some (addressText, prefixText) => do
      let address ← AddressWords.read? addressText
      let prefixLen ← readPrefixLen? address.family prefixText
      around? address prefixLen

/-- Read a block from a string. -/
def parse? (text : String) : Option BlockWords :=
  read? text.toList

/-- The block that a document stores. -/
def ofDocument? (document : Document) : Option BlockWords :=
  document.asText.toOption.bind parse?

end BlockWords

/-- Two ends of any families, in any order. -/
structure SpanWords where
  first : AddressWords
  last : AddressWords
  deriving DecidableEq

namespace SpanWords

/-- The span between two addresses of one family, given in either order. -/
def between? (one other : AddressWords) : Option SpanWords :=
  if one.family = other.family then
    some (if one.value ≤ other.value then ⟨one, other⟩ else ⟨other, one⟩)
  else
    none

/-- Read two addresses with a hyphen between them, blanks ignored. -/
def read? (text : List Char) : Option SpanWords := do
  let (oneText, otherText) ← Text.cut? '-' (Text.trim text)
  if '-' ∈ otherText then
    none
  else
    let one ← AddressWords.read? oneText
    let other ← AddressWords.read? otherText
    between? one other

/-- Read a span from a string. -/
def parse? (text : String) : Option SpanWords :=
  read? text.toList

/-- The blocks of a span from a cursor on, in at most some number of steps. -/
def blocksFrom? (span : SpanWords) :
    Nat → AddressWords → Option (List BlockWords)
  | 0, _ => none
  | steps + 1, cursor => do
      let prefixLen ←
        span.first.family.widestPrefixWord? cursor.value span.last.value
      let block ← BlockWords.around? cursor prefixLen
      if block.last.value = span.last.value then
        return [block]
      else
        let following ← block.last.next?
        let later ← span.blocksFrom? steps following
        return block :: later

/-- The blocks that a span consists of, in ascending order. -/
def blocks? (span : SpanWords) : Option (List BlockWords) :=
  span.blocksFrom? (2 * span.first.family.widthWord.toNat) span.first

end SpanWords

/-- One block, or a span of addresses. -/
inductive TargetWords where
  | block (single : BlockWords)
  | span (whole : SpanWords)
  deriving DecidableEq

namespace TargetWords

/-- Read a target, with blanks around it ignored. -/
def read? (text : List Char) : Option TargetWords :=
  if '-' ∈ Text.trim text then
    (SpanWords.read? (Text.trim text)).map span
  else
    (BlockWords.read? (Text.trim text)).map block

/-- Read a target from a string. -/
def parse? (text : String) : Option TargetWords :=
  read? text.toList

/-- The span of a target. -/
def range : TargetWords → SpanWords
  | .block single => ⟨single.network, single.last⟩
  | .span whole => whole

/-- The blocks that a target consists of, in ascending order. -/
def blocks? : TargetWords → Option (List BlockWords)
  | .block single => some [single]
  | .span whole => whole.blocks?

end TargetWords

/-- The blocks between two addresses of one family, given in either order. -/
def splitWords? (one other : AddressWords) : Option (List BlockWords) :=
  (SpanWords.between? one other).bind SpanWords.blocks?

end IpBlocks
