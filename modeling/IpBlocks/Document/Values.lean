import IpBlocks.Block.Text
import IpBlocks.Document.Basic

namespace IpBlocks

/-!
# Values in documents

An address or a block is stored as its text, and a family as its short name.
A family may also be stored as a map that leads from its short name to null.
-/

namespace Document

/-- Read a value from the string that a document is. -/
def readText (reader : String → Except Fault α) (document : Document) :
    Except String α := do
  let text ← document.asText
  (reader text).mapError Fault.message

end Document

namespace Address

/-- The document that stores an address. -/
def toDocument (address : Address) : Document :=
  .text (toString address)

/-- The address that a document stores. -/
def ofDocument : Document → Except String Address :=
  Document.readText parse

end Address

namespace Block

/-- The document that stores a block. -/
def toDocument (block : Block) : Document :=
  .text (toString block)

/-- The block that a document stores. -/
def ofDocument : Document → Except String Block :=
  Document.readText parse

end Block

namespace Family

/-- The family with a short name that stands in a document. -/
def ofDocumentTag (tag : String) : Except String Family :=
  match ofTag? tag with
  | some family => .ok family
  | none =>
      let one := v4.tag
      let other := v6.tag
      .error s!"unknown variant `{tag}`, expected `{one}` or `{other}`"

/-- The family that a document stores. -/
def ofDocument : Document → Except String Family
  | .text tag => ofDocumentTag tag
  | .map [(tag, content)] => do
      let family ← ofDocumentTag tag
      match content with
      | .null => .ok family
      | other => .error (other.mismatch "unit")
  | .map _ =>
      .error "invalid value: map, expected map with a single key"
  | other => .error (other.mismatch "string or map")

end Family

end IpBlocks
