import IpBlocks.Document.Shortest
import IpBlocks.Text.Quoted

namespace IpBlocks

/-!
# Documents

A document is a value in the JSON data model. Addresses, blocks and families
are stored as strings in documents. A value of another kind is refused with a
message that tells what was found and what was expected.
-/

/-- A value in the JSON data model. -/
inductive Document where
  | null
  | boolean (value : Bool)
  | integer (value : Int)
  | decimal (number : Document.Decimal)
  | text (value : String)
  | sequence (items : List Document)
  | map (entries : List (String × Document))
  deriving Inhabited

namespace Document

/-- What a message calls a value. -/
def description : Document → String
  | null => "null"
  | boolean value => s!"boolean `{value}`"
  | integer value => s!"integer `{value}`"
  | decimal number =>
      let shown := number.text
      s!"floating point `{shown}`"
  | text value =>
      let shown := Text.quoted value
      s!"string {shown}"
  | sequence _ => "sequence"
  | map _ => "map"

/-- The message for a value of another kind than the expected one. -/
def mismatch (found : Document) (expected : String) : String :=
  let shown := found.description
  s!"invalid type: {shown}, expected {expected}"

/-- The string that a document is, if it is one. -/
def asText : Document → Except String String
  | text value => .ok value
  | other => .error (other.mismatch "a string")

end Document

end IpBlocks
