namespace IpBlocks

/-!
# Texts as bytes

Output is counted in the bytes of its UTF-8 form. A text that was cut between
two bytes of one character is shown with U+FFFD for the incomplete character.
-/

namespace Text

/-- The bytes of the UTF-8 form of a text. -/
def bytes (text : String) : Array UInt8 :=
  text.toUTF8.data

/-- The text that the bytes before the last few spell, if they spell one. -/
def ofBytesBefore? (bytes : Array UInt8) (missing : Nat) : Option String :=
  String.fromUTF8? ⟨bytes.take (bytes.size - missing)⟩

/-- The text that a front part of the bytes of some text spells. -/
def ofBytes (bytes : Array UInt8) : String :=
  match ofBytesBefore? bytes 0 with
  | some whole => whole
  | none =>
      match [1, 2, 3].findSome? (ofBytesBefore? bytes) with
      | some complete => complete.push '\uFFFD'
      | none => ""

/-- A line without the carriage return that may stand before its line feed. -/
def withoutReturn (line : List Char) : List Char :=
  if line.getLast? = some '\r' then line.dropLast else line

/--
The lines of a text.

A line is ended by a line feed, or by a carriage return and a line feed. What
stands behind the last line feed is a line too, unless it is empty.
-/
def lines (text : String) : List String :=
  let pieces := text.toList.splitOn '\n'
  let ended := pieces.dropLast.map withoutReturn
  let unended := pieces.getLast?.toList.filter fun piece => !piece.isEmpty
  (ended ++ unended).map String.ofList

/-- The bytes of two texts in a row are those of one, then of the other. -/
@[simp] theorem bytes_append (one other : String) :
    bytes (one ++ other) = bytes one ++ bytes other := by
  simp [bytes]

/-- The bytes of a whole text spell that text. -/
@[simp] theorem ofBytes_bytes (text : String) :
    ofBytes (bytes text) = text := by
  have whole : (bytes text).take ((bytes text).size - 0) = bytes text := by
    simp
  have spelled : ofBytesBefore? (bytes text) 0 = some text := by
    rw [ofBytesBefore?, whole]
    exact dif_pos text.isValidUTF8
  simp [ofBytes, spelled]

end Text

end IpBlocks
