import IpBlocks.Text.Blank

namespace IpBlocks

/-!
# Names

Names of styles and modes are compared without the blanks around them and
without regard to the case of the letters A to Z. No other letter has a case
here, so a dotless i or a Kelvin sign matches no name.
-/

namespace Text

/-- A name without blanks around it, with A to Z in lower case. -/
def plainName (text : String) : String :=
  String.ofList ((trim text.toList).map Char.toLower)

end Text

end IpBlocks
