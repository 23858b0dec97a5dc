namespace IpBlocks

/-!
# Faults

The causes for which a text or a request is refused. The wording of every
cause is in `Fault.message`; nothing else depends on it.
-/

/-- Why a text or a request is refused. -/
inductive Fault where
  /-- The text, without blanks around it, is no address. -/
  | notAnAddress (text : String)
  /-- A block or range is written wrongly. -/
  | malformed (reason : String)
  /-- A prefix is longer than the addresses of the family. -/
  | prefixTooLong (prefixLen width : Nat)
  /-- Two addresses of different families stand where one family is needed. -/
  | mixedFamilies (one other : String)
  /-- The text names no style. -/
  | unknownStyle (text : String)
  /-- Splitting a range stopped before the end of the range. -/
  | unconverged (detail : String)
  deriving DecidableEq, Repr

namespace Fault

/-- The wording of a fault. -/
def message : Fault → String
  | notAnAddress text =>
      "Invalid IP address: " ++ text
  | malformed reason =>
      "Invalid CIDR notation: " ++ reason
  | prefixTooLong prefixLen width =>
      s!"Invalid prefix length: {prefixLen} (must be 0-{width})"
  | mixedFamilies one other =>
      s!"Cannot mix IPv4 and IPv6: {one} and {other}"
  | unknownStyle text =>
      s!"Unknown format: {text} (expected binary, octal, decimal, hex or cisco)"
  | unconverged detail =>
      "Range splitting did not converge: " ++ detail

/-- Whether a fault shows a defect of the program rather than of its input. -/
def isInternal : Fault → Bool
  | unconverged _ => true
  | _ => false

end Fault

end IpBlocks
