import IpBlocks.Text.Bytes

namespace IpBlocks

/-!
# Sinks

A run writes to two sinks, one for results and one for refused targets. A
sink may be limited to a number of bytes. It then accepts exactly that many,
and refuses the first byte after them; being filled exactly is no refusal.
-/

namespace Report

/-- The two streams of a run. -/
inductive Channel where
  | out
  | err
  deriving DecidableEq, Repr

/-- The wording of the refusal of a byte. -/
def refusedByte : String :=
  "sink full"

/-- The bytes accepted so far, and how many may be accepted in all. -/
structure Sink where
  limit : Option Nat
  accepted : Array UInt8 := #[]
  deriving DecidableEq

namespace Sink

/-- Accept a text, or refuse it after accepting the bytes that still fit. -/
def write (sink : Sink) (text : String) : Except Sink Sink :=
  let offered := sink.accepted ++ Text.bytes text
  match sink.limit with
  | none => .ok { sink with accepted := offered }
  | some limit =>
      if offered.size ≤ limit then
        .ok { sink with accepted := offered }
      else
        .error { sink with accepted := offered.take limit }

/-- The text accepted so far. -/
def text (sink : Sink) : String :=
  Text.ofBytes sink.accepted

/-- A sink without a limit accepts every text. -/
theorem write_unlimited
    {sink : Sink}
    (unlimited : sink.limit = none)
    (text : String) :
    sink.write text =
      .ok { sink with accepted := sink.accepted ++ Text.bytes text } := by
  simp [write, unlimited]

/-- No write leaves more in a limited sink than its limit. -/
theorem accepted_le_limit
    {sink grown : Sink}
    {limit : Nat}
    {text : String}
    (limited : sink.limit = some limit)
    (written :
      sink.write text = .ok grown ∨ sink.write text = .error grown) :
    grown.limit = some limit ∧ grown.accepted.size ≤ limit := by
  simp only [write, limited] at written
  split at written <;> rename_i fits
  · rcases written with accepted | refused
    · cases accepted
      exact ⟨rfl, fits⟩
    · cases refused
  · rcases written with accepted | refused
    · cases accepted
    · cases refused
      exact ⟨rfl, by simp; omega⟩

end Sink

/-- The sinks of a run. -/
structure Sinks where
  out : Sink
  err : Sink
  deriving DecidableEq

namespace Sinks

/-- Sinks with the given limits that have accepted nothing yet. -/
def limited (outLimit errLimit : Option Nat) : Sinks where
  out := { limit := outLimit }
  err := { limit := errLimit }

/-- Sinks that accept everything. -/
def unlimited : Sinks :=
  limited none none

/-- Write a text to one of the sinks. -/
def write (sinks : Sinks) (channel : Channel) (text : String) :
    Except Sinks Sinks :=
  match channel with
  | .out =>
      match sinks.out.write text with
      | .ok grown => .ok { sinks with out := grown }
      | .error full => .error { sinks with out := full }
  | .err =>
      match sinks.err.write text with
      | .ok grown => .ok { sinks with err := grown }
      | .error full => .error { sinks with err := full }

/-- Write texts to one of the sinks, one after another. -/
def writeAll (sinks : Sinks) (channel : Channel) (texts : List String) :
    Except Sinks Sinks :=
  texts.foldlM (fun grown text => grown.write channel text) sinks

end Sinks

end Report

end IpBlocks
