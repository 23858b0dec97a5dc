import IpBlocks.Mode
import IpBlocks.Report.Sink

namespace IpBlocks

/-!
# Runs

A run treats its targets in order. The lines of a target are written only
once all of them are known; a refused target is reported in one entry, and the
run goes on with the next one. A run ends early only when a sink refuses a
byte.
-/

namespace Report

/-- How many targets were treated, and how many of them were refused. -/
structure Tally where
  processed : Nat
  failed : Nat
  deriving DecidableEq, Repr

/-- How far a run has come. -/
structure Progress where
  tally : Tally
  sinks : Sinks
  deriving DecidableEq

/-- What is shown of blocks, and whether the word before a refusal is red. -/
structure Layout where
  mode : Mode
  colored : Bool
  deriving DecidableEq, Repr

namespace Layout

/-- The word before a refusal. -/
def errorLabel (layout : Layout) : String :=
  if layout.colored then "\x1b[31merror:\x1b[0m" else "error:"

/-- The report of a refused target. -/
def refusal (layout : Layout) (target : String) (fault : Fault) : String :=
  layout.errorLabel ++ " " ++ target ++ ": " ++ fault.message ++ "\n"

end Layout

/-- Treat one target. -/
def treat (layout : Layout) (progress : Progress) (target : String) :
    Except Sinks Progress :=
  let tally := progress.tally
  match layout.mode.lines target with
  | .ok lines => do
      let sinks ←
        progress.sinks.writeAll .out (lines.map fun line => line ++ "\n")
      return ⟨{ tally with processed := tally.processed + 1 }, sinks⟩
  | .error fault => do
      let sinks ←
        progress.sinks.write .err (layout.refusal target fault)
      return ⟨⟨tally.processed + 1, tally.failed + 1⟩, sinks⟩

/--
Treat targets in order, writing to the given sinks.

The run fails with what the sinks hold when one of them refuses a byte.
-/
def run (layout : Layout) (sinks : Sinks) (targets : List String) :
    Except Sinks Progress :=
  targets.foldlM (treat layout) ⟨⟨0, 0⟩, sinks⟩

end Report

end IpBlocks
