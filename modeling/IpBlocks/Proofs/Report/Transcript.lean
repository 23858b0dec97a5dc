import IpBlocks.Proofs.Report.Offers
import IpBlocks.Report.Run

namespace IpBlocks

/-!
# Transcripts

The transcript of a run is all that the run offers to its sinks: the bytes of
the lines of each target that is shown and of the report of each target that
is refused, in the order of the targets, each byte with the sink that it is
meant for.  It depends on the targets and on nothing that was written before.

A run does to its sinks what its transcript does to them, byte after byte
(`run_eq_feed`).
-/

namespace Report

/-- Tallies of two runs are added up number by number. -/
instance : Add Tally where
  add one other :=
    ⟨one.processed + other.processed, one.failed + other.failed⟩

namespace Tally

theorem add_eq (one other : Tally) :
    one + other =
      ⟨one.processed + other.processed, one.failed + other.failed⟩ :=
  rfl

/-- A tally in which nothing was treated adds nothing. -/
theorem zero_add (tally : Tally) :
    ⟨0, 0⟩ + tally = tally := by
  simp only [add_eq, Nat.zero_add]

theorem add_assoc (one other third : Tally) :
    one + other + third = one + (other + third) := by
  simp only [add_eq, Nat.add_assoc]

end Tally

namespace Layout

/-- Whether a target is refused. -/
def refuses (layout : Layout) (target : String) : Bool :=
  !(layout.mode.lines target).isOk

/-- What is offered to the sinks for a target. -/
def offers (layout : Layout) (target : String) : List Offer :=
  match layout.mode.lines target with
  | .ok lines =>
      lines.flatMap fun line => Channel.out.offers (line ++ "\n")
  | .error fault =>
      Channel.err.offers (layout.refusal target fault)

/-- What is offered to the sinks for targets, one after another. -/
def transcript (layout : Layout) (targets : List String) : List Offer :=
  targets.flatMap layout.offers

/-- How many targets there are, and how many of them are refused. -/
def tally (layout : Layout) (targets : List String) : Tally where
  processed :=
    targets.length
  failed :=
    targets.countP layout.refuses

theorem refuses_of_ok
    {layout : Layout}
    {target : String}
    {lines : List String}
    (verdict : layout.mode.lines target = .ok lines) :
    layout.refuses target = false := by
  rw [refuses, verdict]
  rfl

theorem refuses_of_error
    {layout : Layout}
    {target : String}
    {fault : Fault}
    (verdict : layout.mode.lines target = .error fault) :
    layout.refuses target = true := by
  rw [refuses, verdict]
  rfl

theorem transcript_append
    (layout : Layout)
    (front back : List String) :
    layout.transcript (front ++ back) =
      layout.transcript front ++ layout.transcript back :=
  List.flatMap_append

theorem tally_append (layout : Layout) (front back : List String) :
    layout.tally (front ++ back) =
      layout.tally front + layout.tally back := by
  simp only [tally, List.length_append, List.countP_append]
  rfl

end Layout

/-- Treating a target feeds the sinks its offers, and counts it. -/
theorem treat_eq_feed
    (layout : Layout)
    {progress : Progress}
    (sound : progress.sinks.Admits [])
    (target : String) :
    treat layout progress target =
      (progress.sinks.feed (layout.offers target)).map fun grown =>
        ⟨progress.tally + layout.tally [target], grown⟩ := by
  cases verdict : layout.mode.lines target with
  | ok lines =>
      have counted : layout.tally [target] = ⟨1, 0⟩ := by
        simp [Layout.tally, Layout.refuses_of_ok verdict]
      have written :=
        Sinks.writeAll_eq_feed sound .out
          (lines.map fun line => line ++ "\n")
      rw [List.flatMap_map] at written
      simp only [treat, verdict, Layout.offers, written, counted]
      cases progress.sinks.feed _ <;> rfl
  | error fault =>
      have counted : layout.tally [target] = ⟨1, 1⟩ := by
        simp [Layout.tally, Layout.refuses_of_error verdict]
      have written :=
        Sinks.write_eq_feed sound .err (layout.refusal target fault)
      simp only [treat, verdict, Layout.offers, written, counted]
      cases progress.sinks.feed _ <;> rfl

/-- What a run does from any progress on. -/
theorem foldlM_treat_eq_feed
    (layout : Layout)
    {progress : Progress}
    (sound : progress.sinks.Admits [])
    (targets : List String) :
    targets.foldlM (treat layout) progress =
      (progress.sinks.feed (layout.transcript targets)).map fun grown =>
        ⟨progress.tally + layout.tally targets, grown⟩ := by
  induction targets generalizing progress with
  | nil =>
      rfl
  | cons target rest inductionHypothesis =>
      rw [← List.singleton_append, Layout.transcript_append,
        Sinks.feed_append, Layout.tally_append, List.singleton_append,
        List.foldlM_cons, treat_eq_feed layout sound target]
      have offered : layout.transcript [target] = layout.offers target :=
        List.flatMap_singleton _ _
      rw [offered]
      cases fed : progress.sinks.feed (layout.offers target) with
      | error full =>
          rfl
      | ok grown =>
          have grownSound := Sinks.feed_sound sound fed
          rw [← Tally.add_assoc]
          exact inductionHypothesis grownSound

/-- A run feeds its sinks its transcript, and counts the targets. -/
theorem run_eq_feed
    (layout : Layout)
    {sinks : Sinks}
    (sound : sinks.Admits [])
    (targets : List String) :
    run layout sinks targets =
      (sinks.feed (layout.transcript targets)).map fun grown =>
        ⟨layout.tally targets, grown⟩ := by
  rw [← Tally.zero_add (layout.tally targets)]
  exact foldlM_treat_eq_feed layout sound targets

end Report

end IpBlocks
