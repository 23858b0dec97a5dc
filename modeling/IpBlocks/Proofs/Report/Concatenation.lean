import IpBlocks.Proofs.Report.Transcript

namespace IpBlocks

/-!
# Runs over targets in a row

Sinks without limits end with the whole transcript of a run.  The share of
each sink is what every single target adds to it (`Layout.entry`), in the
order of the targets, so two runs in a row write and count what one run over
all their targets does (`run_adds_up`).
-/

namespace Text

/-- The bytes of joined texts are those of each text in turn. -/
theorem toList_bytes_join (texts : List String) :
    (bytes (String.join texts)).toList =
      texts.flatMap fun text => (bytes text).toList := by
  induction texts with
  | nil =>
      rfl
  | cons text rest inductionHypothesis =>
      rw [String.join_cons, bytes_append, Array.toList_append,
        inductionHypothesis, List.flatMap_cons]

end Text

namespace Report

namespace Channel

/-- A sink's share of offers in several lists is its share of each list. -/
theorem share_flatMap
    {ι : Type}
    (channel : Channel)
    (offers : ι → List Offer)
    (items : List ι) :
    channel.share (items.flatMap offers) =
      items.flatMap fun item => channel.share (offers item) := by
  induction items with
  | nil =>
      rfl
  | cons item rest inductionHypothesis =>
      rw [List.flatMap_cons, share_append, inductionHypothesis,
        List.flatMap_cons]

end Channel

namespace Layout

/--
What a target adds to one of the sinks: to the results its lines, each with a
line feed behind it, if it is shown; to the refusals its report if it is
refused; and otherwise nothing.
-/
def entry (layout : Layout) (channel : Channel) (target : String) :
    String :=
  match channel, layout.mode.lines target with
  | .out, .ok lines => String.join (lines.map fun line => line ++ "\n")
  | .out, .error _ => ""
  | .err, .ok _ => ""
  | .err, .error fault =>
      layout.errorLabel ++ " " ++ target ++ ": " ++ fault.message ++ "\n"

/-- A sink's share of the offers for a target is what the target adds to it. -/
theorem share_offers
    (layout : Layout)
    (channel : Channel)
    (target : String) :
    channel.share (layout.offers target) =
      (Text.bytes (layout.entry channel target)).toList := by
  cases verdict : layout.mode.lines target with
  | ok lines =>
      cases channel with
      | out =>
          simp only [offers, entry, verdict, Text.toList_bytes_join,
            Channel.share_flatMap, List.flatMap_map, Channel.share_offers]
      | err =>
          simp only [offers, entry, verdict, Channel.share_flatMap,
            Channel.share_offers_other (show Channel.err ≠ .out by decide)]
          simp [Text.bytes]
  | error fault =>
      cases channel with
      | out =>
          simp only [offers, entry, verdict,
            Channel.share_offers_other (show Channel.out ≠ .err by decide)]
          rfl
      | err =>
          simp only [offers, entry, verdict, Channel.share_offers, refusal]

/-- A sink's share of a transcript is what the targets add to it in turn. -/
theorem share_transcript
    (layout : Layout)
    (channel : Channel)
    (targets : List String) :
    channel.share (layout.transcript targets) =
      (Text.bytes
        (String.join (targets.map (layout.entry channel)))).toList := by
  simp only [transcript, Channel.share_flatMap, share_offers,
    Text.toList_bytes_join, List.flatMap_map]

end Layout

/-- Sinks without limits have room for everything. -/
theorem Sinks.unlimited_admits (offers : List Offer) :
    unlimited.Admits offers :=
  ⟨fun _ limited => (nomatch limited), fun _ limited => (nomatch limited)⟩

/-- A run over sinks without limits ends with its whole transcript. -/
theorem run_unlimited (layout : Layout) (targets : List String) :
    run layout .unlimited targets =
      .ok
        ⟨layout.tally targets,
          Sinks.unlimited.taking (layout.transcript targets)⟩ := by
  rw [run_eq_feed layout (Sinks.unlimited_admits []),
    Sinks.feed_eq_ok (Sinks.unlimited_admits _)]
  rfl

/-- It leaves in each of them what the targets add to that sink in turn. -/
theorem exists_run_unlimited (layout : Layout) (targets : List String) :
    ∃ whole,
      run layout .unlimited targets = .ok whole ∧
        whole.tally = layout.tally targets ∧
          ∀ channel : Channel,
            (whole.sinks.on channel).accepted =
              Text.bytes
                (String.join (targets.map (layout.entry channel))) := by
  refine ⟨_, run_unlimited layout targets, rfl, fun channel => ?_⟩
  apply Array.toList_inj.mp
  rw [Sinks.on_taking, Sink.toList_accepted_grown,
    layout.share_transcript]
  cases channel <;> rfl

/--
A run over sinks without limits succeeds.  It counts its targets and the
refused ones among them, and leaves in each sink what the single targets add
to it, in their order.  So a run over two lists of targets in a row counts and
writes what a run over the first one and a run over the second one do.
-/
theorem run_adds_up (layout : Layout) :
    (∀ targets : List String,
      ∃ whole,
        run layout .unlimited targets = .ok whole ∧
          whole.tally.processed = targets.length ∧
          whole.tally.failed = (targets.filter layout.refuses).length ∧
          whole.sinks.out.accepted =
            Text.bytes (String.join (targets.map (layout.entry .out))) ∧
          whole.sinks.err.accepted =
            Text.bytes (String.join (targets.map (layout.entry .err)))) ∧
      ∀ one other : List String,
        ∃ first second joint,
          run layout .unlimited one = .ok first ∧
          run layout .unlimited other = .ok second ∧
          run layout .unlimited (one ++ other) = .ok joint ∧
          joint.sinks.out.accepted =
            first.sinks.out.accepted ++ second.sinks.out.accepted ∧
          joint.sinks.err.accepted =
            first.sinks.err.accepted ++ second.sinks.err.accepted ∧
          joint.tally.processed =
            first.tally.processed + second.tally.processed ∧
          joint.tally.failed =
            first.tally.failed + second.tally.failed := by
  constructor
  · intro targets
    obtain ⟨whole, ran, tally, left⟩ :=
      exists_run_unlimited layout targets
    refine ⟨whole, ran, ?_, ?_, left .out, left .err⟩
    · rw [tally, Layout.tally]
    · rw [tally, Layout.tally, List.countP_eq_length_filter]
  · intro one other
    obtain ⟨first, firstRan, firstTally, firstLeft⟩ :=
      exists_run_unlimited layout one
    obtain ⟨second, secondRan, secondTally, secondLeft⟩ :=
      exists_run_unlimited layout other
    obtain ⟨joint, jointRan, jointTally, jointLeft⟩ :=
      exists_run_unlimited layout (one ++ other)
    have joined :
        ∀ channel : Channel,
          (joint.sinks.on channel).accepted =
            (first.sinks.on channel).accepted ++
              (second.sinks.on channel).accepted := by
      intro channel
      rw [jointLeft, firstLeft, secondLeft, List.map_append,
        String.join_append, Text.bytes_append]
    rw [Layout.tally_append, ← firstTally, ← secondTally] at jointTally
    refine
      ⟨first, second, joint, firstRan, secondRan, jointRan, joined .out,
        joined .err, ?_, ?_⟩
    · rw [jointTally, Tally.add_eq]
    · rw [jointTally, Tally.add_eq]

end Report

end IpBlocks
