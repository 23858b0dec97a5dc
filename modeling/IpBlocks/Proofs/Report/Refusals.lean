import IpBlocks.Proofs.Report.Concatenation
import IpBlocks.Proofs.Target.Quoting
import IpBlocks.Proofs.Text.Lines
import Mathlib.Data.List.Forall2

namespace IpBlocks

/-!
# Reports of refused targets

A run leaves one report for each refused target, in the order of the targets,
with a line feed behind it.  A report quotes the target as it stands, and apart
from what it quotes it holds no line feed.

So the reports are the lines of the refusals as long as no refused target holds
a line feed, and only then: otherwise there are more lines than refused targets,
and a reader cannot tell which lines belong together
(`Report.refusals_are_lines_iff`).
-/

namespace Report

namespace Layout

/-- A text is the report of a refused target, without the line feed behind it. -/
def IsReport (layout : Layout) (target report : String) : Prop :=
  ∃ fault,
    layout.mode.lines target = .error fault ∧
      report =
        layout.errorLabel ++ " " ++ target ++ ": " ++ fault.message

variable {layout : Layout} {target report : String}

/-- Every refused target has a report, which is all that it adds to the refusals. -/
theorem exists_isReport (refused : layout.refuses target = true) :
    ∃ report,
      layout.IsReport target report ∧
        layout.entry .err target = report ++ "\n" := by
  cases verdict : layout.mode.lines target with
  | ok lines =>
      rw [refuses_of_ok verdict] at refused
      cases refused
  | error fault =>
      exact ⟨_, ⟨fault, verdict, rfl⟩, by simp only [entry, verdict]⟩

/-- Other targets add nothing to the refusals. -/
theorem entry_err_of_shown (shown : layout.refuses target ≠ true) :
    layout.entry .err target = "" := by
  cases verdict : layout.mode.lines target with
  | ok lines =>
      simp only [entry, verdict]
  | error fault =>
      exact absurd (refuses_of_error verdict) shown

/-- A report holds a line feed exactly if its target does. -/
theorem IsReport.feed_mem_iff (isReport : layout.IsReport target report) :
    '\n' ∈ report.toList ↔ '\n' ∈ target.toList := by
  obtain ⟨fault, refused, rfl⟩ := isReport
  have fromTarget :
      '\n' ∈ fault.message.toList → '\n' ∈ target.toList := by
    intro inMessage
    rcases Mode.message_quotes refused '\n' inMessage with
      inTarget | printable
    · exact inTarget
    · exact absurd printable (by decide)
  have notInLabel : '\n' ∉ layout.errorLabel.toList := by
    cases colored : layout.colored <;> simp [errorLabel, colored]
  simp only [String.toList_append, List.mem_append]
  constructor
  · rintro ((((inLabel | inBlank) | inTarget) | inMark) | inMessage)
    · exact absurd inLabel notInLabel
    · exact absurd inBlank (by decide)
    · exact inTarget
    · exact absurd inMark (by decide)
    · exact fromTarget inMessage
  · intro inTarget
    exact .inl (.inl (.inr inTarget))

/-- The refusals of a run are the reports of the refused targets, in their order. -/
theorem exists_reports (layout : Layout) (targets : List String) :
    ∃ reports,
      List.Forall₂ layout.IsReport (targets.filter layout.refuses) reports ∧
        String.join (targets.map (layout.entry .err)) =
          String.join (reports.map fun report => report ++ "\n") := by
  induction targets with
  | nil =>
      exact ⟨[], .nil, rfl⟩
  | cons target rest inductionHypothesis =>
      obtain ⟨reports, reported, joined⟩ := inductionHypothesis
      rw [List.map_cons, String.join_cons, joined]
      by_cases refused : layout.refuses target = true
      · obtain ⟨report, isReport, added⟩ := exists_isReport refused
        refine ⟨report :: reports, ?_, ?_⟩
        · rw [List.filter_cons_of_pos refused]
          exact .cons isReport reported
        · rw [added, List.map_cons, String.join_cons]
      · refine ⟨reports, ?_, ?_⟩
        · rw [List.filter_cons_of_neg refused]
          exact reported
        · rw [entry_err_of_shown refused, String.empty_append]

/-- The reports are single lines exactly if no target they are about holds a line feed. -/
theorem unbroken_iff
    {targets reports : List String}
    (reported : List.Forall₂ layout.IsReport targets reports) :
    (∀ report ∈ reports, '\n' ∉ report.toList) ↔
      ∀ target ∈ targets, '\n' ∉ target.toList := by
  induction reported with
  | nil =>
      simp
  | cons isReport _ inductionHypothesis =>
      rw [List.forall_mem_cons, List.forall_mem_cons, inductionHypothesis,
        isReport.feed_mem_iff]

end Layout

/--
The refusals of a run are the reports of its refused targets, each with a line
feed behind it, in the order of the targets.

They consist of exactly these lines if no refused target holds a line feed, and
otherwise they do not even consist of as many lines as there are refused targets.
-/
theorem refusals_are_lines_iff (layout : Layout) (targets : List String) :
    ∃ (whole : Progress) (refusals : String) (reports : List String),
      run layout .unlimited targets = .ok whole ∧
      whole.sinks.err.accepted = Text.bytes refusals ∧
      refusals = String.join (reports.map fun report => report ++ "\n") ∧
      List.Forall₂ layout.IsReport (targets.filter layout.refuses) reports ∧
      reports.length = whole.tally.failed ∧
      (Text.ConsistsOfLines refusals reports ↔
        ∀ target ∈ targets,
          layout.refuses target = true → '\n' ∉ target.toList) ∧
      ((∃ lines,
          Text.ConsistsOfLines refusals lines ∧
            lines.length = whole.tally.failed) ↔
        ∀ target ∈ targets,
          layout.refuses target = true → '\n' ∉ target.toList) := by
  obtain ⟨whole, ran, tally, left⟩ := exists_run_unlimited layout targets
  obtain ⟨reports, reported, joined⟩ := layout.exists_reports targets
  have counted : reports.length = whole.tally.failed := by
    rw [tally, ← reported.length_eq, Layout.tally,
      List.countP_eq_length_filter]
  have unbroken_iff :
      (∀ report ∈ reports, '\n' ∉ report.toList) ↔
        ∀ target ∈ targets,
          layout.refuses target = true → '\n' ∉ target.toList := by
    rw [Layout.unbroken_iff reported]
    simp only [List.mem_filter, and_imp]
  have consists_iff :
      Text.ConsistsOfLines
          (String.join (targets.map (layout.entry .err))) reports ↔
        ∀ target ∈ targets,
          layout.refuses target = true → '\n' ∉ target.toList := by
    rw [← unbroken_iff]
    exact ⟨fun consists => consists.unbroken, fun unbroken => ⟨joined, unbroken⟩⟩
  refine
    ⟨whole, _, reports, ran, left .err, joined, reported, counted,
      consists_iff, ?_⟩
  constructor
  · rintro ⟨lines, consists, asMany⟩
    have feeds := consists.count_eq
    rw [joined, asMany, ← counted] at feeds
    exact unbroken_iff.mp (Text.count_join_eq_length_iff.mp feeds)
  · intro unbroken
    exact ⟨reports, consists_iff.mpr unbroken, counted⟩

/-- A refused target with a line feed in it leaves more than the one line of its report. -/
theorem refusal_across_line_feed_is_no_line :
    let layout : Layout := ⟨.cidr, false⟩
    let target := "a\nb"
    let refusals := "error: a\nb: Invalid IP address: a\nb\n"
    ∃ whole,
      run layout .unlimited [target] = .ok whole ∧
        whole.sinks.err.accepted = Text.bytes refusals ∧
          whole.tally.failed = 1 ∧
            ¬ ∃ lines,
              Text.ConsistsOfLines refusals lines ∧
                lines.length = whole.tally.failed ∧
                  List.Forall₂ layout.IsReport
                    ([target].filter layout.refuses) lines := by
  intro layout target refusals
  obtain ⟨whole, ran, tally, left⟩ := exists_run_unlimited layout [target]
  have leftRefusals :
      String.join ([target].map (layout.entry .err)) = refusals := by
    decide +kernel
  have failed : whole.tally.failed = 1 := by
    rw [tally]
    decide +kernel
  refine ⟨whole, ran, leftRefusals ▸ left .err, failed, ?_⟩
  rintro ⟨lines, consists, asMany, -⟩
  have feeds : refusals.toList.count '\n' = 3 := by
    decide +kernel
  rw [consists.count_eq, asMany, failed] at feeds
  exact absurd feeds (by decide)

end Report

end IpBlocks
