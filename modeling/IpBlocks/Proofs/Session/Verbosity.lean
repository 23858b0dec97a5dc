import IpBlocks.Proofs.CommandLine.Grammar
import IpBlocks.Proofs.Session.Ending
import IpBlocks.Proofs.Text.Lines
import IpBlocks.Proofs.Text.Numeral

namespace IpBlocks

/-!
# Sessions with and without verbose output

A switch for verbose output in front of a command line that has none changes
that one thing in its request (`CommandLine.read_verbose`).  Obstacles do not
depend on requests (`Session.Meets`), and targets are treated alike in both
sessions.  The refusals are a text of whole lines, so the two lines of a verbose
session stand around them as lines of their own
(`Session.verbosity_changes_no_result`).  In colour the two lines have a coloured
mark, and are lines of their own all the same.
-/

/-- A quiet command line is still read with a switch for verbose output in front. -/
theorem CommandLine.read_verbose
    {arguments : List String}
    {request : Request}
    (accepted : read arguments = .ok request)
    (quiet : request.verbose = false) :
    read ("-v" :: arguments) = .ok { request with verbose := true } := by
  obtain ⟨lead, behind, switches, makes⟩ := exists_parts accepted
  have noLead : lead = [] := by
    by_contra some
    have verbose := makes.verbose_iff.mpr (.inl some)
    rw [quiet] at verbose
    cases verbose
  have whole : "-v" :: arguments = ["-v"] ++ "netmask" :: behind := by
    rw [makes.whole, noLead]
    rfl
  have loud :
      Makes ("-v" :: arguments) { request with verbose := true } ["-v"] behind
        switches :=
    { makes with
      whole := whole
      lead_mem := by decide
      verbose_iff := iff_of_true rfl (.inl (List.cons_ne_nil _ _)) }
  exact loud.read_eq

/-- There is no line break in the name of a mode. -/
theorem Mode.breaks_notMem_name (mode : Mode) :
    '\n' ∉ mode.name.toList ∧ '\r' ∉ mode.name.toList := by
  match mode with
  | .cidr => decide
  | .range => decide
  | .styled style => cases style <;> decide

/-- The report of a refused target ends its line. -/
theorem Report.Layout.isEnded_entry_err (layout : Layout) (target : String) :
    Text.IsEnded (layout.entry .err target) := by
  cases verdict : layout.mode.lines target with
  | ok lines =>
      simp only [entry, verdict]
      exact .empty
  | error fault =>
      simp only [entry, verdict]
      exact .ended _

namespace Session

/-- The obstacle that every session meets in an environment on a platform. -/
inductive Meets (platform : Platform) (environment : Environment) :
    Obstacle → Prop where
  | settings
      {fault : SettingsFault}
      (refused : Settings.read environment = .error fault) :
      Meets platform environment (.settings fault)
  | logFilter
      {settings : Settings}
      {filter : String}
      (readable : Settings.read environment = .ok settings)
      (filtered : settings.logFilter = some filter)
      (refused : platform.isLogFilter filter = false) :
      Meets platform environment
        (.logFilter filter (platform.refusalCauses filter))

theorem Meets.run_eq
    {platform : Platform}
    {environment : Environment}
    {obstacle : Obstacle}
    (meets : Meets platform environment obstacle)
    (request : CommandLine.Request) :
    run environment request platform = .fatal obstacle := by
  cases meets with
  | settings refused =>
      exact run_of_settings_refused refused platform request
  | logFilter readable filtered refused =>
      exact run_of_filter_refused readable filtered refused request

/-- Sessions meet an obstacle, or their settings are usable. -/
theorem meets_or_usable (platform : Platform) (environment : Environment) :
    (∃ obstacle, Meets platform environment obstacle) ∨
      ∃ settings,
        Settings.read environment = .ok settings ∧
          Usable platform settings := by
  cases readable : Settings.read environment with
  | error fault =>
      exact .inl ⟨_, .settings readable⟩
  | ok settings =>
      rcases usable_or_refused platform settings with
        usable | ⟨filter, filtered, refused⟩
      · exact .inr ⟨settings, rfl, usable⟩
      · exact .inl ⟨_, .logFilter readable filtered refused⟩

/--
What a verbose session leaves on its stream for refusals: the line that names
the mode, what a quiet session leaves, and the line that counts the targets and
the refused ones among them.
-/
structure IsFramed
    (layout : Report.Layout)
    (targets : List String)
    (quiet loud : String) : Prop where
  text_eq :
    let failed := targets.countP fun target => !(layout.mode.lines target).isOk
    loud =
      modeLine layout ++ quiet ++ tallyLine layout ⟨targets.length, failed⟩
  lines_eq :
    let failed := targets.countP fun target => !(layout.mode.lines target).isOk
    Text.lines loud =
      (noteMark layout ++ " Netmask mode: " ++ layout.mode.name) ::
        (Text.lines quiet ++
          [noteMark layout ++ " Processed " ++ toString targets.length ++
            " targets, " ++ toString failed ++ " failed"])

section

variable (layout : Report.Layout)

/-- There is no line break in the mark of a note. -/
theorem breaks_notMem_noteMark :
    '\n' ∉ (noteMark layout).toList ∧ '\r' ∉ (noteMark layout).toList := by
  cases colored : layout.colored <;> simp [noteMark, colored]

theorem modeLine_eq :
    modeLine layout =
      noteMark layout ++ " Netmask mode: " ++ layout.mode.name ++ "\n" :=
  rfl

theorem lines_modeLine :
    Text.lines (modeLine layout) =
      [noteMark layout ++ " Netmask mode: " ++ layout.mode.name] := by
  obtain ⟨markFeed, markReturn⟩ := breaks_notMem_noteMark layout
  obtain ⟨nameFeed, nameReturn⟩ := layout.mode.breaks_notMem_name
  rw [modeLine_eq]
  apply Text.lines_ended
  · simp [markFeed, nameFeed]
  · simp [markReturn, nameReturn]

theorem tallyLine_eq (tally : Report.Tally) :
    tallyLine layout tally =
      noteMark layout ++ " Processed " ++ toString tally.processed ++
        " targets, " ++ toString tally.failed ++ " failed" ++ "\n" := by
  have final : " failed\n" = " failed" ++ "\n" := by
    decide
  change
    noteMark layout ++ " Processed " ++ toString tally.processed ++
        " targets, " ++ toString tally.failed ++ " failed\n" = _
  rw [final, ← String.append_assoc]

theorem lines_tallyLine (tally : Report.Tally) :
    Text.lines (tallyLine layout tally) =
      [noteMark layout ++ " Processed " ++ toString tally.processed ++
        " targets, " ++ toString tally.failed ++ " failed"] := by
  have noFeed : ∀ number : Nat, '\n' ∉ Nat.toDigits 10 number :=
    Numeral.notMem_toDigits (by decide) (by decide)
  have noReturn : ∀ number : Nat, '\r' ∉ Nat.toDigits 10 number :=
    Numeral.notMem_toDigits (by decide) (by decide)
  obtain ⟨markFeed, markReturn⟩ := breaks_notMem_noteMark layout
  rw [tallyLine_eq]
  apply Text.lines_ended
  · simp [markFeed, noFeed]
  · simp [markReturn, noReturn]

/-- The two lines of a verbose session stand around whole lines of refusals. -/
theorem isFramed_treat (targets : List String) :
    IsFramed layout targets (treat layout false targets).stderr
      (treat layout true targets).stderr := by
  have ended :
      Text.IsEnded (treat layout false targets).stderr := by
    rw [treat_eq]
    apply Text.IsEnded.join
    intro entry member
    obtain ⟨target, -, rfl⟩ := List.mem_map.mp member
    exact Report.Layout.isEnded_entry_err _ target
  have framed :
      (treat layout true targets).stderr =
        modeLine layout ++ (treat layout false targets).stderr ++
          tallyLine layout (layout.tally targets) := by
    rw [treat_eq, treat_eq]
    rfl
  refine ⟨framed, ?_⟩
  have modeEnded : Text.IsEnded (modeLine layout) :=
    modeLine_eq layout ▸ .ended _
  rw [framed, (modeEnded.append ended).lines_append, modeEnded.lines_append,
    lines_modeLine, lines_tallyLine]
  rfl

/-- Treating targets leaves the same results and exit code with verbose output. -/
theorem treat_verbose (targets : List String) :
    (treat layout true targets).stdout = (treat layout false targets).stdout ∧
      (treat layout true targets).exitCode =
        (treat layout false targets).exitCode := by
  rw [treat_eq, treat_eq]
  exact ⟨rfl, rfl⟩

end

/--
A command line without a switch for verbose output makes the same request with
one in front, but for the verbosity.  Its session then has the same results and
the same exit code.

What it leaves on the stream for refusals is the same as well if the
environment is refused.  Otherwise a line that names the mode is added in front,
and a line that counts the targets and the refused ones among them at the end.
-/
theorem verbosity_changes_no_result
    (platform : Platform)
    (environment : Environment)
    {arguments : List String}
    {request : CommandLine.Request}
    (accepted : CommandLine.read arguments = .ok request)
    (quiet : request.verbose = false) :
    ∃ loud ending loudEnding,
      loud.verbose = true ∧
      loud.flag = request.flag ∧
      loud.targets = request.targets ∧
      start environment arguments platform = .ok (request, ending) ∧
      start environment ("-v" :: arguments) platform =
        .ok (loud, loudEnding) ∧
      loudEnding.stdout = ending.stdout ∧
      loudEnding.exitCode = ending.exitCode ∧
      ((∃ obstacle,
          Meets platform environment obstacle ∧
            ending = .fatal obstacle ∧
              loudEnding.stderr = ending.stderr) ∨
        ∃ settings mode,
          Settings.read environment = .ok settings ∧
            Usable platform settings ∧
              Mode.Chosen request.flag settings.defaultMode mode ∧
                IsFramed ⟨mode, platform.colored⟩ request.targets
                  ending.stderr loudEnding.stderr) := by
  have loudAccepted := CommandLine.read_verbose accepted quiet
  refine
    ⟨{ request with verbose := true }, run environment request platform,
      run environment { request with verbose := true } platform, rfl, rfl, rfl,
      ?_, ?_, ?_⟩
  · exact start_of_read accepted environment platform
  · exact start_of_read loudAccepted environment platform
  · rcases meets_or_usable platform environment with
      ⟨obstacle, meets⟩ | ⟨settings, readable, usable⟩
    · rw [meets.run_eq, meets.run_eq]
      exact ⟨rfl, rfl, .inl ⟨obstacle, meets, rfl, rfl⟩⟩
    · obtain ⟨mode, chosen⟩ := Settings.exists_chosen readable request.flag
      have quietRun := run_of_usable readable usable chosen
      rw [quiet] at quietRun
      let layout : Report.Layout := ⟨mode, platform.colored⟩
      have loudRun :
          run environment { request with verbose := true } platform =
            treat layout true request.targets :=
        run_of_usable readable usable chosen
      obtain ⟨sameResults, sameCode⟩ := treat_verbose layout request.targets
      rw [quietRun, loudRun]
      exact
        ⟨sameResults, sameCode,
          .inr
            ⟨settings, mode, readable, usable, chosen,
              isFramed_treat layout request.targets⟩⟩

/-- A target that is shown and one that is refused, and the same in a refused environment. -/
theorem verbosity_changes_no_result_around_refusal :
    let unset := Settings.environmentOf none none
    let blank := Settings.environmentOf (some " ") none
    let arguments := ["netmask", "1.2.3.4/9", "-r", "x"]
    let request : CommandLine.Request :=
      ⟨false, some .range, ["1.2.3.4/9", "x"]⟩
    CommandLine.read arguments = .ok request ∧
      request.verbose = false ∧
      (∃ loud ending loudEnding,
        start unset arguments = .ok (request, ending) ∧
          start unset ("-v" :: arguments) = .ok (loud, loudEnding) ∧
          loudEnding.stdout = ending.stdout ∧
          loudEnding.exitCode = ending.exitCode ∧
          IsFramed ⟨.range, false⟩ request.targets ending.stderr
            loudEnding.stderr) ∧
      ∃ loud ending loudEnding,
        start blank arguments = .ok (request, ending) ∧
          start blank ("-v" :: arguments) = .ok (loud, loudEnding) ∧
          ending = .fatal (.settings .blankLogFilter) ∧
          loudEnding.stderr = ending.stderr := by
  intro unset blank arguments request
  have accepted : CommandLine.read arguments = .ok request := by
    decide +kernel
  have unsetReads : Settings.read unset = .ok ⟨none, none⟩ := by
    decide +kernel
  have blankRefused : Settings.read blank = .error .blankLogFilter := by
    decide +kernel
  refine ⟨accepted, rfl, ?_, ?_⟩
  · obtain ⟨loud, ending, loudEnding, -, -, -, started, loudStarted, results,
      code, ⟨_, meets, -, -⟩ | ⟨settings, mode, -, -, chosen, framed⟩⟩ :=
      verbosity_changes_no_result .plain unset accepted rfl
    · cases meets with
      | settings refused =>
          rw [unsetReads] at refused
          cases refused
      | logFilter readable filtered refused =>
          rw [unsetReads] at readable
          cases readable
          cases filtered
    · cases chosen
      exact
        ⟨loud, ending, loudEnding, started, loudStarted, results, code,
          framed⟩
  · obtain ⟨loud, ending, loudEnding, -, -, -, started, loudStarted, -, -,
      ⟨_, meets, ends, same⟩ | ⟨settings, mode, readable, -⟩⟩ :=
      verbosity_changes_no_result .plain blank accepted rfl
    · cases meets with
      | settings refused =>
          rw [blankRefused] at refused
          cases refused
          exact
            ⟨loud, ending, loudEnding, started, loudStarted, ends, same⟩
      | logFilter readable filtered refused =>
          rw [blankRefused] at readable
          cases readable
    · rw [blankRefused] at readable
      cases readable

end Session

end IpBlocks
