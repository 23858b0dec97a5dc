import IpBlocks.Proofs.Outcome
import IpBlocks.Proofs.Report.Concatenation
import IpBlocks.Session
import Mathlib.Data.List.Forall2

namespace IpBlocks

/-!
# How sessions end

A session meets its obstacles in a fixed order: settings that are refused, then
a log filter that is none.  Neither depends on the request, so such a session
treats no target.  Settings that are read name a mode or no mode at all
(`Settings.exists_chosen`), so there is no third obstacle, and sinks without
limits refuse nothing.  All of this holds on every platform: whatever texts the
log library takes for filters, whatever is printed about its causes, and with
and without colours.

Every other session therefore treats all its targets and tells by its exit code
whether all of them were shown (`Session.treat_completes`).
-/

namespace Mode

/-- The mode of a run: that of the flag, else the configured one, else blocks as their texts. -/
inductive Chosen : Option Mode → Option String → Mode → Prop where
  | byFlag (mode : Mode) (configured : Option String) :
      Chosen (some mode) configured mode
  | byName (mode : Mode) :
      Chosen none (some mode.name) mode
  | byDefault :
      Chosen none none .cidr

theorem mem_all (mode : Mode) :
    mode ∈ all := by
  match mode with
  | .cidr => decide
  | .range => decide
  | .styled style => cases style <;> decide

/-- A mode is read from its own name. -/
theorem parse_name (mode : Mode) :
    parse mode.name = .ok mode := by
  match mode with
  | .cidr => decide +kernel
  | .range => decide +kernel
  | .styled style => cases style <;> decide +kernel

theorem Chosen.resolve_eq
    {flag : Option Mode}
    {configured : Option String}
    {mode : Mode}
    (chosen : Chosen flag configured mode) :
    resolve flag configured = .ok mode := by
  cases chosen with
  | byFlag => rfl
  | byName => exact mode.parse_name
  | byDefault => rfl

end Mode

namespace Settings

theorem modeNames_eq : modeNames = Mode.all.map Mode.name := rfl

/-- The names a default mode may have are the names of the modes. -/
theorem mem_modeNames_iff {name : String} :
    name ∈ modeNames ↔ ∃ mode : Mode, name = mode.name := by
  rw [modeNames_eq, List.mem_map]
  constructor
  · rintro ⟨mode, -, rfl⟩
    exact ⟨mode, rfl⟩
  · rintro ⟨mode, rfl⟩
    exact ⟨mode, mode.mem_all, rfl⟩

/-- A default mode that is read is kept as the name of a mode. -/
theorem exists_mode_of_readDefaultMode
    {value name : String}
    (readable : readDefaultMode value = .ok name) :
    ∃ mode : Mode, mode.name = name := by
  rw [readDefaultMode] at readable
  split at readable
  · rename_i listed
    obtain ⟨mode, named⟩ := mem_modeNames_iff.mp listed
    exact ⟨mode, named.symm.trans (Except.ok.inj readable)⟩
  · cases readable

/-- Settings are read if each variable is. -/
theorem read_eq_ok_iff
    {environment : Environment}
    {settings : Settings} :
    read environment = .ok settings ↔
      readIfSet readLogFilter (environment logVariable) =
          .ok settings.logFilter ∧
        readIfSet readDefaultMode (environment modeVariable) =
          .ok settings.defaultMode := by
  rw [read]
  cases readIfSet readLogFilter (environment logVariable) with
  | error fault =>
      simp
  | ok logFilter =>
      cases readIfSet readDefaultMode (environment modeVariable) with
      | error fault =>
          simp
      | ok defaultMode =>
          cases settings
          simp

/-- Settings that are read name a mode, if they name anything. -/
theorem exists_mode_of_read
    {environment : Environment}
    {settings : Settings}
    (readable : read environment = .ok settings)
    {name : String}
    (configured : settings.defaultMode = some name) :
    ∃ mode : Mode, mode.name = name := by
  have named := (read_eq_ok_iff.mp readable).2
  rw [configured] at named
  cases present : environment modeVariable with
  | none =>
      rw [present] at named
      cases named
  | some value =>
      rw [present] at named
      obtain ⟨stored, isRead, ⟨⟩⟩ := Outcome.map_eq_ok_iff.mp named
      exact exists_mode_of_readDefaultMode isRead

/-- With settings that are read, every flag and no flag alike leads to a mode. -/
theorem exists_chosen
    {environment : Environment}
    {settings : Settings}
    (readable : read environment = .ok settings)
    (flag : Option Mode) :
    ∃ mode, Mode.Chosen flag settings.defaultMode mode := by
  cases flag with
  | some mode =>
      exact ⟨mode, .byFlag mode _⟩
  | none =>
      cases configured : settings.defaultMode with
      | none =>
          exact ⟨.cidr, .byDefault⟩
      | some name =>
          obtain ⟨mode, rfl⟩ := exists_mode_of_read readable configured
          exact ⟨mode, .byName mode⟩

end Settings

namespace Report.Layout

/-- If no target is refused, the results are the lines of all targets. -/
theorem exists_pages
    (layout : Layout)
    {targets : List String}
    (shown :
      ∀ target ∈ targets, ∃ lines, layout.mode.lines target = .ok lines) :
    ∃ pages : List (List String),
      List.Forall₂ (fun target page => layout.mode.lines target = .ok page)
          targets pages ∧
        String.join (targets.map (layout.entry .out)) =
          String.join (pages.flatten.map fun line => line ++ "\n") := by
  induction targets with
  | nil =>
      exact ⟨[], .nil, rfl⟩
  | cons target rest inductionHypothesis =>
      obtain ⟨⟨page, shownFirst⟩, shownRest⟩ :=
        List.forall_mem_cons.mp shown
      obtain ⟨pages, paged, joined⟩ := inductionHypothesis shownRest
      refine ⟨page :: pages, .cons shownFirst paged, ?_⟩
      have added :
          layout.entry .out target =
            String.join (page.map fun line => line ++ "\n") := by
        simp only [entry, shownFirst]
      rw [List.map_cons, String.join_cons, joined, added,
        List.flatten_cons, List.map_append, String.join_append]

/-- No target is refused exactly if every target has lines. -/
theorem failed_tally_eq_zero_iff
    (layout : Layout)
    (targets : List String) :
    (layout.tally targets).failed = 0 ↔
      ∀ target ∈ targets, ∃ lines, layout.mode.lines target = .ok lines := by
  rw [tally, List.countP_eq_zero]
  apply forall₂_congr
  intro target _
  cases verdict : layout.mode.lines target with
  | ok lines =>
      simp [refuses_of_ok verdict]
  | error fault =>
      simp [refuses_of_error verdict]

end Report.Layout

namespace Session

/-- A session that treats all of some targets in some layout. -/
structure Completes
    (layout : Report.Layout)
    (targets : List String)
    (ending : Ending) : Prop where
  stdout_eq :
    ∃ progress,
      Report.run layout .unlimited targets = .ok progress ∧
        ending.stdout = progress.sinks.out.text
  exitCode_eq :
    ending.exitCode = 0 ∨ ending.exitCode = 1
  exitCode_eq_zero_iff :
    ending.exitCode = 0 ↔
      ∀ target ∈ targets, ∃ lines, layout.mode.lines target = .ok lines
  shown_in_full :
    ending.exitCode = 0 →
      ∃ pages : List (List String),
        List.Forall₂ (fun target page => layout.mode.lines target = .ok page)
            targets pages ∧
          ending.stdout =
            String.join (pages.flatten.map fun line => line ++ "\n")

/-- Treating targets counts them, and leaves what each of them adds. -/
theorem treat_eq
    (layout : Report.Layout)
    (verbose : Bool)
    (targets : List String) :
    let refusals := String.join (targets.map (layout.entry .err))
    treat layout verbose targets =
      { exitCode := if (layout.tally targets).failed = 0 then 0 else 1
        stdout := String.join (targets.map (layout.entry .out))
        stderr :=
          if verbose then
            modeLine layout ++ refusals ++
              tallyLine layout (layout.tally targets)
          else
            refusals } := by
  intro refusals
  obtain ⟨whole, ran, tally, left⟩ :=
    Report.exists_run_unlimited layout targets
  have written :
      ∀ channel : Report.Channel,
        (whole.sinks.on channel).text =
          String.join (targets.map (layout.entry channel)) := by
    intro channel
    rw [Report.Sink.text, left, Text.ofBytes_bytes]
  have out : whole.sinks.out.text = _ := written .out
  have err : whole.sinks.err.text = _ := written .err
  simp only [treat, ran, out, err, tally, refusals]

/-- A session that treats its targets completes. -/
theorem treat_completes
    (layout : Report.Layout)
    (verbose : Bool)
    (targets : List String) :
    Completes layout targets (treat layout verbose targets) := by
  have failed := layout.failed_tally_eq_zero_iff targets
  have exitCode :
      (treat layout verbose targets).exitCode =
        if (layout.tally targets).failed = 0 then 0 else 1 := by
    rw [treat_eq]
  have zero_iff :
      (treat layout verbose targets).exitCode = 0 ↔
        ∀ target ∈ targets, ∃ lines, layout.mode.lines target = .ok lines := by
    rw [exitCode]
    split
    · rename_i noneFailed
      exact iff_of_true rfl (failed.mp noneFailed)
    · rename_i someFailed
      exact
        iff_of_false (by decide) fun shown => someFailed (failed.mpr shown)
  have stdout :
      (treat layout verbose targets).stdout =
        String.join (targets.map (layout.entry .out)) := by
    rw [treat_eq]
  refine ⟨?_, ?_, zero_iff, ?_⟩
  · obtain ⟨whole, ran, -⟩ :=
      Report.exists_run_unlimited layout targets
    refine ⟨whole, ran, ?_⟩
    simp only [treat, ran]
  · rw [exitCode]
    split
    · exact .inl rfl
    · exact .inr rfl
  · intro success
    rw [stdout]
    exact layout.exists_pages (zero_iff.mp success)

/-- What is left of a session whose log filter is none. -/
theorem Ending.fatal_logFilter (filter causes : String) :
    Ending.fatal (.logFilter filter causes) =
      ⟨1, "",
        "Error: Invalid NETTOOLS_LOG directive: " ++ filter ++ causes ++
          "\n"⟩ := by
  have wording :
      Obstacle.message (.logFilter filter causes) =
        "Invalid NETTOOLS_LOG directive: " ++ filter ++ causes :=
    rfl
  rw [Ending.fatal, wording, ← String.append_assoc, ← String.append_assoc]
  rfl

/-- Settings whose log filter, if there is one, is a filter. -/
def Usable (platform : Platform) (settings : Settings) : Prop :=
  ∀ filter ∈ settings.logFilter, platform.isLogFilter filter = true

/-- Settings are usable unless their log filter is none. -/
theorem usable_or_refused (platform : Platform) (settings : Settings) :
    Usable platform settings ∨
      ∃ filter,
        settings.logFilter = some filter ∧
          platform.isLogFilter filter = false := by
  cases filtered : settings.logFilter with
  | none =>
      refine .inl ?_
      intro filter present
      rw [filtered] at present
      cases present
  | some filter =>
      cases verdict : platform.isLogFilter filter with
      | false =>
          exact .inr ⟨filter, rfl, verdict⟩
      | true =>
          refine .inl ?_
          intro other present
          rw [filtered] at present
          cases present
          exact verdict

section

variable {platform : Platform} {environment : Environment}
variable {settings : Settings}

/-- Settings that are refused are the obstacle of every session. -/
theorem run_of_settings_refused
    {fault : SettingsFault}
    (refused : Settings.read environment = .error fault)
    (platform : Platform)
    (request : CommandLine.Request) :
    run environment request platform = .fatal (.settings fault) := by
  simp only [run, chooseMode, usableSettings, refused, Outcome.error_bind]

/-- A log filter that is none is the next obstacle. -/
theorem run_of_filter_refused
    {filter : String}
    (readable : Settings.read environment = .ok settings)
    (filtered : settings.logFilter = some filter)
    (refused : platform.isLogFilter filter = false)
    (request : CommandLine.Request) :
    run environment request platform =
      .fatal (.logFilter filter (platform.refusalCauses filter)) := by
  simp only [run, chooseMode, usableSettings, readable, filtered, refused,
    Bool.false_eq_true, if_false, Outcome.error_bind]

/-- Without these two obstacles a session treats its targets. -/
theorem run_of_usable
    {request : CommandLine.Request}
    {mode : Mode}
    (readable : Settings.read environment = .ok settings)
    (usable : Usable platform settings)
    (chosen : Mode.Chosen request.flag settings.defaultMode mode) :
    run environment request platform =
      treat ⟨mode, platform.colored⟩ request.verbose request.targets := by
  have usableIs : usableSettings environment platform = .ok settings := by
    cases filtered : settings.logFilter with
    | none =>
        simp only [usableSettings, readable, filtered]
    | some filter =>
        simp only [usableSettings, readable, filtered,
          usable filter filtered, if_true]
  simp only [run, chooseMode, usableIs, Outcome.ok_bind, chosen.resolve_eq,
    Except.mapError]

end

/-- A command line that is read starts a session with its request. -/
theorem start_of_read
    {arguments : List String}
    {request : CommandLine.Request}
    (accepted : CommandLine.read arguments = .ok request)
    (environment : Environment)
    (platform : Platform) :
    start environment arguments platform =
      .ok (request, run environment request platform) := by
  rw [start, accepted]
  rfl

/--
A session with a request that its arguments make comes to an end.

If the settings are refused, or else the log filter, then the session leaves
that one fault and exit code 1, and so does every session in this environment.
What the platform prints about the causes of refusing a filter stands behind the
filter.  Otherwise the session treats all targets in the mode of the flag, else
in that of the settings, else as the texts of their blocks, and leaves the
results of the run; its exit code is 0 if every target is shown, and 1 if one is
refused.  So exit code 0 stands for the lines of all targets.
-/
theorem accepted_sessions_end
    (platform : Platform)
    (environment : Environment)
    {arguments : List String}
    {request : CommandLine.Request}
    (accepted : CommandLine.read arguments = .ok request) :
    ∃ ending,
      start environment arguments platform = .ok (request, ending) ∧
      (∀ fault,
        Settings.read environment = .error fault →
          ending = ⟨1, "", "Error: " ++ fault.message ++ "\n"⟩ ∧
            ∀ other, run environment other platform = ending) ∧
      (∀ settings filter,
        Settings.read environment = .ok settings →
        settings.logFilter = some filter →
        platform.isLogFilter filter = false →
          ending =
              ⟨1, "",
                "Error: Invalid NETTOOLS_LOG directive: " ++ filter ++
                  platform.refusalCauses filter ++ "\n"⟩ ∧
            ∀ other, run environment other platform = ending) ∧
      (∀ settings,
        Settings.read environment = .ok settings →
        Usable platform settings →
          ∃ mode,
            Mode.Chosen request.flag settings.defaultMode mode ∧
              Completes ⟨mode, platform.colored⟩ request.targets ending) ∧
      (ending.exitCode = 0 →
        ∃ mode, Completes ⟨mode, platform.colored⟩ request.targets ending) := by
  have started := start_of_read accepted environment platform
  have treated :
      ∀ settings,
        Settings.read environment = .ok settings →
        Usable platform settings →
          ∃ mode,
            Mode.Chosen request.flag settings.defaultMode mode ∧
              Completes ⟨mode, platform.colored⟩ request.targets
                (run environment request platform) := by
    intro settings readable usable
    obtain ⟨mode, chosen⟩ :=
      Settings.exists_chosen readable request.flag
    refine ⟨mode, chosen, ?_⟩
    rw [run_of_usable readable usable chosen]
    exact
      treat_completes ⟨mode, platform.colored⟩ request.verbose request.targets
  refine ⟨run environment request platform, started, ?_, ?_, treated, ?_⟩
  · intro fault refused
    have ends := run_of_settings_refused refused platform
    refine ⟨ends request, fun other => ?_⟩
    rw [ends other, ends request]
  · intro settings filter readable filtered refused
    have ends := run_of_filter_refused readable filtered refused
    refine ⟨?_, fun other => ?_⟩
    · rw [ends request, Ending.fatal_logFilter]
    · rw [ends other, ends request]
  · -- A session that meets an obstacle has exit code 1.
    intro success
    cases readable : Settings.read environment with
    | error fault =>
        rw [run_of_settings_refused readable] at success
        cases success
    | ok settings =>
        rcases usable_or_refused platform settings with
          usable | ⟨filter, filtered, refused⟩
        · obtain ⟨mode, -, completes⟩ := treated settings readable usable
          exact ⟨mode, completes⟩
        · rw [run_of_filter_refused readable filtered refused] at success
          cases success

/-- One command line without a mode flag, in environments that lead to each kind of ending. -/
theorem accepted_sessions_end_in_three_ways :
    let arguments := ["netmask", "-v", "1.2.3.4/30"]
    let request : CommandLine.Request := ⟨true, none, ["1.2.3.4/30"]⟩
    let blank := Settings.environmentOf (some " ") (some "yaml")
    let chained := Settings.environmentOf (some " a=b=c ") none
    let usable := Settings.environmentOf (some "debug") (some " Range ")
    start blank arguments =
        .ok
          (request,
            ⟨1, "",
              "Error: Invalid value for NETTOOLS_LOG: filter is empty\n"⟩) ∧
      start chained arguments =
        .ok
          (request,
            ⟨1, "", "Error: Invalid NETTOOLS_LOG directive: a=b=c\n"⟩) ∧
      ∃ ending,
        start usable arguments = .ok (request, ending) ∧
          Completes ⟨.range, false⟩ ["1.2.3.4/30"] ending := by
  intro arguments request blank chained usable
  have accepted : CommandLine.read arguments = .ok request := by
    decide +kernel
  refine ⟨?_, ?_, ?_⟩
  · obtain ⟨ending, started, refused, -⟩ :=
      accepted_sessions_end .plain blank accepted
    obtain ⟨rfl, -⟩ := refused .blankLogFilter (by decide +kernel)
    exact started
  · obtain ⟨ending, started, -, refused, -⟩ :=
      accepted_sessions_end .plain chained accepted
    obtain ⟨rfl, -⟩ :=
      refused ⟨some "a=b=c", none⟩ "a=b=c" (by decide +kernel) rfl
        (by decide +kernel)
    exact started
  · obtain ⟨ending, started, -, -, treated, -⟩ :=
      accepted_sessions_end .plain usable accepted
    have valid : Usable .plain ⟨some "debug", some "range"⟩ := by
      rintro filter ⟨⟩
      decide +kernel
    obtain ⟨mode, chosen, completes⟩ :=
      treated ⟨some "debug", some "range"⟩ (by decide +kernel) valid
    obtain rfl : mode = .range :=
      Except.ok.inj (chosen.resolve_eq.symm.trans (by decide +kernel))
    exact ⟨ending, started, completes⟩

end Session

end IpBlocks
