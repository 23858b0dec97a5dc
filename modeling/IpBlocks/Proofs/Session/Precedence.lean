import IpBlocks.Proofs.Session.Verbosity

namespace IpBlocks

/-!
# Mode flags and the default mode

A mode flag decides the mode of a session whatever the default mode is, but all
settings are read before the flag is looked at.  So a default mode that names
no mode ends the session all the same, with a fault that quotes it.

Sessions on one platform, in two environments with the same log filter, hence
end alike unless such a fault tells them apart: a blank log filter is refused
before it, and two environments with the same unknown mode lead to the same fault
(`Session.flag_overrides_default_iff`).
-/

namespace Settings

/-- A text names a mode, with blanks around the name and letter case ignored. -/
def NamesMode (text : String) : Prop :=
  ∃ mode : Mode, Text.plainName text = mode.name

/-- The default mode of an environment names a mode, if it is set. -/
def HasUsableDefault (environment : Environment) : Prop :=
  ∀ text ∈ environment modeVariable, NamesMode text

/-- The log filter of an environment is set, but to nothing but blanks. -/
def HasBlankLog (environment : Environment) : Prop :=
  ∃ text ∈ environment logVariable, Text.trim text.toList = []

theorem readDefaultMode_of_namesMode
    {text : String}
    (names : NamesMode text) :
    ∃ stored, readDefaultMode text = .ok stored := by
  exact ⟨Text.plainName text, if_pos (mem_modeNames_iff.mpr names)⟩

theorem readDefaultMode_of_not_namesMode
    {text : String}
    (namesNone : ¬ NamesMode text) :
    readDefaultMode text = .error (.unknownMode text) :=
  if_neg (mt mem_modeNames_iff.mp namesNone)

section

variable {environment : Environment}

/-- A blank log filter is refused whatever the default mode is. -/
theorem read_of_hasBlankLog (blank : HasBlankLog environment) :
    read environment = .error .blankLogFilter := by
  obtain ⟨text, present, isBlank⟩ := blank
  rw [Option.mem_def] at present
  simp only [read, present, readIfSet, readLogFilter, isBlank, if_true]
  rfl

/-- Any other log filter is read. -/
theorem exists_logFilter (notBlank : ¬ HasBlankLog environment) :
    ∃ logFilter,
      readIfSet readLogFilter (environment logVariable) = .ok logFilter := by
  cases present : environment logVariable with
  | none =>
      exact ⟨none, rfl⟩
  | some text =>
      have isWritten : Text.trim text.toList ≠ [] :=
        fun isBlank => notBlank ⟨text, present, isBlank⟩
      exact
        ⟨_, by
          rw [readIfSet, readLogFilter, if_neg isWritten]
          rfl⟩

variable {logFilter : Option String}

/-- With a usable default mode the settings are read. -/
theorem exists_read_of_hasUsableDefault
    (filtered :
      readIfSet readLogFilter (environment logVariable) = .ok logFilter)
    (usable : HasUsableDefault environment) :
    ∃ settings,
      read environment = .ok settings ∧ settings.logFilter = logFilter := by
  cases present : environment modeVariable with
  | none =>
      refine ⟨⟨logFilter, none⟩, ?_, rfl⟩
      rw [read, filtered, present]
      rfl
  | some text =>
      obtain ⟨stored, readable⟩ :=
        readDefaultMode_of_namesMode (usable text present)
      refine ⟨⟨logFilter, some stored⟩, ?_, rfl⟩
      rw [read, filtered, present, readIfSet, readable]
      rfl

/-- Any other default mode is refused. -/
theorem exists_unknownMode
    (filtered :
      readIfSet readLogFilter (environment logVariable) = .ok logFilter)
    (unusable : ¬ HasUsableDefault environment) :
    ∃ text,
      environment modeVariable = some text ∧
        read environment = .error (.unknownMode text) := by
  simp only [HasUsableDefault, not_forall, exists_prop] at unusable
  obtain ⟨text, present, namesNone⟩ := unusable
  refine ⟨text, present, ?_⟩
  rw [read, filtered, present, readIfSet,
    readDefaultMode_of_not_namesMode namesNone]
  rfl

end

end Settings

theorem SettingsFault.message_unknownMode (text : String) :
    message (.unknownMode text) =
      "Invalid value for " ++ Settings.modeVariable ++ ": unknown mode '" ++
        text ++ "', expected one of " ++
          ", ".intercalate Settings.modeNames :=
  rfl

/-- The report of a refused target starts with no capital letter. -/
theorem Report.Layout.head?_entry_err (layout : Layout) (target : String) :
    (layout.entry .err target).toList.head? ≠ some 'E' := by
  cases verdict : layout.mode.lines target with
  | ok lines =>
      simp [entry, verdict]
  | error fault =>
      cases colored : layout.colored <;>
        simp [entry, verdict, errorLabel, colored]

/-- Joined texts start with a character only if one of them does. -/
theorem Text.head?_join_ne
    {texts : List String}
    {character : Char}
    (differ : ∀ text ∈ texts, text.toList.head? ≠ some character) :
    (String.join texts).toList.head? ≠ some character := by
  induction texts with
  | nil =>
      simp
  | cons text rest inductionHypothesis =>
      obtain ⟨textDiffers, restDiffers⟩ := List.forall_mem_cons.mp differ
      rw [String.join_cons, String.toList_append, List.head?_append]
      cases first : text.toList.head? with
      | none =>
          exact inductionHypothesis restDiffers
      | some other =>
          rw [first] at textDiffers
          exact textDiffers

namespace Session

/-- What is left of a session whose default mode is unknown. -/
theorem Ending.fatal_unknownMode (text : String) :
    Ending.fatal (.settings (.unknownMode text)) =
      ⟨1, "",
        "Error: Invalid value for NETTOOLS_DEFAULT_MODE: unknown mode '" ++
          (text ++
            "', expected one of cidr, range, binary, octal, decimal, hex, cisco\n")⟩ := by
  have front :
      "Error: " ++
          ("Invalid value for " ++ Settings.modeVariable ++
            ": unknown mode '") =
        "Error: Invalid value for NETTOOLS_DEFAULT_MODE: unknown mode '" := by
    decide +kernel
  have back :
      "', expected one of " ++ ", ".intercalate Settings.modeNames ++ "\n" =
        "', expected one of cidr, range, binary, octal, decimal, hex, cisco\n" := by
    decide +kernel
  rw [Ending.fatal, Obstacle.message, SettingsFault.message_unknownMode,
    ← front, ← back]
  simp only [String.append_assoc]

/-- Faults about different default modes leave different endings. -/
theorem Ending.fatal_unknownMode_inj
    {one other : String}
    (same :
      Ending.fatal (.settings (.unknownMode one)) =
        .fatal (.settings (.unknownMode other))) :
    one = other := by
  rw [fatal_unknownMode, fatal_unknownMode, Ending.mk.injEq] at same
  have sameText := congrArg String.toList same.2.2
  simp only [String.toList_append] at sameText
  exact
    String.toList_inj.mp
      (List.append_cancel_right (List.append_cancel_left sameText))

/-- An unknown default mode does not end a session as a refused log filter does. -/
theorem Ending.fatal_logFilter_ne (filter causes text : String) :
    Ending.fatal (.logFilter filter causes) ≠
      .fatal (.settings (.unknownMode text)) := by
  intro same
  rw [fatal_logFilter, fatal_unknownMode, Ending.mk.injEq] at same
  have sameText := congrArg String.toList same.2.2
  simp at sameText

/-- What starts with the line that names the mode starts with no letter. -/
theorem head?_modeLine_append (layout : Report.Layout) (rest : String) :
    (modeLine layout ++ rest).toList.head? ≠ some 'E' := by
  cases colored : layout.colored <;>
    simp [modeLine_eq, noteMark, colored]

theorem head?_fatal (obstacle : Obstacle) :
    (Ending.fatal obstacle).stderr.toList.head? = some 'E' := by
  simp [Ending.fatal]

/-- A session that treats its targets does not end like one that meets an obstacle. -/
theorem treat_ne_fatal
    (layout : Report.Layout)
    (verbose : Bool)
    (targets : List String)
    (obstacle : Obstacle) :
    treat layout verbose targets ≠ .fatal obstacle := by
  have refusals :
      (String.join (targets.map (layout.entry .err))).toList.head? ≠
        some 'E' := by
    apply Text.head?_join_ne
    intro entry member
    obtain ⟨target, -, rfl⟩ := List.mem_map.mp member
    exact Report.Layout.head?_entry_err _ target
  intro same
  have start := head?_fatal obstacle
  rw [← same, treat_eq] at start
  cases verbose with
  | false =>
      exact refusals start
  | true =>
      simp only [if_true, String.append_assoc] at start
      exact head?_modeLine_append layout _ start

section

variable {platform : Platform} {one other : Environment}
variable {request : CommandLine.Request}

/-- With the same values of both variables, sessions end alike. -/
theorem run_eq_of_same_variables
    (sameLog : one Settings.logVariable = other Settings.logVariable)
    (sameMode : one Settings.modeVariable = other Settings.modeVariable)
    (platform : Platform)
    (request : CommandLine.Request) :
    run one request platform = run other request platform := by
  have sameRead : Settings.read one = Settings.read other := by
    rw [Settings.read, Settings.read, sameLog, sameMode]
  rw [run, run, chooseMode, chooseMode, usableSettings, usableSettings,
    sameRead]

variable {settings otherSettings : Settings}

/-- Where a flag chooses the mode, only the log filter of the settings matters. -/
theorem run_eq_of_same_logFilter
    {mode : Mode}
    (readable : Settings.read one = .ok settings)
    (otherReadable : Settings.read other = .ok otherSettings)
    (sameFilter : settings.logFilter = otherSettings.logFilter)
    (flagged : request.flag = some mode) :
    run one request platform = run other request platform := by
  have chosen :
      ∀ configured : Option String,
        Mode.Chosen request.flag configured mode := by
    intro configured
    rw [flagged]
    exact .byFlag mode configured
  rcases usable_or_refused platform settings with
    usable | ⟨filter, filtered, refused⟩
  · have otherUsable : Usable platform otherSettings := by
      rw [Usable, ← sameFilter]
      exact usable
    rw [run_of_usable readable usable (chosen _),
      run_of_usable otherReadable otherUsable (chosen _)]
  · rw [run_of_filter_refused readable filtered refused,
      run_of_filter_refused otherReadable (sameFilter ▸ filtered) refused]

/-- Settings that are read never lead to the ending of an unknown default mode. -/
theorem run_ne_of_unknownMode
    {text : String}
    (readable : Settings.read one = .ok settings)
    (unknown : Settings.read other = .error (.unknownMode text)) :
    run one request platform ≠ run other request platform := by
  rw [run_of_settings_refused unknown]
  rcases meets_or_usable platform one with
    ⟨obstacle, meets⟩ | ⟨found, read, usable⟩
  · cases meets with
    | settings refused =>
        rw [readable] at refused
        cases refused
    | logFilter found filtered refused =>
        rw [run_of_filter_refused found filtered refused]
        exact Ending.fatal_logFilter_ne _ _ text
  · obtain ⟨mode, chosen⟩ := Settings.exists_chosen read request.flag
    rw [run_of_usable read usable chosen]
    exact treat_ne_fatal _ request.verbose request.targets _

/-- Behind a log filter that is read, an ending tells unusable default modes apart. -/
theorem same_or_usable_of_run_eq
    {logFilter otherFilter : Option String}
    (filtered :
      Settings.readIfSet Settings.readLogFilter (one Settings.logVariable) =
        .ok logFilter)
    (otherFiltered :
      Settings.readIfSet Settings.readLogFilter (other Settings.logVariable) =
        .ok otherFilter)
    (same : run one request platform = run other request platform) :
    one Settings.modeVariable = other Settings.modeVariable ∨
      Settings.HasUsableDefault one ∧ Settings.HasUsableDefault other := by
  by_cases usable : Settings.HasUsableDefault one
  · by_cases otherUsable : Settings.HasUsableDefault other
    · exact .inr ⟨usable, otherUsable⟩
    · obtain ⟨settings, readable, -⟩ :=
        Settings.exists_read_of_hasUsableDefault filtered usable
      obtain ⟨text, -, unknown⟩ :=
        Settings.exists_unknownMode otherFiltered otherUsable
      exact absurd same (run_ne_of_unknownMode readable unknown)
  · obtain ⟨text, present, unknown⟩ :=
      Settings.exists_unknownMode filtered usable
    by_cases otherUsable : Settings.HasUsableDefault other
    · obtain ⟨settings, readable, -⟩ :=
        Settings.exists_read_of_hasUsableDefault otherFiltered otherUsable
      exact absurd same.symm (run_ne_of_unknownMode readable unknown)
    · obtain ⟨otherText, otherPresent, otherUnknown⟩ :=
        Settings.exists_unknownMode otherFiltered otherUsable
      rw [run_of_settings_refused unknown,
        run_of_settings_refused otherUnknown] at same
      rw [present, otherPresent, Ending.fatal_unknownMode_inj same]
      exact .inl rfl

end

/--
A mode flag makes the default mode irrelevant exactly where the default mode is
unset or names a mode.

Let two environments have the same log filter, and let a command line choose
its mode by a flag.  Its sessions in them, on any one platform, leave the same
results, refusals and exit code if and only if the default modes are the same
after all, or the log filter is blank and refused before them, or both default
modes are usable.
-/
theorem flag_overrides_default_iff
    (platform : Platform)
    {one other : Environment}
    {arguments : List String}
    {request : CommandLine.Request}
    {mode : Mode}
    (accepted : CommandLine.read arguments = .ok request)
    (flagged : request.flag = some mode)
    (sameLog : one Settings.logVariable = other Settings.logVariable) :
    start one arguments platform = start other arguments platform ↔
      one Settings.modeVariable = other Settings.modeVariable ∨
        Settings.HasBlankLog one ∨
          Settings.HasUsableDefault one ∧
            Settings.HasUsableDefault other := by
  rw [start_of_read accepted, start_of_read accepted, Except.ok.injEq,
    Prod.mk.injEq, and_iff_right rfl]
  by_cases blank : Settings.HasBlankLog one
  · have otherBlank : Settings.HasBlankLog other := by
      rw [Settings.HasBlankLog, ← sameLog]
      exact blank
    rw [run_of_settings_refused (Settings.read_of_hasBlankLog blank),
      run_of_settings_refused (Settings.read_of_hasBlankLog otherBlank)]
    exact iff_of_true rfl (.inr (.inl blank))
  · obtain ⟨logFilter, filtered⟩ := Settings.exists_logFilter blank
    have otherFiltered := filtered
    rw [sameLog] at otherFiltered
    constructor
    · intro same
      exact (same_or_usable_of_run_eq filtered otherFiltered same).imp_right .inr
    · rintro (sameMode | isBlank | ⟨usable, otherUsable⟩)
      · exact run_eq_of_same_variables sameLog sameMode platform request
      · exact absurd isBlank blank
      · obtain ⟨settings, readable, isFilter⟩ :=
          Settings.exists_read_of_hasUsableDefault filtered usable
        obtain ⟨otherSettings, otherReadable, isOtherFilter⟩ :=
          Settings.exists_read_of_hasUsableDefault otherFiltered otherUsable
        exact
          run_eq_of_same_logFilter readable otherReadable
            (isFilter.trans isOtherFilter.symm) flagged

/-- A default mode in capitals and with blanks around it, and none at all. -/
theorem flag_overrides_default_iff_in_capitals :
    let configured := Settings.environmentOf (some "info") (some " HEX ")
    let unset := Settings.environmentOf (some "info") none
    let arguments := ["netmask", "1.2.3.4/9", "-r"]
    let request : CommandLine.Request := ⟨false, some .range, ["1.2.3.4/9"]⟩
    CommandLine.read arguments = .ok request ∧
      request.flag = some .range ∧
      configured Settings.logVariable = unset Settings.logVariable ∧
      start configured arguments = start unset arguments := by
  intro configured unset arguments request
  have accepted : CommandLine.read arguments = .ok request := by
    decide +kernel
  have sameLog :
      configured Settings.logVariable = unset Settings.logVariable := rfl
  have usable : Settings.HasUsableDefault configured := by
    rintro text ⟨⟩
    exact ⟨.styled .hex, by decide +kernel⟩
  have otherUsable : Settings.HasUsableDefault unset := by
    rintro text ⟨⟩
  exact
    ⟨accepted, rfl, sameLog,
      (flag_overrides_default_iff .plain accepted rfl sameLog).mpr
        (.inr (.inr ⟨usable, otherUsable⟩))⟩

/-- A default mode that is unknown ends a session although a flag chooses the mode. -/
theorem flag_loses_to_unknown_default :
    let unset := Settings.environmentOf none none
    let unknown := Settings.environmentOf none (some "yaml")
    let arguments := ["netmask", "-r", "10.0.0.0/8"]
    let request : CommandLine.Request :=
      ⟨false, some .range, ["10.0.0.0/8"]⟩
    CommandLine.read arguments = .ok request ∧
      unset Settings.logVariable = unknown Settings.logVariable ∧
      start unset arguments =
        .ok
          (request,
            ⟨0, "10.0.0.0 -> 10.255.255.255 (16777216)\n", ""⟩) ∧
      start unknown arguments =
        .ok
          (request,
            ⟨1, "",
              "Error: Invalid value for NETTOOLS_DEFAULT_MODE: unknown mode 'yaml', expected one of cidr, range, binary, octal, decimal, hex, cisco\n"⟩) ∧
      start unset arguments ≠ start unknown arguments := by
  decide +kernel

end Session

end IpBlocks
