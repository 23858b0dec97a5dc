import IpBlocks.Proofs.Session.Precedence
import IpBlocks.Proofs.Text.Name

namespace IpBlocks

/-!
# Settings and modes

Names are listed in three places: those that a default mode may have, those
under which modes are shown, and those under which styles are understood, some
of them short.  Each place trims and lowers the text it reads by itself.

The lists agree nevertheless.  No name belongs to two modes, so the names of a
mode say which texts are read as that mode (`Mode.parse_eq_ok_iff`), and those
of them that may stand in the settings are the names under which modes are
shown (`Settings.mem_modeNames_iff`).  A default mode that is read is therefore
the name of a mode that every later reading finds again.
-/

namespace Style

/-- Every name under which a style is understood. -/
def names (style : Style) : List String :=
  style.name :: style.shortNames

end Style

namespace Mode

/-- Every name under which a mode is understood. -/
def names : Mode → List String
  | .cidr => [cidr.name]
  | .range => [range.name]
  | .styled style => style.names

/-- No name belongs to two modes. -/
theorem eq_of_mem_names
    {one other : Mode}
    {name : String}
    (isOne : name ∈ one.names)
    (isOther : name ∈ other.names) :
    one = other := by
  have disjoint :
      ∀ one ∈ all, ∀ other ∈ all,
        ∀ name ∈ one.names, name ∈ other.names → one = other := by
    decide +kernel
  exact disjoint one one.mem_all other other.mem_all name isOne isOther

/-- Names are listed in their plain form. -/
theorem plainName_of_mem_names
    {mode : Mode}
    {name : String}
    (isName : name ∈ mode.names) :
    Text.plainName name = name := by
  have plain :
      ∀ mode ∈ all, ∀ name ∈ mode.names, Text.plainName name = name := by
    decide +kernel
  exact plain mode mode.mem_all name isName

end Mode

namespace Style

variable {style : Style} {name : String}

theorem mem_all (style : Style) :
    style ∈ all := by
  cases style <;> decide

theorem mem_names_iff :
    name ∈ style.names ↔ name = style.name ∨ name ∈ style.shortNames :=
  List.mem_cons

theorem mem_names_of_ofName?
    (found : ofName? name = some style) :
    name ∈ style.names := by
  rw [mem_names_iff]
  simpa using List.find?_some found

/-- A style is found by each of its names and by no other. -/
theorem ofName?_eq_some_iff :
    ofName? name = some style ↔ name ∈ style.names := by
  constructor
  · exact mem_names_of_ofName?
  · intro isName
    cases found : ofName? name with
    | none =>
        have isMissing := List.find?_eq_none.mp found style style.mem_all
        rw [decide_eq_true_iff, ← mem_names_iff] at isMissing
        exact absurd isName isMissing
    | some other =>
        have same : Mode.styled other = .styled style :=
          Mode.eq_of_mem_names (mem_names_of_ofName? found) isName
        rw [Mode.styled.inj same]

/-- A style is read from the texts whose plain form is one of its names. -/
theorem parse_eq_ok_iff {text : String} :
    parse text = .ok style ↔ Text.plainName text ∈ style.names := by
  rw [← ofName?_eq_some_iff, parse]
  cases ofName? (Text.plainName text) with
  | none =>
      simp
  | some found =>
      simp

end Style

namespace Mode

variable {text other : String} {mode : Mode}

/-- A mode is read from the texts whose plain form is one of its names. -/
theorem parse_eq_ok_iff :
    parse text = .ok mode ↔ Text.plainName text ∈ mode.names := by
  constructor
  · intro parsed
    rw [parse] at parsed
    split at parsed
    · rename_i isCidr
      cases parsed
      exact List.mem_singleton.mpr isCidr
    · split at parsed
      · rename_i isRange
        cases parsed
        exact List.mem_singleton.mpr isRange
      · obtain ⟨style, isStyle, rfl⟩ := Outcome.map_eq_ok_iff.mp parsed
        rw [Style.parse_eq_ok_iff, Text.plainName_plainName] at isStyle
        exact isStyle
  · intro isName
    have isOther :
        ∀ other : Mode, Text.plainName text ∈ other.names → other = mode :=
      fun _ isOtherName => eq_of_mem_names isOtherName isName
    rw [parse]
    split
    · rename_i isCidr
      rw [isOther .cidr (List.mem_singleton.mpr isCidr)]
    · rename_i isNotCidr
      split
      · rename_i isRange
        rw [isOther .range (List.mem_singleton.mpr isRange)]
      · rename_i isNotRange
        cases mode with
        | cidr =>
            exact absurd (List.mem_singleton.mp isName) isNotCidr
        | range =>
            exact absurd (List.mem_singleton.mp isName) isNotRange
        | styled style =>
            have isStyle : Style.parse (Text.plainName text) = .ok style := by
              rw [Style.parse_eq_ok_iff, Text.plainName_plainName]
              exact isName
            rw [isStyle]
            rfl

/-- The styles among the modes are read as styles are. -/
theorem parse_eq_styled_iff {style : Style} :
    parse text = .ok (.styled style) ↔ Style.parse text = .ok style := by
  rw [parse_eq_ok_iff, Style.parse_eq_ok_iff, names]

/-- The texts of a mode are the variants of its names. -/
theorem parse_eq_ok_iff_isVariant :
    parse text = .ok mode ↔ ∃ name ∈ mode.names, Text.IsVariant name text := by
  rw [parse_eq_ok_iff]
  constructor
  · intro isName
    exact
      ⟨_, isName,
        (Text.plainName_eq_iff (plainName_of_mem_names isName)).mp rfl⟩
  · rintro ⟨name, isName, isVariant⟩
    rw [isVariant.plainName_eq, plainName_of_mem_names isName]
    exact isName

/-- Blanks and letter case do not change what is read, whether or not it is a mode. -/
theorem parse_eq_of_isVariant
    (isVariant : Text.IsVariant text other) :
    parse other = parse text := by
  rw [parse, parse, isVariant.plainName_eq]

end Mode

namespace Settings

/-- The settings lead to a mode with every flag, and without one to the mode they name. -/
def LeadToModes (settings : Settings) : Prop :=
  ∀ flag : Option Mode,
    ∃ mode,
      Mode.resolve flag settings.defaultMode = .ok mode ∧
        (flag = none → ∀ name ∈ settings.defaultMode, mode.name = name)

/-- The texts of the settings, set once more, are read as the same settings. -/
def AreReadBack (settings : Settings) : Prop :=
  ∀ environment : Environment,
    environment logVariable = settings.logFilter →
      environment modeVariable = settings.defaultMode →
        read environment = .ok settings

section

variable {environment : Environment} {settings : Settings}

theorem leadToModes
    (readable : read environment = .ok settings) :
    settings.LeadToModes := by
  intro flag
  obtain ⟨mode, chosen⟩ := exists_chosen readable flag
  refine ⟨mode, chosen.resolve_eq, ?_⟩
  rintro rfl name configured
  rw [configured] at chosen
  cases chosen
  rfl

theorem readLogFilter_again
    {value filter : String}
    (readable : readLogFilter value = .ok filter) :
    readLogFilter filter = .ok filter := by
  rw [readLogFilter] at readable
  split at readable
  · cases readable
  · rename_i isWritten
    cases readable
    rw [readLogFilter, String.toList_ofList, Text.trim_trim,
      if_neg isWritten]

theorem readDefaultMode_again
    {value name : String}
    (readable : readDefaultMode value = .ok name) :
    readDefaultMode name = .ok name := by
  rw [readDefaultMode] at readable
  split at readable
  · rename_i listed
    cases readable
    rw [readDefaultMode, Text.plainName_plainName]
    exact if_pos listed
  · cases readable

theorem readIfSet_again
    {reader : String → Except SettingsFault String}
    (again :
      ∀ {value stored}, reader value = .ok stored → reader stored = .ok stored)
    {setting stored : Option String}
    (readable : readIfSet reader setting = .ok stored) :
    readIfSet reader stored = .ok stored := by
  cases setting with
  | none =>
      cases readable
      rfl
  | some value =>
      obtain ⟨text, isRead, rfl⟩ := Outcome.map_eq_ok_iff.mp readable
      rw [readIfSet, again isRead]
      rfl

theorem areReadBack
    (readable : read environment = .ok settings) :
    settings.AreReadBack := by
  obtain ⟨filtered, named⟩ := read_eq_ok_iff.mp readable
  intro stored sameLog sameMode
  rw [read_eq_ok_iff, sameLog, sameMode]
  exact
    ⟨readIfSet_again readLogFilter_again filtered,
      readIfSet_again readDefaultMode_again named⟩

/-- A log filter is blank if it is set to blanks only, or to nothing. -/
theorem hasBlankLog_iff :
    HasBlankLog environment ↔
      ∃ text ∈ environment logVariable, Text.IsPadding text.toList := by
  simp only [HasBlankLog, Text.trim_eq_nil_iff]

/-- Reading ends at a blank log filter, else at an unusable default mode, else well. -/
theorem read_cases (environment : Environment) :
    (HasBlankLog environment ∧
        read environment = .error .blankLogFilter) ∨
      (¬ HasBlankLog environment ∧
        ¬ HasUsableDefault environment ∧
          ∃ text, read environment = .error (.unknownMode text)) ∨
      (¬ HasBlankLog environment ∧
        HasUsableDefault environment ∧
          ∃ settings, read environment = .ok settings) := by
  by_cases blank : HasBlankLog environment
  · exact .inl ⟨blank, read_of_hasBlankLog blank⟩
  · obtain ⟨logFilter, filtered⟩ := exists_logFilter blank
    by_cases usable : HasUsableDefault environment
    · obtain ⟨settings, readable, -⟩ :=
        exists_read_of_hasUsableDefault filtered usable
      exact .inr (.inr ⟨blank, usable, settings, readable⟩)
    · obtain ⟨text, -, unknown⟩ := exists_unknownMode filtered usable
      exact .inr (.inl ⟨blank, usable, text, unknown⟩)

/-- Settings are refused exactly for what makes a variable unusable. -/
theorem exists_refused_iff :
    (∃ fault, read environment = .error fault) ↔
      HasBlankLog environment ∨ ¬ HasUsableDefault environment := by
  rcases read_cases environment with
    ⟨blank, refused⟩ | ⟨-, unusable, text, refused⟩ |
      ⟨notBlank, usable, settings, readable⟩
  · exact iff_of_true ⟨_, refused⟩ (.inl blank)
  · exact iff_of_true ⟨_, refused⟩ (.inr unusable)
  · rw [readable]
    simp [notBlank, usable]

end

end Settings

namespace SettingsFault

/-- The message of a fault presents a variable as the one that is refused. -/
def Names (fault : SettingsFault) (name : String) : Prop :=
  ∃ reason, fault.message = "Invalid value for " ++ name ++ ": " ++ reason

theorem blankLogFilter_names :
    blankLogFilter.Names Settings.logVariable :=
  ⟨"filter is empty", rfl⟩

theorem unknownMode_names (text : String) :
    (unknownMode text).Names Settings.modeVariable := by
  have mark : ": unknown mode '" = ": " ++ "unknown mode '" := by
    decide +kernel
  refine
    ⟨"unknown mode '" ++ text ++ "', expected one of " ++
      ", ".intercalate Settings.modeNames, ?_⟩
  rw [message_unknownMode, mark]
  simp only [String.append_assoc]

/-- No message presents both variables as refused. -/
theorem Names.not_both
    {fault : SettingsFault}
    (namesLog : fault.Names Settings.logVariable) :
    ¬ fault.Names Settings.modeVariable := by
  have logFront :
      "Invalid value for " ++ Settings.logVariable ++ ": " =
        "Invalid value for NETTOOLS_LOG: " := by
    decide +kernel
  have modeFront :
      "Invalid value for " ++ Settings.modeVariable ++ ": " =
        "Invalid value for NETTOOLS_DEFAULT_MODE: " := by
    decide +kernel
  rintro ⟨reason, isMessage⟩
  obtain ⟨logReason, isLogMessage⟩ := namesLog
  rw [isMessage, logFront, modeFront] at isLogMessage
  have sameText := congrArg String.toList isLogMessage
  simp at sameText

/-- The fault of refused settings names the log filter if it is blank, and the default mode else. -/
theorem names_of_read
    {environment : Environment}
    {fault : SettingsFault}
    (refused : Settings.read environment = .error fault) :
    (fault.Names Settings.logVariable ↔
        Settings.HasBlankLog environment) ∧
      (fault.Names Settings.modeVariable ↔
        ¬ Settings.HasBlankLog environment) := by
  rcases Settings.read_cases environment with
    ⟨blank, isFault⟩ | ⟨notBlank, -, text, isFault⟩ |
      ⟨-, -, settings, readable⟩
  · cases refused.symm.trans isFault
    exact
      ⟨iff_of_true blankLogFilter_names blank,
        iff_of_false blankLogFilter_names.not_both (not_not_intro blank)⟩
  · cases refused.symm.trans isFault
    exact
      ⟨iff_of_false (fun namesLog => namesLog.not_both (unknownMode_names text))
          notBlank,
        iff_of_true (unknownMode_names text) notBlank⟩
  · cases refused.symm.trans readable

end SettingsFault

namespace Settings

/--
Settings and modes agree on every text.

Settings that are read lead to a mode with every flag, without one to the mode
whose name they hold, and their texts are read as the same settings once more.
Settings are refused exactly if the log filter is blank or the plain form of the
default mode is the name of no mode, and if both hold it is the log filter that
is named.

A text is read as a styled mode exactly if it is read as that style, each mode
is read from the variants of its names, and variants of a text are read alike.
-/
theorem settings_agree_with_modes :
    (∀ environment settings,
        read environment = .ok settings →
          settings.LeadToModes ∧ settings.AreReadBack) ∧
      (∀ environment,
        ((∃ fault, read environment = .error fault) ↔
            (∃ text ∈ environment logVariable,
                Text.IsPadding text.toList) ∨
              ∃ text ∈ environment modeVariable,
                ¬ ∃ mode : Mode, Text.plainName text = mode.name) ∧
          ∀ fault,
            read environment = .error fault →
              (fault.Names logVariable ↔
                  ∃ text ∈ environment logVariable,
                    Text.IsPadding text.toList) ∧
                (fault.Names modeVariable ↔
                  ¬ ∃ text ∈ environment logVariable,
                    Text.IsPadding text.toList)) ∧
      (∀ text style,
        Mode.parse text = .ok (.styled style) ↔
          Style.parse text = .ok style) ∧
      (∀ text mode,
        Mode.parse text = .ok mode ↔
          ∃ name ∈ mode.names, Text.IsVariant name text) ∧
      ∀ text other,
        Text.IsVariant text other → Mode.parse other = Mode.parse text := by
  have unusable_iff :
      ∀ environment,
        (¬ HasUsableDefault environment) ↔
          ∃ text ∈ environment modeVariable,
            ¬ ∃ mode : Mode, Text.plainName text = mode.name := by
    intro environment
    simp only [HasUsableDefault, NamesMode, not_forall, exists_prop]
  refine
    ⟨fun environment settings readable =>
        ⟨leadToModes readable, areReadBack readable⟩,
      fun environment => ⟨?refused, fun fault refused => ?named⟩,
      fun _ _ => Mode.parse_eq_styled_iff,
      fun _ _ => Mode.parse_eq_ok_iff_isVariant,
      fun _ _ => Mode.parse_eq_of_isVariant⟩
  case refused =>
    rw [exists_refused_iff, hasBlankLog_iff, unusable_iff]
  case named =>
    rw [← hasBlankLog_iff]
    exact SettingsFault.names_of_read refused

/-- A default mode in capitals between wide blanks, and both variables unusable. -/
theorem settings_agree_with_modes_in_capitals :
    let configured := environmentOf (some " info ") (some "\u2003HEX\t")
    let settings : Settings := ⟨some "info", some "hex"⟩
    let unusable := environmentOf (some "\u00A0") (some "ciſco")
    read configured = .ok settings ∧
      settings.LeadToModes ∧
      read (environmentOf settings.logFilter settings.defaultMode) =
        .ok settings ∧
      read unusable = .error .blankLogFilter ∧
      SettingsFault.blankLogFilter.Names logVariable ∧
      Mode.parse "X " = .ok (.styled .hex) ∧
      Style.parse "X " = .ok .hex := by
  intro configured settings unusable
  obtain ⟨agree, refusals, styles, -, -⟩ := settings_agree_with_modes
  have readable : read configured = .ok settings := by
    decide +kernel
  obtain ⟨leads, readBack⟩ := agree configured settings readable
  have refused : read unusable = .error .blankLogFilter := by
    decide +kernel
  have isBlank :
      ∃ text ∈ unusable logVariable, Text.IsPadding text.toList :=
    ⟨"\u00A0", rfl, by decide⟩
  have isHex : Style.parse "X " = .ok .hex := by
    decide +kernel
  exact
    ⟨readable, leads, readBack _ rfl rfl, refused,
      ((refusals unusable).2 _ refused).1.mpr isBlank,
      (styles "X " .hex).mpr isHex, isHex⟩

end Settings

end IpBlocks
