import IpBlocks.Text.Name

namespace IpBlocks

/-!
# Settings

Two variables of the environment configure a run: `NETTOOLS_LOG` filters log
records, and `NETTOOLS_DEFAULT_MODE` names the mode of a run without a mode
flag. A variable that is set to something unusable is refused, the log filter
before the mode.
-/

/-- The values of the variables that are set. -/
abbrev Environment :=
  String → Option String

/-- What the environment configures. -/
structure Settings where
  logFilter : Option String
  defaultMode : Option String
  deriving DecidableEq, Repr

/-- Why a variable of the environment is refused. -/
inductive SettingsFault where
  /-- The log filter is blank. -/
  | blankLogFilter
  /-- The default mode is not the name of a mode. -/
  | unknownMode (value : String)
  deriving DecidableEq, Repr

namespace Settings

/-- The variable that filters log records. -/
def logVariable : String :=
  "NETTOOLS_LOG"

/-- The variable that names the default mode. -/
def modeVariable : String :=
  "NETTOOLS_DEFAULT_MODE"

/-- The environment in which the two variables have the given values. -/
def environmentOf (logFilter defaultMode : Option String) : Environment :=
  fun name =>
    if name = logVariable then logFilter
    else if name = modeVariable then defaultMode
    else none

/-- Read the log filter, without the blanks around it. -/
def readLogFilter (value : String) : Except SettingsFault String :=
  let filter := Text.trim value.toList
  if filter = [] then
    .error .blankLogFilter
  else
    .ok (String.ofList filter)

/-- The names a default mode may have, in the order in which they are listed. -/
def modeNames : List String :=
  ["cidr", "range", "binary", "octal", "decimal", "hex", "cisco"]

/-- Read the default mode, without the blanks around it and in lower case. -/
def readDefaultMode (value : String) : Except SettingsFault String :=
  let name := Text.plainName value
  if name ∈ modeNames then
    .ok name
  else
    .error (.unknownMode value)

/-- Read a variable, if it is set. -/
def readIfSet
    (reader : String → Except SettingsFault String) :
    Option String → Except SettingsFault (Option String)
  | none => .ok none
  | some value => (reader value).map some

/-- Read the settings from an environment. -/
def read (environment : Environment) : Except SettingsFault Settings := do
  let logFilter ← readIfSet readLogFilter (environment logVariable)
  let defaultMode ← readIfSet readDefaultMode (environment modeVariable)
  return ⟨logFilter, defaultMode⟩

end Settings

namespace SettingsFault

/-- The wording of a fault. -/
def message : SettingsFault → String
  | blankLogFilter =>
      let name := Settings.logVariable
      s!"Invalid value for {name}: filter is empty"
  | unknownMode value =>
      let name := Settings.modeVariable
      let expected := ", ".intercalate Settings.modeNames
      s!"Invalid value for {name}: unknown mode '{value}', expected one of {expected}"

end SettingsFault

end IpBlocks
