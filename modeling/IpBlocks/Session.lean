import IpBlocks.CommandLine
import IpBlocks.LogFilter
import IpBlocks.Report.Run
import IpBlocks.Settings

namespace IpBlocks

/-!
# Sessions

A session is one use of the program from its arguments and its environment to
its exit code. The arguments are read first, then the settings, then the log
filter; the first of them that is refused ends the session before any target
is treated. Otherwise the exit code tells whether every target was shown.

The platform decides which texts are log filters, what is printed about the
causes of refusing one, and whether output is coloured. Log records are not
part of a session's output.
-/

namespace Session

/-- What a session leaves behind. -/
structure Ending where
  exitCode : Nat
  stdout : String
  stderr : String
  deriving DecidableEq, Repr

/-- What a session finds where it runs. -/
structure Platform where
  /-- Whether the log library takes a text for a filter. -/
  isLogFilter : String → Bool
  /--
  What is printed about the causes that the log library has for refusing a
  filter, behind the message that names the filter.
  -/
  refusalCauses : String → String
  /-- Whether output is coloured. -/
  colored : Bool

/--
The platform on which `LogFilter` says which texts are log filters.

The causes of refusing one are left out, and no output is coloured.
-/
def Platform.plain : Platform where
  isLogFilter :=
    LogFilter.isValid
  refusalCauses _ :=
    ""
  colored :=
    false

/-- The mark in front of what only a verbose session says, in blue if in colour. -/
def noteMark (layout : Report.Layout) : String :=
  if layout.colored then "\x1b[34m›\x1b[0m" else "›"

/-- The line that names the mode of a verbose session. -/
def modeLine (layout : Report.Layout) : String :=
  let mark := noteMark layout
  let name := layout.mode.name
  s!"{mark} Netmask mode: {name}\n"

/-- The line that counts the targets of a verbose session. -/
def tallyLine (layout : Report.Layout) (tally : Report.Tally) : String :=
  let mark := noteMark layout
  let processed := tally.processed
  let failed := tally.failed
  s!"{mark} Processed {processed} targets, {failed} failed\n"

/-- Why a session treats no target. -/
inductive Obstacle where
  /-- A variable of the environment is refused. -/
  | settings (fault : SettingsFault)
  /-- The log filter is none, for causes of the log library. -/
  | logFilter (filter causes : String)
  /-- The mode is refused. -/
  | mode (fault : Fault)
  /-- A sink refused a byte. -/
  | output
  deriving DecidableEq, Repr

/-- The wording of an obstacle. -/
def Obstacle.message : Obstacle → String
  | settings fault => fault.message
  | logFilter filter causes =>
      "Invalid " ++ Settings.logVariable ++ " directive: " ++ filter ++ causes
  | mode fault => fault.message
  | output => Report.refusedByte

/-- The ending of a session that meets an obstacle. -/
def Ending.fatal (obstacle : Obstacle) : Ending :=
  ⟨1, "", "Error: " ++ obstacle.message ++ "\n"⟩

/-- The settings of an environment whose log filter is usable. -/
def usableSettings (environment : Environment) (platform : Platform) :
    Except Obstacle Settings :=
  match Settings.read environment with
  | .error fault => .error (.settings fault)
  | .ok settings =>
      match settings.logFilter with
      | none => .ok settings
      | some filter =>
          if platform.isLogFilter filter then .ok settings
          else .error (.logFilter filter (platform.refusalCauses filter))

/-- The mode of a session, if its environment is usable. -/
def chooseMode
    (environment : Environment)
    (flag : Option Mode)
    (platform : Platform) :
    Except Obstacle Mode := do
  let settings ← usableSettings environment platform
  (Mode.resolve flag settings.defaultMode).mapError .mode

/-- Treat the targets of a request, whose layout is known. -/
def treat (layout : Report.Layout) (verbose : Bool) (targets : List String) :
    Ending :=
  match Report.run layout .unlimited targets with
  | .error _ => Ending.fatal .output
  | .ok progress =>
      let refusals := progress.sinks.err.text
      let tally := progress.tally
      { exitCode := if tally.failed = 0 then 0 else 1
        stdout := progress.sinks.out.text
        stderr :=
          if verbose then
            modeLine layout ++ refusals ++ tallyLine layout tally
          else
            refusals }

/-- The ending of a session with a given request. -/
def run
    (environment : Environment)
    (request : CommandLine.Request)
    (platform : Platform) :
    Ending :=
  match chooseMode environment request.flag platform with
  | .error obstacle => Ending.fatal obstacle
  | .ok mode =>
      treat ⟨mode, platform.colored⟩ request.verbose request.targets

/--
A session from its arguments on, with the request that they make.

It runs on the plain platform unless another one is given.
-/
def start
    (environment : Environment)
    (arguments : List String)
    (platform : Platform := .plain) :
    Except CommandLine.Refusal (CommandLine.Request × Ending) :=
  (CommandLine.read arguments).map fun request =>
    (request, run environment request platform)

end Session

end IpBlocks
