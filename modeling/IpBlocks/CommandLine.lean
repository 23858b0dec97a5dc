import IpBlocks.Mode

namespace IpBlocks

/-!
# The command line

The program has one command, `netmask`, whose words are targets. Switches
may stand between them, letters may be bundled behind one hyphen, and two
hyphens end the switches. The switch for verbose output may stand before the
command as well. A switch may be given once on each side of the command, and
at most one switch may choose a mode.

Arguments are read from left to right and the first offence decides, except
that two modes and a missing target are offences of the list as a whole.
-/

namespace CommandLine

/-- What a command line asks for. -/
structure Request where
  verbose : Bool
  flag : Option Mode
  targets : List String
  deriving DecidableEq, Repr

/-- Why a command line leads to no run. -/
inductive Refusal where
  /-- Help was asked for. -/
  | help
  /-- The version was asked for. -/
  | version
  /-- Nothing was given, so that help is due. -/
  | nothingGiven
  /-- Switches were given, but no command. -/
  | missingCommand
  /-- A word stands in the place of a command and is none. -/
  | unknownCommand
  /-- The command was given no target. -/
  | missingTarget
  /-- A switch was given twice, or two modes were chosen. -/
  | conflict
  /-- A switch is unknown where it stands. -/
  | unknownSwitch
  /-- A switch that takes no value was given one. -/
  | unexpectedValue
  deriving DecidableEq, Repr

/-- The exit code of a command line that leads to no run. -/
def Refusal.exitCode : Refusal → Nat
  | .help | .version => 0
  | _ => 2

/-- The switches of the program. -/
inductive Switch where
  | verbose
  | help
  | version
  | mode (chosen : Mode)
  deriving DecidableEq, Repr

namespace Switch

/-- The name of a switch behind two hyphens. -/
def longName : Switch → String
  | .verbose => "verbose"
  | .help => "help"
  | .version => "version"
  | .mode chosen => chosen.name

/-- The letter of a switch behind one hyphen. -/
def letter : Switch → Char
  | .verbose => 'v'
  | .help => 'h'
  | .version => 'V'
  | .mode .cidr => 'c'
  | .mode .range => 'r'
  | .mode (.styled .binary) => 'b'
  | .mode (.styled .octal) => 'o'
  | .mode (.styled .decimal) => 'd'
  | .mode (.styled .hex) => 'x'
  | .mode (.styled .cisco) => 'i'

/-- The switches known before the command. -/
def beforeCommand : List Switch :=
  [verbose, help, version]

/-- The switches known behind the command. -/
def behindCommand : List Switch :=
  [verbose, help] ++ Mode.all.map mode

/-- The switch with a given letter. -/
def ofLetter (known : List Switch) (character : Char) :
    Except Refusal Switch :=
  match known.find? fun switch => switch.letter = character with
  | some switch => .ok switch
  | none => .error .unknownSwitch

/-- The switch with a given name, which may not be followed by a value. -/
def ofLongName (known : List Switch) (text : List Char) :
    Except Refusal Switch :=
  let (name, valued) :=
    match Text.cut? '=' text with
    | some (name, _) => (name, true)
    | none => (text, false)
  match known.find? fun switch => switch.longName.toList = name with
  | some switch => if valued then .error .unexpectedValue else .ok switch
  | none => .error .unknownSwitch

end Switch

/-- What an argument is, as long as the switches have not ended. -/
inductive Argument where
  /-- Two hyphens, which end the switches. -/
  | terminator
  /-- Switches, in the order in which they are named. -/
  | switches (named : List (Except Refusal Switch))
  /-- Any other word. -/
  | word

/-- Tell what an argument is where some switches are known. -/
def Argument.classify (known : List Switch) (argument : String) : Argument :=
  match argument.toList with
  | ['-', '-'] => .terminator
  | '-' :: '-' :: name => .switches [Switch.ofLongName known name]
  | '-' :: letter :: letters =>
      .switches ((letter :: letters).map (Switch.ofLetter known))
  | _ => .word

/-- The switches given on one side of the command. -/
structure Given where
  verbose : Bool
  modes : List Mode
  deriving DecidableEq, Repr

namespace Given

/-- No switch is given. -/
def nothing : Given :=
  ⟨false, []⟩

/-- Take note of one more switch. -/
def add (given : Given) (named : Except Refusal Switch) :
    Except Refusal Given := do
  match ← named with
  | .help => .error .help
  | .version => .error .version
  | .verbose =>
      if given.verbose then
        .error .conflict
      else
        .ok { given with verbose := true }
  | .mode chosen =>
      if chosen ∈ given.modes then
        .error .conflict
      else
        .ok { given with modes := given.modes ++ [chosen] }

/-- Take note of several switches in order. -/
def addAll (given : Given) (named : List (Except Refusal Switch)) :
    Except Refusal Given :=
  named.foldlM add given

/-- The mode chosen by the switches, if at most one is. -/
def mode? (given : Given) : Except Refusal (Option Mode) :=
  match given.modes with
  | [] => .ok none
  | [chosen] => .ok (some chosen)
  | _ => .error .conflict

end Given

/-- Read the arguments behind the command: its switches and its targets. -/
def readCommand (given : Given) :
    List String → Except Refusal (Given × List String)
  | [] => .ok (given, [])
  | argument :: rest =>
      match Argument.classify Switch.behindCommand argument with
      | .terminator => .ok (given, rest)
      | .switches named => do
          let extended ← given.addAll named
          readCommand extended rest
      | .word => do
          let (final, targets) ← readCommand given rest
          return (final, argument :: targets)

/-- The request of a command whose arguments are read. -/
def request (verboseBefore : Bool) (given : Given) (targets : List String) :
    Except Refusal Request := do
  let flag ← given.mode?
  if targets = [] then
    .error .missingTarget
  return ⟨verboseBefore || given.verbose, flag, targets⟩

/-- The name of the command. -/
def commandName : String :=
  "netmask"

/-- The word that asks for help in the place of a command. -/
def helpName : String :=
  "help"

/-- What asking for help on some words leads to. -/
def helpOn (words : List String) : Refusal :=
  if words ∈ [[], [commandName], [helpName]] then .help else .unknownCommand

/-- What words behind two hyphens and without a command lead to. -/
def withoutCommand (given : Given) : List String → Refusal
  | [] => if given.verbose then .missingCommand else .nothingGiven
  | word :: _ =>
      if word ∈ [commandName, helpName] then .unknownSwitch
      else .unknownCommand

/-- Read a command line behind the switches given so far. -/
def readFrom (given : Given) : List String → Except Refusal Request
  | [] => .error (withoutCommand given [])
  | argument :: rest =>
      if argument = commandName then do
        let (behind, targets) ← readCommand .nothing rest
        request given.verbose behind targets
      else if argument = helpName then
        .error (helpOn rest)
      else
        match Argument.classify Switch.beforeCommand argument with
        | .terminator => .error (withoutCommand given rest)
        | .switches named => do
            let extended ← given.addAll named
            readFrom extended rest
        | .word => .error .unknownCommand

/-- Read a command line. -/
def read (arguments : List String) : Except Refusal Request :=
  readFrom .nothing arguments

end CommandLine

end IpBlocks
