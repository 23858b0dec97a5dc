import IpBlocks.Session

namespace IpBlocks

/-!
# The program

The outer layer reads the environment, starts a session, writes what it leaves
behind and exits with its code. The session runs on the plain platform: nothing
is coloured, and a log filter is refused without its causes.
-/

namespace Session

/-- A reminder of how the program is called. -/
def usage : String :=
  "Usage: nettools [-v] netmask [-v] " ++
    "[-b | -o | -d | -x | -i | -r | -c] TARGET...\n"

end Session

end IpBlocks

open IpBlocks in
/-- Run a session on the arguments and the environment of the process. -/
def main (arguments : List String) : IO UInt32 := do
  let logFilter ← IO.getEnv Settings.logVariable
  let defaultMode ← IO.getEnv Settings.modeVariable
  let environment := Settings.environmentOf logFilter defaultMode
  let stdout ← IO.getStdout
  let stderr ← IO.getStderr
  match Session.start environment arguments .plain with
  | .ok (_, ending) =>
      stdout.putStr ending.stdout
      stderr.putStr ending.stderr
      return UInt32.ofNat ending.exitCode
  | .error refusal =>
      if refusal.exitCode = 0 then
        stdout.putStr Session.usage
      else
        stderr.putStr Session.usage
      return UInt32.ofNat refusal.exitCode
