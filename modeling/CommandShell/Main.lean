import CommandShell.Application

/-!
# The command

Reads the standard input line by line, so that every statement is answered as soon as it is
complete. Sockets are outside of this program: a request to serve is answered by an error.
-/

open CommandShell

/-- Writes the responses and log lines that a shell has gathered, and drops them. -/
def writeGathered (threshold : Nat) (s : Shell Demo.State) : IO (Shell Demo.State) := do
  let stdout ← IO.getStdout
  let stderr ← IO.getStderr
  let now ← IO.monoMsNow
  stderr.putStr (Log.output threshold (Number.integerText now) s.world.events.toList)
  stdout.putStr s.output
  stdout.flush
  return { s with responses := #[], world := { s.world with events := #[] } }

/-- What is said about a failure that ends the program. -/
def lastWords : Failure → String
  | .command message => message
  | .shell e => e.message
  | .help text => text
  | .fault f => f.message
  | .muteCommand raised | .muteShell raised | .muteFault raised => lastWords raised

/-- Feeds the lines of the standard input to a shell, until they end or the shell stops; gives the
exit code. -/
partial def runShellLoop (threshold : Nat) (s : Shell Demo.State) : IO UInt32 := do
  let line ← (← IO.getStdin).getLine
  let s ← writeGathered threshold (if line.isEmpty then s.finish else s.process line)
  match s.failure with
  | some failure =>
    (← IO.getStderr).putStrLn (lastWords failure)
    return 1
  | none => if line.isEmpty then return 0 else runShellLoop threshold s

/-- The values of the variables that set limits. -/
def readEnvironment : IO (String → Option String) := do
  let names := ["MAX_DEPTH", "MAX_INPUT_LENGTH"].map (Limits.environmentPrefix ++ ·)
  let values ← names.mapM fun name => do return (name, ← IO.getEnv name)
  return fun name => (values.lookup name).join

def main (args : List String) : IO UInt32 := do
  match Application.plan args { environment := ← readEnvironment } with
  | .report outcome =>
    (← IO.getStdout).putStr outcome.output
    (← IO.getStderr).putStr outcome.errors
    match outcome.result with
    | .ok code => return code.toUInt32
    | .error failure =>
      (← IO.getStderr).putStrLn (lastWords failure)
      return 1
  | .shell threshold limits => runShellLoop threshold (Demo.shell limits)
  | .server .. =>
    (← IO.getStderr).putStrLn "Sockets are not available"
    return 1
