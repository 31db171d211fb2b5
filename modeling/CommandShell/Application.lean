import CommandShell.CommandLine.Read
import CommandShell.Demo
import CommandShell.Log.Line
import CommandShell.Log.Threshold
import CommandShell.Stream.Server

/-!
# The program

The program runs the demonstration commands over its input, or serves them to clients. What it
meets outside is given to it as data, and what it does to the outside is its outcome.
-/

namespace CommandShell

/-- What the program meets outside. -/
structure Surroundings where
  environment : String → Option String := fun _ => none
  /-- The standard input. -/
  input : String := ""
  /-- What clients send, one client after the other, before the program is asked to stop. -/
  clients : List String := []
  network : Network := .reachable
  /-- The address on which the server hears, and from which clients come. -/
  address : String := ""
  /-- The mechanism by which a server waits for its connections. -/
  poller : String := ""
  /-- The time that log lines give. -/
  time : String := ""

/-- What the program does: its exit code or the failure that ended it, what it wrote, and what its
clients read. -/
structure Outcome where
  result : Except Failure Nat
  output : String := ""
  errors : String := ""
  replies : List String := []

namespace Application

open CommandLine

/-- What the program writes for the events of a world. -/
def logs (threshold : Nat) (s : Surroundings) {Ctx : Type} (w : World Ctx) : String :=
  Log.output threshold s.time w.events.toList

/-- The limits that are given, or else those of the environment. -/
def limitsOr (given : Option Limits) (environment : String → Option String) :
    Except Limits.Invalid Limits :=
  match given with
  | some limits => .ok limits
  | none => Limits.ofEnvironment environment

/-- Runs the shell on the standard input. -/
def runShell (limits : Limits) (input : String) : Shell Demo.State :=
  (Demo.shell limits).runText input

/-- Serves all clients and stops. -/
def runServer (threshold : Nat) (limits : Limits) (address : Address) (s : Surroundings) :
    Outcome :=
  let w := (Demo.world limits).record (.pollerChosen s.poller)
  if !address.isBindable then
    { result := .error (.fault .portOutOfRange), errors := logs threshold s w }
  else
    let server : Server Demo.State :=
      { world := w.record (.listening s.address), context := {}, peer := s.address }
    match server.serveClients s.network s.clients with
    | (.error f, server) => { result := .error (.fault f), errors := logs threshold s server.world }
    | (.ok replies, server) =>
      let w := server.world.recordAll [.shutdownRequested, .serverStopped]
      { result := .ok 0, errors := logs threshold s w, replies }

/-- Refuses a command line, behind what was written so far. -/
def refuse (e : UsageError) (errors : String := "") : Outcome :=
  { result := .ok 2, errors := errors ++ e.report }

/-- What is to be done for a command line. -/
inductive Plan where
  /-- Nothing but to report an outcome. -/
  | report (outcome : Outcome)
  /-- To run the shell, showing log entries from a threshold on. -/
  | shell (threshold : Nat) (limits : Limits)
  | server (threshold : Nat) (limits : Limits) (address : Address)

/-- Plans for settings. The log level is looked at before the limits, and the limits before the
address, which is read when the commands are registered already. -/
def planWith (settings : Settings) (s : Surroundings) : Plan :=
  match Log.threshold settings.logLevel with
  | .error f => .report { result := .error (.fault f) }
  | .ok threshold =>
    match settings.limits s.environment with
    | .error e => .report (refuse (.limits e))
    | .ok limits =>
      match settings.serve with
      | none => .shell threshold limits
      | some text =>
        match Address.read text with
        | .error e => .report (refuse (.address e) (logs threshold s (Demo.world limits)))
        | .ok address => .server threshold limits address

/-- Plans for a command line. -/
def plan (args : List String) (s : Surroundings) : Plan :=
  match read args with
  | .error e => .report (refuse e)
  | .ok .help => .report { result := .ok 0, output := helpText }
  | .ok (.run settings) => planWith settings s

/-- Runs the program. -/
def run (args : List String) (s : Surroundings) : Outcome :=
  match plan args s with
  | .report outcome => outcome
  | .shell threshold limits =>
    let shell := runShell limits s.input
    { result := shell.failure.elim (.ok 0) .error, output := shell.output,
      errors := logs threshold s shell.world }
  | .server threshold limits address => runServer threshold limits address s

end Application

end CommandShell
