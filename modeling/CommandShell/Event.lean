import CommandShell.Datum
import CommandShell.Error

/-!
# Events

What happens while commands are registered and evaluated, and while streams and connections are
served, is recorded as a row of events. An event may have a log entry: a level, the name of the
logger, the name of the entry and its fields.
-/

namespace CommandShell

/-- The levels of log entries. -/
inductive LogLevel where
  | debug
  | info
  | warning
  | error
  | critical
  deriving DecidableEq, Repr

namespace LogLevel

def name : LogLevel → String
  | debug => "debug"
  | info => "info"
  | warning => "warning"
  | error => "error"
  | critical => "critical"

/-- The rank of a level; an entry is shown if its rank reaches that of the logger. -/
def rank : LogLevel → Nat
  | debug => 10
  | info => 20
  | warning => 30
  | error => 40
  | critical => 50

end LogLevel

/-- A log entry. -/
structure LogEntry where
  level : LogLevel
  logger : String
  name : String
  fields : List (String × Datum) := []

/-- Something that happened. -/
inductive Event where
  /-- A command was registered. -/
  | registered (command shape : String)
  /-- A decider failed or returned no decision. -/
  | deciderFailed (command shape error : String)
  /-- An evaluator refused a text that does not parse. -/
  | unparsed (evaluator : Nat) (e : ParseError)
  /-- An evaluator was given more bytes than a text may have characters. -/
  | overlong (evaluator length : Nat)
  /-- An evaluator was given a tree of this depth, and took it or refused it as too deep. -/
  | attempted (evaluator depth : Nat) (accepted : Bool)
  /-- A handler starts, for a node at this level of its tree. -/
  | invoked (evaluator level : Nat) (command : String) (values : List Value) (isBuiltin : Bool)
  /-- The handler of a command reported a failure. -/
  | failed (command message : String)
  /-- The handler of a command failed unexpectedly. -/
  | crashed (command : String)
  /-- The handler that started last and has not returned does so. -/
  | returned (evaluator : Nat)
  /-- A framing error was reported on a stream. -/
  | inputDiscarded (reason : String)
  /-- A stream ended. -/
  | streamEnded (statements : Nat)
  | connectionOpened (peer : String)
  | inputReceived (peer statement : String)
  | bufferFull (peer : String)
  | disconnected (peer : String)
  | connectionFailed (peer reason : String)
  /-- A server chose the mechanism by which it waits for its connections. -/
  | pollerChosen (name : String)
  | listening (address : String)
  | shutdownRequested
  | serverStopped
  deriving DecidableEq, Repr

namespace Event

/-- The loggers of the parts of the program. -/
def commandLogger : String := "nestshell.commands"

def evaluatorLogger : String := "nestshell.evaluator"

def transportLogger : String := "nestshell.transport"

def applicationLogger : String := "nestshell.app"

/-- The log entry of an event, if it has one. -/
def log? : Event → Option LogEntry
  | registered command shape => some
    ⟨.debug, commandLogger, "command_registered",
      [("command", .text command), ("shape", .text shape)]⟩
  | deciderFailed command shape error => some
    ⟨.warning, commandLogger, "decider_failed",
      [("command", .text command), ("shape", .text shape), ("error", .text error)]⟩
  | unparsed _ e => some
    ⟨.debug, evaluatorLogger, "parse_failed",
      [("kind", .text e.kind.name), ("error", .text e.message)]⟩
  | overlong .. => none
  | attempted .. => none
  | invoked _ _ command values _ => some
    ⟨.debug, evaluatorLogger, "command_invoked",
      [("command", .text command), ("argc", .int values.length)]⟩
  | failed command message => some
    ⟨.debug, evaluatorLogger, "command_failed",
      [("command", .text command), ("error", .text message)]⟩
  | crashed command => some
    ⟨.error, evaluatorLogger, "handler_crashed", [("command", .text command)]⟩
  | returned _ => none
  | inputDiscarded reason => some
    ⟨.warning, transportLogger, "input_discarded", [("reason", .text reason)]⟩
  | streamEnded statements => some
    ⟨.debug, transportLogger, "stream_ended", [("statements", .int statements)]⟩
  | connectionOpened peer => some
    ⟨.info, transportLogger, "connection_opened", [("peer", .text peer)]⟩
  | inputReceived peer statement => some
    ⟨.info, transportLogger, "got_input",
      [("peer", .text peer), ("statement", .text statement)]⟩
  | bufferFull peer => some ⟨.warning, transportLogger, "buffer_full", [("peer", .text peer)]⟩
  | disconnected peer => some
    ⟨.info, transportLogger, "remote_disconnected", [("peer", .text peer)]⟩
  | connectionFailed peer reason => some
    ⟨.error, transportLogger, "connection_error",
      [("peer", .text peer), ("error", .text reason)]⟩
  | pollerChosen _ => none
  | listening address => some
    ⟨.info, transportLogger, "listening", [("address", .text address)]⟩
  | shutdownRequested => some ⟨.info, applicationLogger, "shutdown_requested", []⟩
  | serverStopped => some ⟨.info, applicationLogger, "server_stopped", []⟩

/-- The invocations of host commands among events: the command and its values. -/
def hostCall? : Event → Option (String × List Value)
  | invoked _ _ command values false => some (command, values)
  | _ => none

end Event

end CommandShell
