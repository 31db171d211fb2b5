import CommandShell.Evaluator.Builtin
import CommandShell.Stream.Shell

/-!
# The demonstration commands

A small set of commands over a context that holds one number, the level: `echo`, `add`, `log`,
`neg` and `fail`. The level is set by `log level` with a byte and asked for by `log level` alone.
-/

namespace CommandShell.Demo

open Number

/-- The execution context: the level. -/
structure State where
  level : Int := 0
  deriving DecidableEq, Repr

/-- The arguments in a row. -/
def echo (values : List Value) : Program State := .ofResult (Value.joined " " values)

/-- The sum of the arguments. -/
def add (values : List Value) : Program State :=
  .ofAmount (Value.sum (.whole 0) values)

/-- Sets the level to the argument. -/
def setLevel (values : List Value) : Program State :=
  .withValue values 0 fun
    | .int n => .write { level := n } (.done "")
    | value => .fail (.fault (.wrongKind ("'" ++ value.kindName ++ "' is not a level")))

/-- The level. -/
def getLevel (_ : List Value) : Program State :=
  .read fun s => .done (integerText s.level)

/-- The argument with the opposite sign. -/
def negate (values : List Value) : Program State :=
  .withValue values 0 fun value => .ofAmount value.negate

/-- Fails with the arguments in a row as message. -/
def fail (values : List Value) : Program State :=
  match Value.joined " " values with
  | .ok text => .fail (.command (if text.isEmpty then "Command failed" else text))
  | .error f => .fail (.fault f)

/-- A command of a name, a decider and a program. -/
def command (name : String) (decider : GivenDecider) (label : String)
    (run : List Value → Program State) : Registration (Handler State) :=
  ⟨.text name, decider, .handler { form := .function label, run }⟩

/-- The commands, in the order of registration. -/
def commands : List (Registration (Handler State)) :=
  [ command "echo" .nothing "echo" echo,
    command "echo" (.predicate .manyTexts) "echo" echo,
    command "add" (.predicate .manyInt32) "add" add,
    command "log" (.parts [.part (.keyword "level"), .part (.predicate .anyUInt8)]) "set_level"
      setLevel,
    command "log" (.parts [.part (.keyword "level")]) "get_level" getLevel,
    command "neg" (.predicate .anyInt32) "negate" negate,
    command "fail" .nothing "fail" fail,
    command "fail" (.predicate .manyTexts) "fail" fail ]

/-- A world with one evaluator, of number zero, that has the commands. -/
def world (limits : Limits) : World State :=
  let (t, w) := World.addTable { context := {} }
  let (_, w) := w.addEvaluator limits t
  (w.registerMany t commands).2

/-- Evaluates a line by the evaluator of a world that has the commands. -/
def evaluate (w : World State) (line : String) : Answer × World State :=
  w.evaluate 0 (.line line)

/-- Evaluates lines in order; gives the answer to each with the level after it. -/
def session (w : World State) : List String → List (Answer × Int)
  | [] => []
  | line :: lines =>
    let (answer, w) := evaluate w line
    (answer, w.context.level) :: session w lines

/-- A shell on the commands. -/
def shell (limits : Limits) : Shell State := .start (world limits) 0

end CommandShell.Demo
