import CommandShell.Feedback
import CommandShell.Table.Basic
import CommandShell.Tree.Basic

/-!
# Programs of handlers

A handler runs when its command is called. What it does is a program: a finite or branching
sequence of actions that ends with the output text or a failure. A program may read and replace
the execution context of the host, look into the table its command was found in, register further
commands, and have an evaluator evaluate an input in between. Nothing else is visible to it, so
two runs with the same answers to its actions are the same.
-/

namespace CommandShell

/-- What an evaluator can be asked to evaluate. -/
inductive Input where
  /-- A text of one statement. -/
  | line (text : String)
  /-- A text of any number of statements. -/
  | script (text : String)
  /-- A call tree. -/
  | tree (call : Call)
  deriving DecidableEq

/-- The shown form of a handler. -/
inductive HandlerForm where
  /-- A function of this name. -/
  | function (name : String)
  /-- An object of this name. -/
  | object (name : String)
  deriving DecidableEq, Repr

/-- The form in which a handler is shown. -/
def HandlerForm.shown : HandlerForm → String
  | function name => "FunctionHandler(" ++ Text.quoted name ++ ")"
  | object name => name

/-- A program over contexts of type `Ctx`. -/
inductive Program (Ctx : Type) where
  /-- Ends with the output text. -/
  | done (text : String)
  | fail (failure : Failure)
  | read (next : Ctx → Program Ctx)
  | write (context : Ctx) (next : Program Ctx)
  /-- Looks at the table in which the running command was found. -/
  | consult (next : Table HandlerForm → Program Ctx)
  /-- Resolves a call in that table without running it; gives the signature of the entry. -/
  | lookup (name : String) (args : List String) (next : Except Failure String → Program Ctx)
  /-- Finds an evaluator by its number, a negative one counted from the last; gives its index. -/
  | choose (number : Int) (next : Nat → Program Ctx)
  /-- Registers a command with an evaluator. -/
  | register (evaluator : Nat) (name : GivenName) (decider : GivenDecider) (form : HandlerForm)
      (body : List Value → Program Ctx) (next : Except RegistrationError Unit → Program Ctx)
  /-- Has an evaluator evaluate an input. -/
  | evaluate (evaluator : Nat) (input : Input) (next : Answer → Program Ctx)
  /-- Gives an evaluator so many bytes, at least one, where it needs a text; that fails. -/
  | misread (evaluator length : Nat)

/-- A handler: what it does with the values of its decider. -/
structure Handler (Ctx : Type) where
  form : HandlerForm
  isBuiltin : Bool := false
  run : List Value → Program Ctx

end CommandShell
