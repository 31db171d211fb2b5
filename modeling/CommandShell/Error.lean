import CommandShell.Number.Amount
import CommandShell.Text.Blank
import CommandShell.Text.Quoted

/-!
# Errors

Every failure that the interpreter reports has a kind and a message. A parse error is a cause
together with the place it points at; a refused registration and an unmatched command carry what
their messages are made of. A fault is a failure of host code that the interpreter did not ask
for; it has a name and a text.

Host code fails in one of these ways, or in a mute one: who reports such a failure asks for its
message or its text, and asking raises a failure of its own.
-/

namespace CommandShell

open Number Text

/-- The kinds of failure a host can tell apart. -/
inductive ErrorKind where
  | inputTooLong
  | unbalancedParentheses
  | emptyCommand
  | unexpectedToken
  | depthExceeded
  | registration
  | duplicateRegistration
  | noMatch
  | handlerFailed
  deriving DecidableEq, Repr

namespace ErrorKind

/-- The name of a kind in feedback and log events. -/
def name : ErrorKind → String
  | inputTooLong => "input_too_long"
  | unbalancedParentheses => "unbalanced_parentheses"
  | emptyCommand => "empty_command"
  | unexpectedToken => "unexpected_token"
  | depthExceeded => "depth_exceeded"
  | registration => "registration"
  | duplicateRegistration => "duplicate_registration"
  | noMatch => "no_match"
  | handlerFailed => "handler_failed"

/-- All kinds. -/
def all : List ErrorKind :=
  [inputTooLong, unbalancedParentheses, emptyCommand, unexpectedToken, depthExceeded,
   registration, duplicateRegistration, noMatch, handlerFailed]

/-- The kind of a name. -/
def ofName? (name : String) : Option ErrorKind := all.find? fun kind => kind.name == name

end ErrorKind

/-! ### Parse errors -/

/-- What is wrong with a command line or its tokens. -/
inductive Defect where
  /-- The text has more characters than allowed. -/
  | tooLong (length : Nat) (maximum : Int)
  /-- A closing parenthesis has no partner. -/
  | unmatchedClose
  /-- An opening parenthesis has no partner. -/
  | danglingOpen
  /-- A literal region is not closed. -/
  | unclosedLiteral
  /-- A parenthesis opens where a command name is due. -/
  | openForName
  /-- A parenthesis closes a scope that has no command name. -/
  | emptyScope
  /-- There is no command at all. -/
  | nothing
  /-- Input follows the end of the statement. -/
  | trailingInput
  /-- The tokens behind a literal marker are not those of a literal. -/
  | malformedLiteral
  /-- A literal marker stands outside of a literal. -/
  | strayMarker
  /-- Something that is no token stands among the tokens. -/
  | unknownToken (shown : String)
  /-- A call is nested deeper than the limit. -/
  | tooDeep (depth : Nat) (maximum : Int)
  /-- A tree is deeper than the depth that is left. -/
  | overBudget (remaining : Nat)
  /-- A node is deeper than the depth that is left. -/
  | overBudgetAt (name : String)
  /-- A defect that a host reports in its own words. -/
  | reported (kind : ErrorKind) (summary : String)
  deriving DecidableEq, Repr

namespace Defect

def kind : Defect → ErrorKind
  | tooLong .. => .inputTooLong
  | unmatchedClose | danglingOpen | unclosedLiteral => .unbalancedParentheses
  | openForName | emptyScope | nothing => .emptyCommand
  | trailingInput | malformedLiteral | strayMarker | unknownToken _ => .unexpectedToken
  | tooDeep .. | overBudget _ | overBudgetAt _ => .depthExceeded
  | reported kind _ => kind

/-- The sentence that states the defect. -/
def summary : Defect → String
  | tooLong length maximum =>
    "Command too long (" ++ integerText length ++ " characters). Maximum is "
      ++ integerText maximum ++ "."
  | unmatchedClose => "Right parenthesis encountered with no matching left parenthesis"
  | danglingOpen => "Dangling left parenthesis - missing closing parenthesis"
  | unclosedLiteral => "Unclosed literal string (#... - missing closing parenthesis"
  | openForName => "Expected a command name, found '('"
  | emptyScope => "Empty command '()'"
  | nothing => "Empty command, expected a command name"
  | trailingInput => "Unexpected input after end of statement (newline outside parentheses)"
  | malformedLiteral => "Malformed literal string, expected (#text)"
  | strayMarker => "Literal marker outside of (#...)"
  | unknownToken shown => "Unknown token " ++ shown
  | tooDeep depth maximum =>
    "Command nesting too deep (depth " ++ integerText depth ++ "). Maximum is "
      ++ integerText maximum ++ "."
  | overBudget remaining =>
    "Command nesting too deep for remaining depth " ++ integerText remaining
  | overBudgetAt name => "Command nesting too deep at '" ++ name ++ "'"
  | reported _ summary => summary

end Defect

/-- A defect, the position it points at and the text around that position. -/
structure ParseError where
  defect : Defect
  position : Option Int := none
  excerpt : Option String := none
  deriving DecidableEq, Repr

namespace ParseError

def kind (e : ParseError) : ErrorKind := e.defect.kind

def message (e : ParseError) : String :=
  let place := match e.position with
    | some p => " (at position " ++ integerText p ++ ")"
    | none => ""
  let near := match e.excerpt with
    | some text => if text.isEmpty then "" else "\n  Near: " ++ text
    | none => ""
  e.defect.summary ++ place ++ near

end ParseError

/-! ### Registration errors -/

/-- Why a command is not registered. -/
inductive RegistrationError where
  | invalidName (shown : String)
  | noHandler (name : String)
  | unusable (name reason : String)
  | duplicate (name shape : String)
  | reported (text : String)
  deriving DecidableEq, Repr

namespace RegistrationError

def kind : RegistrationError → ErrorKind
  | duplicate .. => .duplicateRegistration
  | _ => .registration

def message : RegistrationError → String
  | invalidName shown =>
    "Invalid command name " ++ shown
      ++ ". Names must be non-empty and contain no whitespace or parentheses."
  | noHandler name => "No handler given for command '" ++ name ++ "'"
  | unusable name reason => "Cannot register '" ++ name ++ "': " ++ reason
  | duplicate name shape => "Command already registered: " ++ trimEnd (name ++ " " ++ shape)
  | reported text => text

end RegistrationError

/-! ### Errors of evaluation -/

/-- No entry of a command accepted the arguments: one reason per entry, and the texts of the
denials that were meant as help. -/
structure NoMatch where
  command : String
  summary : String
  reasons : List String := []
  help : List String := []
  deriving DecidableEq, Repr

namespace NoMatch

def message (e : NoMatch) : String :=
  if e.reasons.isEmpty then "Unrecognized command: " ++ e.command
  else e.command ++ " (" ++ e.summary ++ "): " ++ "; ".intercalate e.reasons

end NoMatch

/-- An error of the interpreter. -/
inductive ShellError where
  | parse (e : ParseError)
  | registration (e : RegistrationError)
  | noMatch (e : NoMatch)
  | handlerFailed (text : String)
  deriving DecidableEq, Repr

namespace ShellError

def kind : ShellError → ErrorKind
  | parse e => e.kind
  | registration e => e.kind
  | noMatch _ => .noMatch
  | handlerFailed _ => .handlerFailed

def message : ShellError → String
  | parse e => e.message
  | registration e => e.message
  | noMatch e => e.message
  | handlerFailed text => text

end ShellError

/-! ### Faults -/

namespace Number.AmountError

/-- The name under which an operation on amounts fails. -/
def faultName : AmountError → String
  | wholeDivisionByZero | realDivisionByZero => "ZeroDivisionError"
  | outOfRange => "OverflowError"
  | tooManyDigits => "ValueError"

/-- The text with which an operation on amounts fails. -/
def faultText : AmountError → String
  | wholeDivisionByZero => "integer division or modulo by zero"
  | realDivisionByZero => "float floor division by zero"
  | outOfRange => "int too large to convert to float"
  | tooManyDigits =>
    "Exceeds the limit (" ++ integerText maxDigits
      ++ " digits) for integer string conversion; use sys.set_int_max_str_digits() to increase "
      ++ "the limit"

end Number.AmountError

/-- An unexpected failure of host code. -/
inductive Fault where
  /-- A text is not an integer. -/
  | notInteger (text : String)
  /-- An integer text has too many digits. -/
  | tooManyDigits (count : Nat)
  /-- An operation on amounts has no result. -/
  | arithmetic (e : AmountError)
  /-- A list has no element at the index asked for. -/
  | listIndex
  /-- A row of arguments has no element at the index asked for. -/
  | argumentIndex
  /-- A value is not of the kind an operation needs. -/
  | wrongKind (reason : String)
  /-- A value of this kind lacks something that an operation asks of it. -/
  | lacking (kind member : String)
  /-- A record has nothing under a key, which is given as it is shown. -/
  | missing (shown : String)
  /-- A value of the right kind is refused. -/
  | refused (reason : String)
  /-- A server cannot be reached. -/
  | unreachable
  /-- A port that a server cannot listen on. -/
  | portOutOfRange
  /-- A fault that a host raises under a name of its own. -/
  | raised (name text : String)
  deriving DecidableEq, Repr

namespace Fault

/-- The name under which a fault is reported. -/
def name : Fault → String
  | notInteger _ | tooManyDigits _ | refused _ => "ValueError"
  | arithmetic e => e.faultName
  | listIndex | argumentIndex => "IndexError"
  | wrongKind _ => "TypeError"
  | lacking .. => "AttributeError"
  | missing _ => "KeyError"
  | unreachable => "OSError"
  | portOutOfRange => "OverflowError"
  | raised name _ => name

/-- How much of a quoted text is shown that is not an integer. -/
def shownLength : Nat := 200

/-- The text of a fault. A missing key is quoted. -/
def text : Fault → String
  | notInteger text =>
    "invalid literal for int() with base 10: "
      ++ String.ofList ((quoted text).toList.take shownLength)
  | tooManyDigits count =>
    "Exceeds the limit (" ++ integerText maxDigits
      ++ " digits) for integer string conversion: value has " ++ integerText count
      ++ " digits; use sys.set_int_max_str_digits() to increase the limit"
  | arithmetic e => e.faultText
  | listIndex => "list index out of range"
  | argumentIndex => "tuple index out of range"
  | wrongKind reason => reason
  | lacking kind member => "'" ++ kind ++ "' object has no attribute '" ++ member ++ "'"
  | missing shown => shown
  | refused reason => reason
  | unreachable => "[Errno 101] Network is unreachable"
  | portOutOfRange => "bind(): port must be 0-65535."
  | raised name text => if name == "KeyError" then quoted text else text

/-- The fault of a row of texts that has a value of another kind at an index. -/
def noTextAt (index : Nat) (kind : String) : Fault :=
  .wrongKind ("sequence item " ++ integerText index ++ ": expected str instance, " ++ kind
    ++ " found")

/-- The fault of a text that is not read as an integer. -/
def ofIntegerError (text : String) : IntegerError → Fault
  | .malformed => .notInteger text
  | .tooManyDigits count => .tooManyDigits count

/-- The name and the text of a fault, as one message. -/
def message (f : Fault) : String := f.name ++ ": " ++ f.text

end Fault

/-! ### Failures -/

/-- How host code fails. -/
inductive Failure where
  /-- It reports that the command failed. -/
  | command (message : String)
  /-- It passes on an error of the interpreter. -/
  | shell (e : ShellError)
  /-- It gives help instead of a result. -/
  | help (text : String)
  /-- It fails unexpectedly. -/
  | fault (f : Fault)
  /-- It reports that the command failed, but asking for the message raises another failure. -/
  | muteCommand (raised : Failure)
  /-- It passes on an error of the interpreter, or help, but asking for the text raises another
  failure. -/
  | muteShell (raised : Failure)
  /-- It fails unexpectedly, and asking for the text raises another failure. -/
  | muteFault (raised : Failure)
  deriving DecidableEq, Repr

end CommandShell
