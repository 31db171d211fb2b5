import CommandShell.Error

/-!
# Feedback

The result of evaluating a command line, as data: success text, failure text with the kind of the
failure, or help text. Rendering turns it into the response of a text stream.

An evaluation answers with feedback unless it comes to a failure without a text; such a failure
leaves it in place of feedback.
-/

namespace CommandShell

/-- The three outcomes of an evaluation. -/
inductive FeedbackKind where
  | ok
  | err
  | help
  deriving DecidableEq, Repr

/-- The name of an outcome. -/
def FeedbackKind.name : FeedbackKind → String
  | ok => "ok"
  | err => "err"
  | help => "help"

/-- The result of an evaluation. -/
structure Feedback where
  kind : FeedbackKind
  text : String := ""
  error : Option ErrorKind := none
  deriving DecidableEq, Repr

namespace Feedback

def ok (text : String) : Feedback := ⟨.ok, text, none⟩

def err (kind : ErrorKind) (text : String) : Feedback := ⟨.err, text, some kind⟩

def help (text : String) : Feedback := ⟨.help, text, none⟩

/-- The feedback of an error carries its kind and its message unchanged. -/
def ofError (e : ShellError) : Feedback := err e.kind e.message

def isOk (f : Feedback) : Bool := f.kind == .ok

def isErr (f : Feedback) : Bool := f.kind == .err

/-- The response text: empty success and empty help have a text of their own. -/
def render (f : Feedback) : String :=
  match f.kind with
  | .ok => if f.text.isEmpty then "Ok" else f.text
  | .err => "Err: " ++ f.text
  | .help => if f.text.isEmpty then "Empty help message" else f.text

/-- The form in which feedback is shown; the text stands as it is. -/
def shown (f : Feedback) : String :=
  match f.error with
  | some kind => "Feedback.err(" ++ kind.name ++ ", \"" ++ f.text ++ "\")"
  | none => "Feedback." ++ f.kind.name ++ "(\"" ++ f.text ++ "\")"

end Feedback

/-! ### Answers -/

/-- What comes of an evaluation: feedback, or a failure that is raised in place of it because it
could not be reported. -/
inductive Answer where
  | feedback (f : Feedback)
  | raised (failure : Failure)
  deriving DecidableEq, Repr

namespace Answer

def ok (text : String) : Answer := feedback (.ok text)

def err (kind : ErrorKind) (text : String) : Answer := feedback (.err kind text)

def help (text : String) : Answer := feedback (.help text)

/-- The answer to an input that an error ends. -/
def ofError (e : ShellError) : Answer := feedback (.ofError e)

def isOk : Answer → Bool
  | feedback f => f.isOk
  | raised _ => false

/-- The feedback, if there is some. -/
def feedback? : Answer → Option Feedback
  | feedback f => some f
  | raised _ => none

end Answer

end CommandShell
