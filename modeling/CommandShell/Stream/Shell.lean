import CommandShell.Evaluator.Evaluate
import CommandShell.Stream.Framer
import CommandShell.Stream.Pieces

/-!
# The stream shell

A shell reads a stream of characters, evaluates its statements in order and answers each by one
response, also those that framing discards. Statements end at newlines outside parentheses. A last
statement that no newline ends is evaluated too, when the stream ends. A failure that evaluation
raises in place of feedback stops the shell.
-/

namespace CommandShell

variable {Ctx : Type}

/-- The limits of an evaluator; one that does not exist has the default limits. -/
def World.limits (w : World Ctx) (ev : Nat) : Limits :=
  ((w.evaluators[ev]?).map (·.limits)).getD .standard

/-- A shell on an evaluator: the state of framing, the responses so far, how many statements were
evaluated, and the failure that stopped it if one did. -/
structure Shell (Ctx : Type) where
  world : World Ctx
  evaluator : Nat
  framer : Framer
  responses : Array Feedback := #[]
  count : Nat := 0
  failure : Option Failure := none

namespace Shell

/-- A shell that has read nothing. -/
def start (w : World Ctx) (ev : Nat) : Shell Ctx where
  world := w
  evaluator := ev
  framer := { maximum := (w.limits ev).maxLength }

/-- Writes a response. -/
def respond (s : Shell Ctx) (f : Feedback) : Shell Ctx :=
  { s with responses := s.responses.push f }

/-- Evaluates a statement and answers it. -/
def evaluate (s : Shell Ctx) (statement : String) : Shell Ctx :=
  match s.world.evaluate s.evaluator (.line statement) with
  | (.feedback f, world) => { s with world, count := s.count + 1 }.respond f
  | (.raised failure, world) => { s with world, failure := some failure }

/-- Answers a frame; a shell that has stopped answers no more. -/
def handle (s : Shell Ctx) (frame : StreamFrame) : Shell Ctx :=
  match s.failure, frame with
  | some _, _ => s
  | none, .statement text => s.evaluate text
  | none, .error e =>
    { s with world := s.world.record (.inputDiscarded e.feedback.text) }.respond e.feedback

/-- Takes a chunk of the stream. -/
def process (s : Shell Ctx) (chunk : String) : Shell Ctx :=
  let (framer, frames) := s.framer.feed chunk
  frames.foldl handle { s with framer }

/-- Evaluates what is left in the buffer, if it is a statement that was not discarded. -/
def flush (s : Shell Ctx) : Shell Ctx :=
  let rest := s.framer.pending
  if Text.allBlank rest || s.framer.overflowed || s.framer.discarding then s
  else s.handle (.statement rest)

/-- Takes the end of the stream. -/
def finish (s : Shell Ctx) : Shell Ctx :=
  let s := s.flush
  match s.failure with
  | some _ => s
  | none => { s with world := s.world.record (.streamEnded s.count) }

/-- Takes a whole stream, chunk by chunk. -/
def run (s : Shell Ctx) (chunks : List String) : Shell Ctx := (chunks.foldl process s).finish

/-- How many characters are read at a time. -/
def chunkSize : Int := 1024

/-- Reads a text, `size` characters at a time. -/
def runText (s : Shell Ctx) (text : String) (size : Int := chunkSize) : Shell Ctx :=
  s.run ((reads size text.toList).map String.ofList)

/-- What the shell has written: one response after the other, each with a newline. -/
def output (s : Shell Ctx) : String :=
  String.join (s.responses.toList.map fun f => f.render ++ "\n")

end Shell

end CommandShell
