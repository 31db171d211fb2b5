import CommandShell.Feedback
import CommandShell.Stream.Splitter
import CommandShell.Text.Blank

/-!
# Framing a stream

A framer gathers the characters of a stream into statements. It never holds more than the allowed
number of characters: a statement that grows beyond it is reported once and skipped up to the
newline that ends it, and so is a statement with a closing parenthesis too many. Blank statements
are dropped.

Feeding works character by character, so how a stream is cut into chunks does not matter.
-/

namespace CommandShell

open Number

/-- Why a statement is discarded. -/
inductive FrameError where
  | unbalanced
  | tooLong (maximum : Int)
  deriving DecidableEq, Repr

/-- The error that reports a discarded statement. -/
def FrameError.feedback : FrameError → Feedback
  | unbalanced => .err .unbalancedParentheses Defect.unmatchedClose.summary
  | tooLong maximum => .err .inputTooLong
      ("Input too long, statement discarded (maximum is " ++ integerText maximum
        ++ " characters)")

/-- A complete statement, or an error that takes its place. -/
inductive StreamFrame where
  | statement (text : String)
  | error (e : FrameError)
  deriving DecidableEq, Repr

/-- The state of framing. -/
structure Framer where
  maximum : Int
  splitter : Splitter := {}
  buffer : Array Char := #[]
  discarding : Bool := false
  overflowed : Bool := false

namespace Framer

/-- Takes one character; at most one frame results. -/
def step (f : Framer) (c : Char) : Framer × Option StreamFrame :=
  let (splitter, advice) := f.splitter.feed c
  let f := { f with splitter }
  match advice with
  | .discard =>
    ({ f with discarding := true, buffer := #[] },
      if f.discarding then none else some (.error .unbalanced))
  | .ready =>
    let skipped := f.discarding || f.overflowed
    let statement := String.ofList f.buffer.toList
    ({ f with discarding := false, overflowed := false, buffer := #[] },
      if skipped || Text.allBlank statement then none else some (.statement statement))
  | .unready =>
    if f.overflowed then (f, none)
    else
      let buffer := f.buffer.push c
      if f.maximum < buffer.size then
        ({ f with overflowed := true, buffer := #[] }, some (.error (.tooLong f.maximum)))
      else ({ f with buffer }, none)

/-- Takes characters in order and gathers the frames behind those already there. -/
def feedFrom (f : Framer) (frames : Array StreamFrame) : List Char → Framer × Array StreamFrame
  | [] => (f, frames)
  | c :: cs =>
    let (f, frame) := f.step c
    feedFrom f (match frame with | some frame => frames.push frame | none => frames) cs

/-- Takes a chunk of characters. -/
def feed (f : Framer) (chunk : String) : Framer × List StreamFrame :=
  let (f, frames) := f.feedFrom #[] chunk.toList
  (f, frames.toList)

/-- The text of the statement that is not ended yet. -/
def pending (f : Framer) : String := String.ofList f.buffer.toList

end Framer

end CommandShell
