import CommandShell.Evaluator.World
import CommandShell.Tree.Parse

/-!
# Evaluation

A call is evaluated from the inside out: its arguments from left to right, then the call itself,
which is resolved with the texts of its arguments and invoked. The first failure ends the whole
evaluation, and its text is the feedback. A failure without a text has no feedback: what asking for
the text raises leaves the evaluation, unless it is an error of the interpreter or help itself.

Handlers may have evaluators evaluate further inputs. The depth of such inputs counts against what
is left of the limit of their evaluator: while a handler runs for a node, its evaluator keeps the
depth below that node, and an input that is evaluated meanwhile starts one level deeper. A tree
that does not fit is refused before anything of it runs. Each nested evaluation takes at least one
from what its evaluator has left, so the sum over all evaluators bounds the nesting; that sum is
the fuel of `World.evaluate`, and no fuel is in sight outside.
-/

namespace CommandShell

variable {Ctx : Type}

/-- What ends an evaluation early. -/
inductive Abort where
  | error (e : ShellError)
  | help (text : String)
  /-- A failure that no feedback is made of. -/
  | raised (failure : Failure)
  deriving DecidableEq, Repr

/-- The answer of an evaluation that ended early. -/
def Abort.answer : Abort → Answer
  | error e => .ofError e
  | help text => .help text
  | raised failure => .raised failure

/-- How an evaluation ends with a failure that is raised in it, outside of handlers. -/
def Failure.abort : Failure → Abort
  | shell e => .error e
  | help text => .help text
  | muteShell raised => .raised raised
  | failure => .raised failure

/-- Evaluation of an input by an evaluator, as handlers see it. -/
abbrev Reentry (Ctx : Type) := Nat → Input → World Ctx → Answer × World Ctx

/-- Runs a program of a command that was found in table `t`. -/
def Program.run (reenter : Reentry Ctx) (t : Nat) :
    Program Ctx → World Ctx → Except Failure String × World Ctx
  | done text, w => (.ok text, w)
  | fail failure, w => (.error failure, w)
  | read next, w => (next w.context).run reenter t w
  | write context next, w => next.run reenter t { w with context }
  | consult next, w => (next ((w.table t).map (·.form))).run reenter t w
  | lookup name args next, w =>
    let (result, w) := w.resolve t name args
    (next ((result.map (·.1.signature)).mapError (·.failure))).run reenter t w
  | choose number next, w =>
    match w.evaluator? number with
    | none => (.error (.fault .listIndex), w)
    | some (ev, _) => (next ev).run reenter t w
  | register ev name decider form body next, w =>
    match w.evaluators[ev]? with
    | none => (.error (.fault .listIndex), w)
    | some e =>
      let (result, w) := w.register e.table ⟨name, decider, .handler { form, run := body }⟩
      (next (result.map fun _ => ())).run reenter t w
  | evaluate ev input next, w =>
    match w.evaluators[ev]? with
    | none => (.error (.fault .listIndex), w)
    | some _ =>
      let (answer, w) := reenter ev input w
      (next answer).run reenter t w
  | misread ev length, w =>
    match w.evaluators[ev]? with
    | none => (.error (.fault .listIndex), w)
    | some e =>
      if e.limits.maxLength < length then
        (.error (.fault (.wrongKind "can't concat str to bytes")), w.record (.overlong ev length))
      else (.error (.fault (.lacking "int" "isspace")), w)

/-- The outcome of a handler as the outcome of its call, with the event that it failed. The message
of a failure is asked for in front of the event, the text of a fault behind it. -/
def outcome (command : String) : Except Failure String → Except Abort String × List Event
  | .ok text => (.ok text, [])
  | .error (.command message) =>
    (.error (.error (.handlerFailed message)), [.failed command message])
  | .error (.fault f) => (.error (.error (.handlerFailed f.message)), [.crashed command])
  | .error (.muteCommand raised) => (.error raised.abort, [])
  | .error (.muteFault raised) => (.error raised.abort, [.crashed command])
  | .error failure => (.error failure.abort, [])

/-- Invokes a handler for a node at `level` of a tree that has `budget` for its depth. While it
runs, the evaluator keeps the depth left below the node; afterwards it has again what it had. -/
def invoke (reenter : Reentry Ctx) (ev t : Nat) (budget : Int) (level : Nat)
    (entry : Entry (Handler Ctx)) (values : List Value) (w : World Ctx) :
    Except Abort String × World Ctx :=
  let previous := w.evaluators[ev]?.bind (·.remaining)
  let w := w.record (.invoked ev level entry.name values entry.handler.isBuiltin)
  let w := w.setRemaining ev (some (budget - level))
  let (result, w) := (entry.handler.run values).run reenter t w
  let (result, events) := outcome entry.name result
  let w := (w.recordAll events).record (.returned ev)
  (result, w.setRemaining ev previous)

/-- Resolves a call with the texts of its arguments and invokes it. -/
def perform (reenter : Reentry Ctx) (ev t : Nat) (budget : Int) (level : Nat)
    (name : String) (args : List String) (w : World Ctx) : Except Abort String × World Ctx :=
  match w.resolve t name args with
  | (.error e, w) => (.error e.failure.abort, w)
  | (.ok (entry, values), w) => invoke reenter ev t budget level entry values w

mutual

/-- The text of an argument at `level` of a tree. -/
def Arg.evaluate (reenter : Reentry Ctx) (ev t : Nat) (budget : Int) (level : Nat) :
    Arg → World Ctx → Except Abort String × World Ctx
  | literal text, w => (.ok text, w)
  | call name args, w =>
    if budget - level < 0 then
      (.error (.error (.parse { defect := .overBudgetAt name })), w)
    else
      match Arg.evaluateAll reenter ev t budget (level + 1) args w with
      | (.error e, w) => (.error e, w)
      | (.ok texts, w) => perform reenter ev t budget level name texts w

/-- The texts of a row of arguments, from left to right. -/
def Arg.evaluateAll (reenter : Reentry Ctx) (ev t : Nat) (budget : Int) (level : Nat) :
    List Arg → World Ctx → Except Abort (List String) × World Ctx
  | [], w => (.ok [], w)
  | arg :: args, w =>
    match arg.evaluate reenter ev t budget level w with
    | (.error e, w) => (.error e, w)
    | (.ok text, w) =>
      match Arg.evaluateAll reenter ev t budget level args w with
      | (.error e, w) => (.error e, w)
      | (.ok texts, w) => (.ok (text :: texts), w)

end

/-- The depth that an evaluator has for the next tree. -/
def Evaluator.budget (e : Evaluator) : Int :=
  match e.remaining with
  | none => e.limits.maxDepth
  | some remaining => remaining - 1

/-- Evaluates a tree by an evaluator, if it fits. -/
def evaluateTree (reenter : Reentry Ctx) (ev : Nat) (e : Evaluator) (call : Call)
    (w : World Ctx) : Answer × World Ctx :=
  let budget := e.budget
  if budget < 0 ∨ budget < call.depth then
    (.ofError (.parse { defect := .overBudget budget.toNat }),
      w.record (.attempted ev call.depth false))
  else
    let w := w.record (.attempted ev call.depth true)
    match call.toArg.evaluate reenter ev e.table budget 0 w with
    | (.ok text, w) => (.ok text, w)
    | (.error abort, w) => (abort.answer, w)

/-- Evaluates trees in order up to the first that does not succeed; the last answer counts. -/
def evaluateTrees (reenter : Reentry Ctx) (ev : Nat) (e : Evaluator) (last : Answer) :
    List Call → World Ctx → Answer × World Ctx
  | [], w => (last, w)
  | call :: calls, w =>
    let (answer, w) := evaluateTree reenter ev e call w
    if answer.isOk then evaluateTrees reenter ev e answer calls w else (answer, w)

/-- Evaluates an input by an evaluator. All of a script is parsed before any of it runs. -/
def evaluateInput (reenter : Reentry Ctx) : Reentry Ctx := fun ev input w =>
  match w.evaluators[ev]? with
  | none => (.err .handlerFailed Fault.listIndex.message, w)
  | some e =>
    let refuse (error : ParseError) : Answer × World Ctx :=
      (.ofError (.parse error), w.record (.unparsed ev error))
    match input with
    | .line text =>
      match parse text e.limits with
      | .error error => refuse error
      | .ok call => evaluateTree reenter ev e call w
    | .script text =>
      match parseScript text e.limits with
      | .error error => refuse error
      | .ok calls => evaluateTrees reenter ev e (.ok "") calls w
    | .tree call => evaluateTree reenter ev e call w

/-- Evaluation with at most `fuel` nested evaluations; deeper ones have no depth left and are
refused by their evaluators. -/
def evaluateWithin : (fuel : Nat) → Reentry Ctx
  | 0 => evaluateInput fun _ _ w =>
      (.ofError (.parse { defect := .overBudget 0 }), w)
  | fuel + 1 => evaluateInput (evaluateWithin fuel)

/-- How many nested evaluations an evaluator can still take. -/
def Evaluator.slack (e : Evaluator) : Nat := (e.budget + 1).toNat

/-- How many nested evaluations evaluators together can still take. -/
def Evaluator.totalSlack : List Evaluator → Nat
  | [] => 0
  | e :: es => e.slack + totalSlack es

namespace World

/-- How many nested evaluations all evaluators together can still take. -/
def slack (w : World Ctx) : Nat := Evaluator.totalSlack w.evaluators

/-- Evaluates an input by an evaluator. -/
def evaluate (w : World Ctx) (ev : Nat) (input : Input) : Answer × World Ctx :=
  evaluateWithin w.slack ev input w

/-- Runs a command of a table directly, without an evaluator around it. -/
def call (w : World Ctx) (t : Nat) (name : String) (args : List String) :
    Except Failure String × World Ctx :=
  match w.resolve t name args with
  | (.error e, w) => (.error e.failure, w)
  | (.ok (entry, values), w) =>
    (entry.handler.run values).run (evaluateWithin w.slack) t w

end World

end CommandShell
