import CommandShell.Decider.Predicates
import CommandShell.Evaluator.Evaluate
import CommandShell.Evaluator.Values

/-!
# Built-in commands

Every evaluator has three commands of its own. `#` gives its arguments in a row. `?` lists the
names of commands, all of them or those that a pattern is found in. `autocomplete` completes a
name, shows the signatures of a complete one, or tells which signature would take given arguments,
without running anything.

They are added to a table when an evaluator is made on it; a shape that the table already has
under the same name is left alone, so evaluators can share a table.
-/

namespace CommandShell

variable {Ctx : Type}

namespace Decider

/-- Accepts any arguments as texts. -/
def anyTexts : Decider := ofFunction "<text> ..." fun args => .accept (args.map .text)

/-- Accepts a command and at least one argument. -/
def invocation : Decider := ofFunction "<command> <argument> ..." fun args =>
  if args.length < 2 then
    let got := " ".intercalate args
    .deny ("Expected a command and its arguments but got: "
      ++ (if got.isEmpty then "nothing" else got)) false
  else .accept (args.map .text)

end Decider

namespace Builtin

/-- A built-in command, of a name, a decider and a program. -/
def command (name : String) (decider : GivenDecider) (label : String)
    (run : List Value → Program Ctx) : Registration (Handler Ctx) :=
  ⟨.text name, decider, .handler { form := .function label, isBuiltin := true, run }⟩

/-- The arguments in a row. -/
def literal (values : List Value) : Program Ctx := .ofResult (Value.joined " " values)

/-- The names of all commands, one a line. -/
def listAll (_ : List Value) : Program Ctx :=
  .consult fun table => .done ("\n".intercalate table.names)

/-- The names that a pattern is found in, one a line. -/
def query (values : List Value) : Program Ctx :=
  .withText values 0 fun pattern =>
    .consult fun table =>
      match table.search pattern with
      | .ok names => .done ("\n".intercalate names)
      | .error e =>
        match e.fault? with
        | some fault => .fail (.fault fault)
        | none => .fail (.command ("Regex could not be compiled: " ++ e.message pattern))

/-- The names of all commands in a row. -/
def completeAll (_ : List Value) : Program Ctx :=
  .consult fun table => .done (", ".intercalate table.names)

/-- What a beginning of a name can be completed to: a longer name by itself, the name itself by
its signatures. -/
def completions {H : Type} (table : Table H) (start : String) : List String :=
  table.names.flatMap fun name =>
    if name == start then table.signatures name
    else if start.toList.isPrefixOf name.toList then [name]
    else []

/-- The completions of a beginning of a name, in a row. -/
def complete (values : List Value) : Program Ctx :=
  .withText values 0 fun start =>
    .consult fun table =>
      let found := completions table start
      .done (if found.isEmpty then "No more handlers" else ", ".intercalate found)

/-- The signature that takes the arguments of a call. Denials that are meant as help end the
evaluation with their texts. -/
def completeInvocation (values : List Value) : Program Ctx :=
  .withText values 0 fun name =>
    match Value.texts 0 (values.drop 1) with
    | .error f => .fail (.fault f)
    | .ok args =>
      .lookup name args fun
        | .ok signature => .done signature
        | .error (.shell (.noMatch e)) =>
          if e.help.isEmpty then .fail (.shell (.noMatch e))
          else .fail (.help ("\n".intercalate e.help))
        | .error failure => .fail failure

/-- The built-in commands, in the order in which they are added. -/
def commands : List (Registration (Handler Ctx)) :=
  [ command "#" (.decider .anyTexts) "literal" literal,
    command "?" .nothing "list_all" listAll,
    command "?" (.predicate .pattern) "query" query,
    command "autocomplete" .nothing "complete_all" completeAll,
    command "autocomplete" (.predicate .anyText) "complete" complete,
    command "autocomplete" (.decider .invocation) "complete_invocation" completeInvocation ]

/-- Whether a table has an entry of the name and shape of a registration. -/
def isTaken (t : Table (Handler Ctx)) (r : Registration (Handler Ctx)) : Bool :=
  match r.name, r.decider.toDecider with
  | .text name, .ok decider => t.hasShape name decider.description
  | _, _ => false

end Builtin

namespace World

/-- Adds the commands whose shapes a table does not have yet, and stops at the first that is
refused; gives the entries added. -/
def addMissing (w : World Ctx) (t : Nat) :
    List (Registration (Handler Ctx)) →
      Except RegistrationError (List (Entry (Handler Ctx))) × World Ctx
  | [] => (.ok [], w)
  | r :: rs =>
    if Builtin.isTaken (w.table t) r then w.addMissing t rs
    else
      match w.register t r with
      | (.error e, w) => (.error e, w)
      | (.ok entry, w) =>
        match w.addMissing t rs with
        | (.error e, w) => (.error e, w)
        | (.ok entries, w) => (.ok (entry :: entries), w)

/-- Adds the built-in commands to a table. -/
def addBuiltins (w : World Ctx) (t : Nat) :
    Except RegistrationError (List (Entry (Handler Ctx))) × World Ctx :=
  w.addMissing t Builtin.commands

/-- Makes an evaluator on a table; gives its number. -/
def addEvaluator (w : World Ctx) (limits : Limits) (t : Nat) :
    Except RegistrationError Nat × World Ctx :=
  match w.addBuiltins t with
  | (.error e, w) => (.error e, w)
  | (.ok _, w) =>
    (.ok w.evaluators.length, { w with evaluators := w.evaluators ++ [{ limits, table := t }] })

end World

end CommandShell
