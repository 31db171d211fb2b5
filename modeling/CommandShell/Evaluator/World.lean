import CommandShell.Evaluator.Program
import CommandShell.Limits

/-!
# Worlds

A world holds command tables, evaluators that work on them, the execution context of the host,
and the events so far. Several evaluators may share a table. While a handler runs, its evaluator
remembers how much depth is left below the node that was called.
-/

namespace CommandShell

/-- An evaluator: its limits, its table, and the depth that is left while a handler runs. -/
structure Evaluator where
  limits : Limits := .standard
  table : Nat
  remaining : Option Int := none
  deriving DecidableEq

/-- Tables, evaluators, the context of the host and what happened. -/
structure World (Ctx : Type) where
  tables : List (Table (Handler Ctx)) := []
  evaluators : List Evaluator := []
  context : Ctx
  events : Array Event := #[]

namespace World

variable {Ctx : Type}

/-- Records an event. -/
def record (w : World Ctx) (e : Event) : World Ctx := { w with events := w.events.push e }

/-- Records events in order. -/
def recordAll (w : World Ctx) (es : List Event) : World Ctx :=
  { w with events := w.events ++ es.toArray }

/-- The table of an index; one that does not exist is empty. -/
def table (w : World Ctx) (t : Nat) : Table (Handler Ctx) := w.tables[t]?.getD {}

/-- Replaces a table. -/
def setTable (w : World Ctx) (t : Nat) (table : Table (Handler Ctx)) : World Ctx :=
  { w with tables := w.tables.set t table }

/-- The evaluator of a number, with its index; a negative number counts from the last. -/
def evaluator? (w : World Ctx) (number : Int) : Option (Nat × Evaluator) :=
  let index := if number < 0 then number + w.evaluators.length else number
  if index < 0 then none
  else (w.evaluators[index.toNat]?).map fun e => (index.toNat, e)

/-- Sets the depth that is left for an evaluator. -/
def setRemaining (w : World Ctx) (ev : Nat) (remaining : Option Int) : World Ctx :=
  { w with evaluators := w.evaluators.modify ev fun e => { e with remaining } }

/-- Registers a command in a table. -/
def register (w : World Ctx) (t : Nat) (r : Registration (Handler Ctx)) :
    Except RegistrationError (Entry (Handler Ctx)) × World Ctx :=
  match (w.table t).register r with
  | (.error e, _) => (.error e, w)
  | (.ok entry, table) =>
    (.ok entry, (w.setTable t table).record (.registered entry.name entry.decider.description))

/-- Registers commands in order and stops at the first that is refused. -/
def registerMany (w : World Ctx) (t : Nat) :
    List (Registration (Handler Ctx)) →
      Except RegistrationError (List (Entry (Handler Ctx))) × World Ctx
  | [] => (.ok [], w)
  | r :: rs =>
    match w.register t r with
    | (.error e, w) => (.error e, w)
    | (.ok entry, w) =>
      match w.registerMany t rs with
      | (.error e, w) => (.error e, w)
      | (.ok entries, w) => (.ok (entry :: entries), w)

/-- Adds a table. -/
def addTable (w : World Ctx) : Nat × World Ctx :=
  (w.tables.length, { w with tables := w.tables ++ [{}] })

/-- Resolves a call in a table and records what its deciders got wrong. -/
def resolve (w : World Ctx) (t : Nat) (name : String) (args : List String) :
    Except Unresolved (Entry (Handler Ctx) × List Value) × World Ctx :=
  let (result, events) := (w.table t).resolve name args
  (result, w.recordAll events)

end World

end CommandShell
