import CommandShell.Decider.Predicates

/-!
# Deciders and predicates for hosts

Simple functions that hosts use as deciders or predicates, among them ones that fail or decide
nothing.
-/

namespace CommandShell.Host

open Number

/-- Accepts every row of arguments as texts. -/
def acceptAll (args : List String) : Decision := .accept (args.map .text)

/-- Accepts an even number of arguments and hands over none of them. -/
def evenCount (args : List String) : Decision :=
  if args.length % 2 = 0 then .accept [] else .deny "odd" false

/-- Accepts if the first argument is an integer, and hands it over. -/
def firstInteger : List String → Decision
  | [] => .failed .listIndex
  | arg :: _ =>
    match readInteger arg with
    | .ok n => .accept [.int n]
    | .error e => .failed (.ofIntegerError arg e)

/-- A predicate that refuses everything for a reason. -/
def refusing (description reason : String) (help : Bool) : Predicate where
  description
  consume _ := .error (.denied reason help)

/-- A predicate that takes a fixed number of arguments and gives fixed values. -/
def taking (description : String) (count : Int) (values : List Value) : Predicate where
  description
  consume _ := .ok (count, values)

/-- A predicate that fails. -/
def failing (description : String) (fault : Fault) : Predicate where
  description
  consume _ := .error (.fault fault)

/-- A predicate for one integer of 32 bits above 123. -/
def above123 (description : String) : Predicate :=
  .one description fun arg => do
    let n ← Predicate.readInt32 arg
    if n ≤ 123 then throw (.because "Number is not >123")
    return .int n

end CommandShell.Host
