import CommandShell.Decider.Signature
import CommandShell.Event
import CommandShell.Pattern.Search
import CommandShell.Token.Lexeme

/-!
# Command tables

A table holds entries in the order of their registration. An entry is a name, a decider and a
handler; a name may have several entries as long as their deciders differ in shape. A call is
resolved by the first entry of its name whose decider accepts the arguments. If none accepts, the
reasons of all entries are reported in order. A decider whose failure has no text ends the
resolution with the failure that asking for the text raises.

Tables are generic in the type of handlers, so that a table without its handlers is again a table.
-/

namespace CommandShell

open Number Text

/-- A registered command. -/
structure Entry (H : Type) where
  name : String
  decider : Decider
  handler : H

namespace Entry

variable {H : Type}

/-- The name of an entry and the shape of its arguments. -/
def signature (e : Entry H) : String := trimEnd (e.name ++ " " ++ e.decider.description)

/-- The entry with another handler. -/
def map {H' : Type} (f : H → H') (e : Entry H) : Entry H' := ⟨e.name, e.decider, f e.handler⟩

end Entry

/-- A host may give something else where a name is due. -/
inductive GivenName where
  | text (name : String)
  | other (d : Datum)

/-- A host may give nothing, or something else, where a handler is due. -/
inductive GivenHandler (H : Type) where
  | nothing
  | handler (h : H)
  | other (d : Datum)

/-- What a host wants to register. -/
structure Registration (H : Type) where
  name : GivenName
  decider : GivenDecider := .nothing
  handler : GivenHandler H

/-- The reason of a denial. A host may give something else where a text is due, of which the kind
is kept. -/
inductive Reason where
  | text (s : String)
  | other (kind : String)
  deriving DecidableEq, Repr

/-- The texts of reasons, the first of which is at `index`. -/
def Reason.texts (index : Nat) : List Reason → Except Fault (List String)
  | [] => .ok []
  | .text s :: reasons => (s :: ·) <$> texts (index + 1) reasons
  | .other kind :: _ => .error (.noTextAt index kind)

/-- Why an entry does not accept: the reason, its text if it is meant as help, and what to tell
about a decider that gave no decision. -/
structure Denial where
  reason : Reason
  help : Option String := none
  trouble : Option String := none
  deriving DecidableEq, Repr

/-- What an entry makes of arguments. -/
inductive Judgement where
  | accepts (values : List Value)
  | denies (denial : Denial)
  /-- What its decider did cannot be told: that raises a failure. -/
  | raises (failure : Failure)
  deriving DecidableEq, Repr

/-- Why a call is not resolved. -/
inductive Unresolved where
  /-- No entry accepts. -/
  | noMatch (e : NoMatch)
  /-- A decider, or the reasons together, cannot be told of; this is raised instead. -/
  | raised (failure : Failure)
  deriving DecidableEq, Repr

/-- The failure of a call that is not resolved. -/
def Unresolved.failure : Unresolved → Failure
  | noMatch e => .shell (.noMatch e)
  | raised failure => failure

/-- Entries in the order of registration. -/
structure Table (H : Type) where
  entries : List (Entry H) := []

/-- A short description of a row of arguments. -/
def summarize (args : List String) : String :=
  integerText args.length ++ (if args.length = 1 then " argument" else " arguments")

namespace Table

variable {H : Type}

/-- The entries of a name, in the order of registration. -/
def entriesOf (t : Table H) (name : String) : List (Entry H) :=
  t.entries.filter (·.name == name)

/-- Whether a name has an entry. -/
def contains (t : Table H) (name : String) : Bool := t.entries.any (·.name == name)

/-- The number of entries. -/
def size (t : Table H) : Nat := t.entries.length

/-- The table with other handlers. -/
def map {H' : Type} (f : H → H') (t : Table H) : Table H' := ⟨t.entries.map (Entry.map f)⟩

/-- Order of texts by code points. -/
def textLe (a b : String) : Bool := decide (a ≤ b)

/-- The registered names in ascending order, each once. -/
def names (t : Table H) : List String :=
  ((t.entries.map (·.name)).mergeSort textLe).eraseReps

/-- The signatures of a name. -/
def signatures (t : Table H) (name : String) : List String :=
  (t.entriesOf name).map (·.signature)

/-- The names that a pattern is found in, in ascending order. -/
def search (t : Table H) (pattern : String) : Except Pattern.PatternError (List String) := do
  let p ← Pattern.compile pattern
  t.names.filterM p.search

/-! ### Registration -/

/-- The name that a host gives, if it can name a command. -/
def checkName : GivenName → Except RegistrationError String
  | .text name => if isPlainWord name then .ok name else .error (.invalidName (quoted name))
  | .other d => .error (.invalidName d.shown)

/-- Adds an entry behind all others. -/
def add (t : Table H) (e : Entry H) : Table H := ⟨t.entries ++ [e]⟩

/-- Whether a name has an entry of a shape. -/
def hasShape (t : Table H) (name shape : String) : Bool :=
  (t.entriesOf name).any (·.decider.description == shape)

/-- The entry that a registration asks for, or why it is refused. The name is looked at first,
then whether there is a handler, then the decider and the handler, and last whether the shape is
taken. -/
def checkEntry (t : Table H) (r : Registration H) : Except RegistrationError (Entry H) := do
  let name ← checkName r.name
  let unusable (reason : String) : RegistrationError := .unusable name reason
  if let .nothing := r.handler then throw (.noHandler name)
  let decider ← r.decider.toDecider.mapError unusable
  match r.handler with
  | .nothing => throw (.noHandler name)
  | .other d =>
    throw (unusable ("Handler must be a Handler or callable, got " ++ d.kindName))
  | .handler handler =>
    if t.hasShape name decider.description then throw (.duplicate name decider.description)
    return ⟨name, decider, handler⟩

/-- Registers a command; a refused one leaves the table as it is. -/
def register (t : Table H) (r : Registration H) : Except RegistrationError (Entry H) × Table H :=
  match t.checkEntry r with
  | .ok e => (.ok e, t.add e)
  | .error e => (.error e, t)

/-- Registers commands in order and stops at the first that is refused; those before it stay. -/
def registerMany (t : Table H) :
    List (Registration H) → Except RegistrationError (List (Entry H)) × Table H
  | [] => (.ok [], t)
  | r :: rs =>
    match t.register r with
    | (.error e, t) => (.error e, t)
    | (.ok entry, t) =>
      match t.registerMany rs with
      | (.error e, t) => (.error e, t)
      | (.ok entries, t) => (.ok (entry :: entries), t)

/-! ### Resolution -/

/-- What an entry makes of arguments. -/
def judge (e : Entry H) (args : List String) : Judgement :=
  let description :=
    if e.decider.description.isEmpty then "no arguments" else e.decider.description
  match e.decider.decide args with
  | .accept values => .accepts values
  | .deny reason false => .denies { reason := .text reason }
  | .deny reason true =>
    .denies { reason := .text ("Expected " ++ description ++ " but got denied: " ++ reason),
              help := some reason }
  | .unfit kind => .denies { reason := .other kind }
  | .other shown =>
    .denies { reason := .text
                ("Expected " ++ description ++ " but the decider returned " ++ shown),
              trouble := some ("returned " ++ shown) }
  | .failed fault =>
    .denies { reason := .text ("Expected " ++ description ++ " but got: " ++ fault.text),
              trouble := some fault.message }
  | .mute raised => .raises raised

/-- The first entry that accepts, or the failure that one in front of it raises, behind the denials
of the entries before it. -/
def firstAccepting (args : List String) : List (Entry H) →
    List (Entry H × Denial) × Option (Except Failure (Entry H × List Value))
  | [] => ([], none)
  | e :: es =>
    match judge e args with
    | .accepts values => ([], some (.ok (e, values)))
    | .raises failure => ([], some (.error failure))
    | .denies denial =>
      let (denials, found) := firstAccepting args es
      ((e, denial) :: denials, found)

/-- The event of a decider that gave no decision. -/
def troubleEvent (e : Entry H) (d : Denial) : Option Event :=
  d.trouble.map (.deciderFailed e.name e.decider.description)

/-- Why a call with these denials is not resolved. The reasons are put in a row, which only texts
can be. -/
def unmatched (name : String) (args : List String) (denials : List Denial) : Unresolved :=
  match Reason.texts 0 (denials.map (·.reason)) with
  | .ok reasons =>
    .noMatch { command := name, summary := summarize args, reasons,
               help := denials.filterMap (·.help) }
  | .error f => .raised (.fault f)

/-- Resolves a call: the accepting entry with its values, or the reasons of all entries. The
events tell of deciders that gave no decision. -/
def resolve (t : Table H) (name : String) (args : List String) :
    Except Unresolved (Entry H × List Value) × List Event :=
  let (denials, found) := firstAccepting args (t.entriesOf name)
  let events := denials.filterMap fun (e, d) => troubleEvent e d
  match found with
  | some (.ok accepted) => (.ok accepted, events)
  | some (.error failure) => (.error (.raised failure), events)
  | none => (.error (unmatched name args (denials.map (·.2))), events)

end Table

end CommandShell
