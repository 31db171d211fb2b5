import CommandShell.Datum
import CommandShell.Error

/-!
# Deciders

A decider looks at the arguments of a call, as texts, and accepts or denies them. Acceptance hands
over values for the handler; a denial gives a reason, which may be meant as help. Host code inside
a decider can also fail, return something that is no decision, or give a reason that is no text.

The description of a decider is its shape: two deciders of one description count as the same.
-/

namespace CommandShell

/-- What a decider makes of a row of arguments. -/
inductive Decision where
  | accept (values : List Value)
  | deny (reason : String) (help : Bool)
  /-- The decider denied, not as help, for a reason of this kind, which is no text. -/
  | unfit (kind : String)
  /-- The decider returned something else. -/
  | other (shown : String)
  /-- The decider failed. -/
  | failed (fault : Fault)
  /-- The decider failed or returned something else, and showing what it was raises a failure. -/
  | mute (raised : Failure)
  deriving DecidableEq, Repr

/-- How a decider was made; it is part of its shown form. -/
inductive DeciderForm where
  | signature
  | function
  deriving DecidableEq, Repr

/-- The name of a form. -/
def DeciderForm.name : DeciderForm → String
  | signature => "Signature"
  | function => "FunctionDecider"

/-- A decider, with the description that is its shape. -/
structure Decider where
  form : DeciderForm
  description : String
  decide : List String → Decision

namespace Decider

/-- The form in which a decider is shown. -/
def shown (d : Decider) : String := d.form.name ++ "(\"" ++ d.description ++ "\")"

/-- A decider from a function. -/
def ofFunction (description : String) (decide : List String → Decision) : Decider :=
  ⟨.function, description, decide⟩

end Decider

end CommandShell
