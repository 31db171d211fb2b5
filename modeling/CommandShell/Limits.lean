import CommandShell.Datum
import CommandShell.Error

/-!
# Limits

An evaluator has two limits: how deep calls may nest and how many characters a text may have. A
flat command has depth zero. Limits are checked when they are made, so every value of the type is
valid. They can be read from an environment, where an unset or blank variable keeps the default.
-/

namespace CommandShell

open Number Text

/-- Limits of nesting and length; the length limit is positive. -/
structure Limits where
  maxDepth : Nat := 10
  maxLength : Nat := 10000
  maxLength_pos : 0 < maxLength := by decide
  deriving DecidableEq

namespace Limits

/-- The limits of an evaluator that is given no others. -/
def standard : Limits := {}

/-- Why limits are refused. -/
inductive Invalid where
  | notInteger (field shown : String)
  | negative (field : String) (n : Int)
  | notPositive (field : String) (n : Int)
  deriving DecidableEq, Repr

/-- The text of a refusal. -/
def Invalid.message : Invalid → String
  | notInteger field shown => field ++ " must be an integer, got " ++ shown
  | negative field n => field ++ " must not be negative, got " ++ integerText n
  | notPositive field n => field ++ " must be positive, got " ++ integerText n

/-- The integer of a datum; truth values are not integers. -/
def integerField (field : String) : Datum → Except Invalid Int
  | .int n => .ok n
  | datum => .error (.notInteger field datum.shown)

/-- A depth limit may be zero. -/
def checkDepth (n : Int) : Except Invalid Nat :=
  if n < 0 then .error (.negative "max_depth" n) else .ok n.toNat

/-- Checks two limits that a host gives, the depth first. -/
def ofData (maxDepth maxLength : Datum) : Except Invalid Limits := do
  let depth ← integerField "max_depth" maxDepth
  let depth ← checkDepth depth
  let length ← integerField "max_input_length" maxLength
  if h : 0 < length then
    return { maxDepth := depth, maxLength := length.toNat, maxLength_pos := by omega }
  else
    throw (.notPositive "max_input_length" length)

/-- The default limits, as a host would give them. -/
def defaultDepth : Datum := .int 10

def defaultLength : Datum := .int 10000

/-- The beginning of the names of environment variables. -/
def environmentPrefix : String := "NESTSHELL_"

/-- The integer of a variable, or the default if it is unset or blank. -/
def readVariable (environment : String → Option String) (name : String) (default : Datum) :
    Except Invalid Datum :=
  match environment name with
  | none => .ok default
  | some raw =>
    if allBlank raw then .ok default
    else match readInteger raw with
      | .ok n => .ok (.int n)
      | .error _ => .error (.notInteger name (quoted raw))

/-- The limits that an environment sets. Both variables are read before either is checked. -/
def ofEnvironment (environment : String → Option String)
    (namePrefix : String := environmentPrefix) : Except Invalid Limits := do
  let depth ← readVariable environment (namePrefix ++ "MAX_DEPTH") defaultDepth
  let length ← readVariable environment (namePrefix ++ "MAX_INPUT_LENGTH") defaultLength
  ofData depth length

end Limits

end CommandShell
