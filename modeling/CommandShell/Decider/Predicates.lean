import CommandShell.Decider.Signature
import CommandShell.Text.Base64
import CommandShell.Text.Blank

/-!
# The standard predicates

Words, texts, truth values, numbers of several ranges and base64 data. An integer is an optional
sign and ASCII digits, without blanks or separators. The predicates for several arguments take as
many as they can.
-/

namespace CommandShell

open Number Text

namespace Predicate

/-- The refusal of a row of too few arguments. -/
def tooFew (args : List String) (count : Int) : Refusal :=
  .because ("Too few elements: " ++ Datum.shownTexts args ++ ", length: "
    ++ integerText args.length ++ ", expected: " ++ integerText count)

/-- Refuses a row of fewer than `count` arguments. -/
def require (args : List String) (count : Int) : Except Refusal Unit :=
  if args.length < count then .error (tooFew args count) else .ok ()

/-- One argument, read by `read`. -/
def one (description : String) (read : String → Except Refusal Value) : Predicate where
  description
  consume
    | [] => .error (tooFew [] 1)
    | arg :: _ => (read arg).map fun value => (1, [value])

/-! ### Numbers -/

/-- The text of an integer: an optional sign, only plus if `unsigned`, and ASCII digits. -/
def isIntegerText (unsigned : Bool) (text : String) : Bool :=
  let digits := match text.toList with
    | '+' :: cs => cs
    | '-' :: cs => if unsigned then '-' :: cs else cs
    | cs => cs
  !digits.isEmpty && digits.all isDigit

/-- Reads an integer of a range. A text of too many digits is a fault, not a denial. -/
def readIntegerIn (text : String) (minimum maximum : Int) (unsigned : Bool := false) :
    Except Refusal Int :=
  if !isIntegerText unsigned text then .error (.because text)
  else match readInteger text with
    | .error e => .error (.fault (.ofIntegerError text e))
    | .ok n =>
      if minimum ≤ n && n ≤ maximum then .ok n
      else .error (.because (text ++ " (out of range)"))

/-- Reads a floating-point number; blanks around it are not allowed. -/
def readReal (text : String) : Except Refusal Binary64 :=
  if text != trim text then .error (.because text)
  else match Binary64.read? text with
    | some x => .ok x
    | none => .error (.because text)

def minInt32 : Int := -2147483648

def maxInt32 : Int := 2147483647

def maxUInt8 : Int := 255

def maxUInt64 : Int := 18446744073709551615

/-- Reads a signed integer of 32 bits. -/
def readInt32 (text : String) : Except Refusal Int := readIntegerIn text minInt32 maxInt32

/-! ### Predicates -/

/-- A text without blank characters, not empty. -/
def anyAtom : Predicate := one "<atom>" fun arg =>
  if arg.isEmpty || arg.toList.any isBlank then .error (.because arg) else .ok (.text arg)

def anyBase64 : Predicate := one "<base64>" fun arg =>
  match Base64.read arg with
  | .ok bytes => .ok (.bytes bytes)
  | .error e => .error (.because e.message)

def anyBool : Predicate := one "<true/false>" fun arg =>
  if arg == "true" then .ok (.bool true)
  else if arg == "false" then .ok (.bool false)
  else .error (.because arg)

def anyReal : Predicate := one "<f32>" fun arg => (readReal arg).map .real

def anyInt32 : Predicate := one "<i32>" fun arg => (readInt32 arg).map .int

def anyText : Predicate := one "<string>" fun arg => .ok (.text arg)

def anyUInt8 : Predicate := one "<u8>" fun arg => (readIntegerIn arg 0 maxUInt8 true).map .int

def anyUInt64 : Predicate := one "<usize>" fun arg => (readIntegerIn arg 0 maxUInt64 true).map .int

/-- All arguments, without values. -/
def ignoreAll : Predicate where
  description := "<anything> ..."
  consume args := .ok (args.length, [])

/-- Reads the arguments up to the first that is no integer text; values are in order. -/
def readInt32s : List String → Except Refusal (List Value)
  | [] => .ok []
  | arg :: args =>
    if isIntegerText false arg then do
      let n ← readInt32 arg
      let values ← readInt32s args
      return .int n :: values
    else .ok []

/-- As many integers of 32 bits as there are at the front, at least one. -/
def manyInt32 : Predicate where
  description := "<i32> ..."
  consume args := do
    let values ← readInt32s args
    match values, args with
    | [], [] => throw (tooFew [] 1)
    | [], arg :: _ => throw (.because arg)
    | values, _ => return (values.length, values)

/-- All arguments as texts, at least one. -/
def manyTexts : Predicate where
  description := "<string> ..."
  consume args := do
    require args 1
    return (args.length, args.map .text)

def nonnegativeReal : Predicate := one "<f32>=0>" fun arg => do
  let x ← readReal arg
  if x.isNonnegative then return .real x else throw (.because arg)

def twoTexts : Predicate where
  description := "<string> <string>"
  consume
    | [_] => .error (.because "expected 1 more string")
    | first :: second :: _ => .ok (2, [.text first, .text second])
    | [] => .error (tooFew [] 2)

/-- A text that is meant as a search pattern. -/
def pattern : Predicate := one "<regex>" fun arg => .ok (.text arg)

end Predicate

end CommandShell
