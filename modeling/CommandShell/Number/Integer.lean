import CommandShell.Number.Decimal

/-!
# Reading integers

An integer text is an optional sign and decimal digits of any script, with single underscores
allowed between digits and blank characters around it. Texts of more than 4300 digits are refused
whatever follows the digits, so the limit is told before anything that stands behind them.
-/

namespace CommandShell.Number

/-- Why a text is not read as an integer. -/
inductive IntegerError where
  | malformed
  | tooManyDigits (count : Nat)
  deriving DecidableEq, Repr

/-- The most digits an integer text may have. -/
def maxDigits : Nat := 4300

/-- Splits an optional sign off; `true` stands for minus. -/
def splitSign : List Char → Bool × List Char
  | '-' :: cs => (true, cs)
  | '+' :: cs => (false, cs)
  | cs => (false, cs)

/-- The integer of a magnitude under a sign. -/
def signed (negative : Bool) (n : Nat) : Int := if negative then -(n : Int) else n

/-- Reads an integer text. -/
def readInteger (text : String) : Except IntegerError Int :=
  let (negative, cs) := splitSign (normalForm text)
  let run := cs.takeWhile fun c => isDigit c || c == '_'
  let digits := run.filter isDigit
  if !isGrouped false run then .error .malformed
  else if maxDigits < digits.length then .error (.tooManyDigits digits.length)
  else if run.length < cs.length then .error .malformed
  else .ok (signed negative (readDigits 0 digits))

/-- The text of an integer: its decimal digits behind a minus sign if it is negative. -/
def integerText (n : Int) : String :=
  if n < 0 then String.ofList ('-' :: Nat.toDigits 10 n.natAbs)
  else String.ofList (Nat.toDigits 10 n.natAbs)

end CommandShell.Number
