import CommandShell.Number.Arithmetic

/-!
# Amounts

An amount is a whole number of any size or a floating-point number. Whole numbers stay whole among
each other; next to a floating-point number they are rounded to one first, which fails for a whole
number beyond its range.
-/

namespace CommandShell.Number

/-- A whole number or a floating-point number. -/
inductive Amount where
  | whole (n : Int)
  | real (x : Binary64)
  deriving DecidableEq, Repr

/-- Why an operation on amounts has no result. -/
inductive AmountError where
  | wholeDivisionByZero
  | realDivisionByZero
  /-- A whole number is beyond the range of floating-point numbers. -/
  | outOfRange
  /-- A whole number has more digits than a text may have. -/
  | tooManyDigits
  deriving DecidableEq, Repr

namespace Amount

/-- The word that names the kind of an amount in messages. -/
def kindName : Amount → String
  | whole _ => "int"
  | real _ => "float"

/-- The amount as a floating-point number. -/
def toReal : Amount → Except AmountError Binary64
  | whole n =>
    match Binary64.ofInt? n with
    | some x => .ok x
    | none => .error .outOfRange
  | real x => .ok x

def neg : Amount → Amount
  | whole n => whole (-n)
  | real x => real x.neg

def add : Amount → Amount → Except AmountError Amount
  | whole a, whole b => .ok (whole (a + b))
  | a, b => do return real ((← a.toReal).add (← b.toReal))

/-- The quotient rounded down. -/
def floorDiv : Amount → Amount → Except AmountError Amount
  | whole a, whole b =>
    if b = 0 then .error .wholeDivisionByZero else .ok (whole (a.fdiv b))
  | a, b => do
    let x ← a.toReal
    let y ← b.toReal
    if y.isZero then throw .realDivisionByZero
    return real (x.floorDiv y)

/-- Whether two amounts are equal as numbers. A value that is not a number equals nothing, and the
two zeros equal each other. -/
def equals : Amount → Amount → Bool
  | whole a, whole b => a == b
  | real x, real y => !x.isNaN && (x == y || (x.isZero && y.isZero))
  | whole n, real x | real x, whole n =>
    !x.isNaN && !x.isInfinite && x.toFraction.num == n * x.toFraction.den

/-- The text of an amount. -/
def text : Amount → Except AmountError String
  | whole n =>
    if maxDigits < (Nat.toDigits 10 n.natAbs).length then .error .tooManyDigits
    else .ok (integerText n)
  | real x => .ok x.shown

end Amount

end CommandShell.Number
