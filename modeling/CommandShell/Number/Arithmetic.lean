import CommandShell.Number.Binary64

/-!
# Arithmetic on binary floating-point numbers

A sum, a quotient and a remainder are taken exactly, as fractions, and rounded once to the nearest
number. A value that is not a number, and infinities that cancel, give the value that is not a
number.

The quotient rounded down is made of rounded steps: the remainder is taken off first, what is left
is divided, and the result is moved to the nearest integer. A large one can therefore differ from
the floor of the exact quotient in its last bits.
-/

namespace CommandShell.Number

/-- A fraction; its denominator is not zero. -/
structure Fraction where
  num : Int
  den : Nat
  deriving DecidableEq, Repr

namespace Fraction

def add (p q : Fraction) : Fraction := ⟨p.num * q.den + q.num * p.den, p.den * q.den⟩

/-- The quotient by a fraction that is not zero. -/
def div (p q : Fraction) : Fraction :=
  ⟨p.num * q.den * q.num.sign, p.den * q.num.natAbs⟩

/-- What is left of `p` once the multiple of `q` nearest to it towards zero is taken off. -/
def remainder (p q : Fraction) : Fraction :=
  ⟨(p.num * q.den).tmod (q.num * p.den), p.den * q.den⟩

/-- The greatest integer that is not above the fraction. -/
def floor (p : Fraction) : Int := p.num.fdiv p.den

end Fraction

namespace Binary64

/-! ### Kinds of numbers -/

/-- One of the two infinities. -/
def isInfinite (x : Binary64) : Bool := x.magnitude == infinityBits

/-- One of the two zeros. -/
def isZero (x : Binary64) : Bool := x.magnitude == 0

/-- Less than zero; a zero is not, whatever its sign. -/
def isBelowZero (x : Binary64) : Bool := !x.isNaN && x.isNegative && !x.isZero

def zero (negative : Bool) : Binary64 := withSign negative 0

def infinity (negative : Bool) : Binary64 := withSign negative infinityBits

def one : Binary64 := ⟨0x3ff0 * twoTo 48⟩

def half : Binary64 := ⟨0x3fe0 * twoTo 48⟩

/-! ### Fractions -/

/-- The exact value of a finite number. -/
def toFraction (x : Binary64) : Fraction :=
  let (num, den) := ratio x.magnitude
  ⟨signed x.isNegative num, den⟩

/-- The number nearest to a fraction; the fraction zero gives the zero of the sign asked for. -/
def ofFraction (negativeZero : Bool) (q : Fraction) : Binary64 :=
  if q.num == 0 then zero negativeZero
  else withSign (q.num < 0) (nearestMagnitude q.num.natAbs q.den)

/-- The number nearest to an integer; `none` if it is infinite. -/
def ofInt? (n : Int) : Option Binary64 :=
  let x := ofFraction false ⟨n, 1⟩
  if x.isInfinite then none else some x

/-! ### Operations -/

def neg (x : Binary64) : Binary64 := withSign (!x.isNegative) x.magnitude

/-- The sum. A zero sum is negative only if both numbers are. -/
def add (x y : Binary64) : Binary64 :=
  if x.isNaN || y.isNaN then nan
  else if x.isInfinite then
    if y.isInfinite && x.isNegative != y.isNegative then nan else x
  else if y.isInfinite then y
  else ofFraction (x.isNegative && y.isNegative) (x.toFraction.add y.toFraction)

def sub (x y : Binary64) : Binary64 := x.add y.neg

/-- The quotient. -/
def div (x y : Binary64) : Binary64 :=
  let negative := x.isNegative != y.isNegative
  if x.isNaN || y.isNaN then nan
  else if x.isInfinite then if y.isInfinite then nan else infinity negative
  else if y.isInfinite then zero negative
  else if y.isZero then if x.isZero then nan else infinity negative
  else ofFraction negative (x.toFraction.div y.toFraction)

/-- The remainder, with the sign of the dividend. -/
def remainder (x y : Binary64) : Binary64 :=
  if x.isNaN || y.isNaN || x.isInfinite || y.isZero then nan
  else if y.isInfinite then x
  else ofFraction x.isNegative (x.toFraction.remainder y.toFraction)

/-- The greatest integer that is not above the number. -/
def floor (x : Binary64) : Binary64 :=
  if x.isNaN || x.isInfinite then x
  else ofFraction x.isNegative ⟨x.toFraction.floor, 1⟩

/-- The quotient rounded down, for a divisor that is not zero. -/
def floorDiv (x y : Binary64) : Binary64 :=
  let rest := remainder x y
  let steps := div (sub x rest) y
  let steps :=
    if !rest.isZero && y.isBelowZero != rest.isBelowZero then sub steps one else steps
  if steps.isZero then zero (div x y).isNegative
  else
    let low := floor steps
    let excess := sub steps low
    if !excess.isNaN && half.magnitude < excess.magnitude then add low one else low

end Binary64

end CommandShell.Number
