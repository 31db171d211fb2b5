import CommandShell.Number.Decimal
import CommandShell.Number.Integer
import CommandShell.Text.Quoted

/-!
# Binary floating-point numbers of 64 bits

A number is kept as its 64 bits. Decimal texts are read exactly and rounded once, to the nearest
number and to the even one of two that are equally near. The shown form takes the fewest decimal
digits that read back to the same bits; it is positional for decimal exponents from -4 to 15 and
scientific outside.
-/

namespace CommandShell.Number

/-- A binary floating-point number, as its 64 bits. -/
structure Binary64 where
  bits : Nat
  deriving DecidableEq, Repr

namespace Binary64

/-- The power of two. -/
def twoTo (n : Nat) : Nat := Nat.pow 2 n

/-- The power of ten. -/
def tenTo (n : Nat) : Nat := Nat.pow 10 n

/-- The bit of the sign. -/
def signBit : Nat := twoTo 63

/-- The bits of positive infinity. -/
def infinityBits : Nat := 0x7ff * twoTo 52

/-- Sets the sign of a number whose sign bit is clear. -/
def withSign (negative : Bool) (magnitude : Nat) : Binary64 :=
  ⟨if negative then signBit + magnitude else magnitude⟩

/-- The bits below the sign. -/
def magnitude (x : Binary64) : Nat := x.bits % signBit

/-- Whether the sign bit is set. -/
def isNegative (x : Binary64) : Bool := signBit ≤ x.bits

/-- Not a number: the exponent is full and the fraction is not zero. -/
def isNaN (x : Binary64) : Bool := infinityBits < x.magnitude

/-- At least zero; both zeros count, a value that is not a number does not. -/
def isNonnegative (x : Binary64) : Bool := !x.isNaN && (!x.isNegative || x.magnitude == 0)

/-- The value that is not a number. -/
def nan : Binary64 := ⟨0x7ff8 * twoTo 48⟩

/-- The quotient rounded to the nearest integer, a half to the even neighbour. -/
def roundQuotient (num den : Nat) : Nat :=
  let q := num / den
  let r := 2 * (num % den)
  if r < den then q else if den < r then q + 1 else q + q % 2

/-- The magnitude bits nearest to the positive quotient `num / den`.

The unit in the last place is a power of two that puts the rounded quotient below `2 ^ 53`, and is
at least `2 ^ (-1074)`. Written with that unit, the sum of the shifted exponent and the rounded
quotient has the right bits also when rounding carries into the next power of two. -/
def nearestMagnitude (num den : Nat) : Nat :=
  let scale : Int := (num.log2 : Int) - den.log2 - 53
  let scale :=
    if 0 ≤ scale then
      if num < den * twoTo (scale.toNat + 53) then scale else scale + 1
    else
      if num * twoTo (-scale).toNat < den * twoTo 53 then scale else scale + 1
  let scale := max scale (-1074)
  let rounded :=
    if 0 ≤ scale then roundQuotient num (den * twoTo scale.toNat)
    else roundQuotient (num * twoTo (-scale).toNat) den
  let stepped := (scale + 1074).toNat * twoTo 52 + rounded
  min stepped infinityBits

/-- The magnitude bits nearest to `digits · 10 ^ exponent`. Exponents far outside the range are
settled by the number of digits alone. -/
def ofDecimal (digits : Nat) (exponent : Int) : Nat :=
  if digits == 0 then 0
  else
    let top := exponent + (Nat.toDigits 10 digits).length
    if 310 < top then infinityBits
    else if top < -330 then 0
    else if 0 ≤ exponent then nearestMagnitude (digits * tenTo exponent.toNat) 1
    else nearestMagnitude digits (tenTo (-exponent).toNat)

/-! ### Reading -/

/-- Removes underscores that stand between two digits; `none` if one stands elsewhere. -/
def ungroup : (digitBefore : Bool) → List Char → Option (List Char)
  | _, [] => some []
  | digitBefore, '_' :: c :: cs =>
    if digitBefore && isDigit c then (ungroup true cs).map (c :: ·) else none
  | _, c :: cs =>
    if c == '_' then none else (ungroup (isDigit c) cs).map (c :: ·)

/-- Reads the exponent part: nothing, or the mark, an optional sign and digits. -/
def readExponent : List Char → Option Int
  | [] => some 0
  | mark :: cs =>
    if mark == 'e' || mark == 'E' then
      let (negative, digits) := splitSign cs
      if !digits.isEmpty && digits.all isDigit then some (signed negative (readDigits 0 digits))
      else none
    else none

/-- Reads an unsigned decimal text with an optional fraction and exponent. -/
def readMagnitude (cs : List Char) : Option Nat :=
  let whole := cs.takeWhile isDigit
  let rest := cs.dropWhile isDigit
  let (fraction, rest) := match rest with
    | '.' :: rest => (rest.takeWhile isDigit, rest.dropWhile isDigit)
    | _ => ([], rest)
  if whole.isEmpty && fraction.isEmpty then none
  else (readExponent rest).map fun e =>
    ofDecimal (readDigits 0 (whole ++ fraction)) (e - fraction.length)

/-- Lower-case form of an ASCII letter. -/
def lowerAscii (c : Char) : Char := if 'A' ≤ c && c ≤ 'Z' then Char.ofNat (c.toNat + 0x20) else c

/-- Reads a floating-point text: a decimal with optional sign, fraction and exponent, or one of
the names of infinity and of the value that is not a number, in any case. -/
def read? (text : String) : Option Binary64 := do
  let cs ← ungroup false (normalForm text)
  let (negative, body) := splitSign cs
  let name := String.ofList (body.map lowerAscii)
  if name == "inf" || name == "infinity" then return withSign negative infinityBits
  if name == "nan" then return nan
  let magnitude ← readMagnitude body
  return withSign negative magnitude

/-! ### Showing -/

/-- The sixteen hexadecimal digits of the bits, or `nan`. -/
def hex (x : Binary64) : String :=
  if x.isNaN then "nan" else String.ofList (Text.hexDigits 16 x.bits)

/-- The numerator and denominator of the finite number with these magnitude bits. -/
def ratio (magnitude : Nat) : Nat × Nat :=
  let exponent := magnitude / twoTo 52
  let fraction := magnitude % twoTo 52
  let mantissa := if exponent == 0 then fraction else fraction + twoTo 52
  let scale : Int := (max exponent 1 : Nat) - 1075
  if 0 ≤ scale then (mantissa * twoTo scale.toNat, 1) else (mantissa, twoTo (-scale).toNat)

/-- The least `k` with `num / den < 10 ^ k`, searched from `k` downwards in at most `fuel` steps. -/
def decimalPoint (num den : Nat) : (fuel : Nat) → Int → Int
  | 0, k => k
  | fuel + 1, k =>
    let below := k - 1
    let fits := if 0 ≤ below then num < den * tenTo below.toNat
      else num * tenTo (-below).toNat < den
    if fits then decimalPoint num den fuel below else k

/-- The fewest digits, starting with `count` of them, whose decimal reads back as `magnitude`; of
two such decimals the nearer one, and the even one of two that are equally near. -/
def shortestFrom (magnitude : Nat) (point : Int) : (fuel count : Nat) → Nat × Int
  | 0, _ => (0, 0)
  | fuel + 1, count =>
    let (num, den) := ratio magnitude
    let unit := point - count
    let (n, d) := if 0 ≤ unit then (num, den * tenTo unit.toNat)
      else (num * tenTo (-unit).toNat, den)
    let low := n / d
    let lowReads := ofDecimal low unit == magnitude
    let highReads := ofDecimal (low + 1) unit == magnitude
    if lowReads && (!highReads || roundQuotient n d == low) then (low, unit)
    else if highReads then (low + 1, unit)
    else shortestFrom magnitude point fuel (count + 1)

/-- Drops zeros at the end of the digits, raising the exponent. -/
def dropZeros : (fuel : Nat) → Nat × Int → Nat × Int
  | 0, d => d
  | fuel + 1, (digits, exponent) =>
    if digits % 10 == 0 then dropZeros fuel (digits / 10, exponent + 1) else (digits, exponent)

/-- The shown form of a finite positive magnitude. -/
def showMagnitude (magnitude : Nat) : List Char :=
  let (num, den) := ratio magnitude
  let point := decimalPoint num den 700 310
  let (digits, exponent) := dropZeros 20 (shortestFrom magnitude point 17 1)
  let ds := Nat.toDigits 10 digits
  let scientific : Int := exponent + ds.length - 1
  if -4 ≤ scientific && scientific < 16 then
    if 0 ≤ exponent then ds ++ List.replicate exponent.toNat '0' ++ ['.', '0']
    else
      let places := (-exponent).toNat
      if places < ds.length then
        ds.take (ds.length - places) ++ ['.'] ++ ds.drop (ds.length - places)
      else ['0', '.'] ++ List.replicate (places - ds.length) '0' ++ ds
  else
    let fraction := if ds.length == 1 then ds else ds.take 1 ++ ['.'] ++ ds.drop 1
    let sign := if scientific < 0 then '-' else '+'
    let places := Nat.toDigits 10 scientific.natAbs
    fraction ++ ['e', sign] ++ (if places.length < 2 then '0' :: places else places)

/-- The shown form of a number. -/
def shown (x : Binary64) : String :=
  if x.isNaN then "nan"
  else
    let body :=
      if x.magnitude == infinityBits then "inf".toList
      else if x.magnitude == 0 then "0.0".toList
      else showMagnitude x.magnitude
    String.ofList (if x.isNegative then '-' :: body else body)

end Binary64

end CommandShell.Number
