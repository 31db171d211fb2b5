import CommandShell.Text.Blank
import CommandShell.Text.Ranges

/-!
# Decimal digits

A decimal digit is a character of one of the ten-digit runs of Unicode 14. Number texts are first
brought to ASCII: digits of any run become ASCII digits and blank characters outside ASCII become
spaces, while an ASCII character stays as it is.
-/

namespace CommandShell.Number

/-- The code points of the zeros of the runs of decimal digits. -/
def digitZeros : List Nat :=
  [0x30, 0x660, 0x6f0, 0x7c0, 0x966, 0x9e6, 0xa66, 0xae6, 0xb66, 0xbe6, 0xc66, 0xce6, 0xd66, 0xde6,
   0xe50, 0xed0, 0xf20, 0x1040, 0x1090, 0x17e0, 0x1810, 0x1946, 0x19d0, 0x1a80, 0x1a90, 0x1b50,
   0x1bb0, 0x1c40, 0x1c50, 0xa620, 0xa8d0, 0xa900, 0xa9d0, 0xa9f0, 0xaa50, 0xabf0, 0xff10,
   0x104a0, 0x10d30, 0x11066, 0x110f0, 0x11136, 0x111d0, 0x112f0, 0x11450, 0x114d0, 0x11650,
   0x116c0, 0x11730, 0x118e0, 0x11950, 0x11c50, 0x11d50, 0x11da0, 0x16a60, 0x16ac0, 0x16b50,
   0x1d7ce, 0x1d7d8, 0x1d7e2, 0x1d7ec, 0x1d7f6, 0x1e140, 0x1e2f0, 0x1e950, 0x1fbf0]

/-- The value of a decimal digit of any script. -/
def digitValue? (c : Char) : Option Nat :=
  (digitZeros.find? fun first => first ≤ c.toNat && c.toNat < first + 10).map (c.toNat - ·)

/-- An ASCII decimal digit. -/
def isDigit (c : Char) : Bool := 0x30 ≤ c.toNat && c.toNat ≤ 0x39

/-- The value of an ASCII decimal digit. -/
def digitValue (c : Char) : Nat := c.toNat - 0x30

/-- The value of a run of ASCII digits, read after the value `n`. -/
def readDigits (n : Nat) (digits : List Char) : Nat :=
  digits.foldl (fun n c => n * 10 + digitValue c) n

/-- The ASCII form of a character of a number text. -/
def asciiForm (c : Char) : Char :=
  if c.toNat < 0x7f then c
  else if isBlank c then ' '
  else match digitValue? c with
    | some d => Char.ofNat (0x30 + d)
    | none => '?'

/-- The blank characters that may stand around a number text in ASCII form. -/
def isPadding (c : Char) : Bool := c == ' ' || (0x09 ≤ c.toNat && c.toNat ≤ 0x0d)

/-- A number text in ASCII form, without the padding around it. -/
def normalForm (text : String) : List Char :=
  let cs := (text.toList.map asciiForm).dropWhile isPadding
  (cs.reverse.dropWhile isPadding).reverse

/-- Whether single underscores stand between digits only: `digitBefore` tells whether a digit has
just been read. -/
def isGrouped : (digitBefore : Bool) → List Char → Bool
  | digitBefore, [] => digitBefore
  | digitBefore, c :: cs =>
    if c == '_' then digitBefore && isGrouped false cs else isGrouped true cs

end CommandShell.Number
