import CommandShell.Number.Integer
import CommandShell.Text.Quoted

/-!
# Base64

Strict reading of base64 text: four characters of the alphabet stand for three bytes, and a last
group of two or three is filled up by padding. Text that starts with padding, holds any other
character, goes on behind complete padding or has data behind padding is refused. Padding behind a
complete group is allowed and adds nothing, and bits that a padded group leaves over are dropped.
-/

namespace CommandShell.Text.Base64

open Number

/-- Why a text is not read. -/
inductive Refusal where
  | notAscii
  | leadingPadding
  | foreignCharacter
  | excessData
  | discontinuousPadding
  | loneCharacter (count : Nat)
  | incorrectPadding
  deriving DecidableEq, Repr

/-- The text of a refusal. -/
def Refusal.message : Refusal → String
  | notAscii => "string argument should contain only ASCII characters"
  | leadingPadding => "Leading padding not allowed"
  | foreignCharacter => "Only base64 data is allowed"
  | excessData => "Excess data after padding"
  | discontinuousPadding => "Discontinuous padding not allowed"
  | loneCharacter count =>
    "Invalid base64-encoded string: number of data characters (" ++ integerText count
      ++ ") cannot be 1 more than a multiple of 4"
  | incorrectPadding => "Incorrect padding"

/-- The six bits that a character of the alphabet stands for. -/
def sextet? (c : Char) : Option Nat :=
  let n := c.toNat
  if 0x41 ≤ n && n ≤ 0x5a then some (n - 0x41)
  else if 0x61 ≤ n && n ≤ 0x7a then some (n - 0x61 + 26)
  else if 0x30 ≤ n && n ≤ 0x39 then some (n - 0x30 + 52)
  else if c == '+' then some 62
  else if c == '/' then some 63
  else none

/-- The state of reading: the place in the group of four, the bits left over from the last
character, the padding seen in this group, whether any padding was seen, and the bytes so far in
reverse. -/
structure State where
  place : Nat := 0
  left : Nat := 0
  pads : Nat := 0
  padded : Bool := false
  bytes : List UInt8 := []

/-- Adds the bits of one character. -/
def State.push (s : State) (bits : Nat) : State :=
  match s.place with
  | 0 => { s with place := 1, left := bits, pads := 0 }
  | 1 => { s with place := 2, left := bits % 16, pads := 0,
                  bytes := UInt8.ofNat (s.left * 4 + bits / 16) :: s.bytes }
  | 2 => { s with place := 3, left := bits % 4, pads := 0,
                  bytes := UInt8.ofNat (s.left * 16 + bits / 4) :: s.bytes }
  | _ => { s with place := 0, left := 0, pads := 0,
                  bytes := UInt8.ofNat (s.left * 64 + bits) :: s.bytes }

/-- The bytes when the text has ended. -/
def State.finish (s : State) : Except Refusal (List UInt8) :=
  if s.place == 0 then .ok s.bytes.reverse
  else if s.place == 1 then .error (.loneCharacter (s.bytes.length / 3 * 4 + 1))
  else .error .incorrectPadding

/-- Reads the characters from a state on. -/
def readFrom (s : State) : List Char → Except Refusal (List UInt8)
  | [] => s.finish
  | c :: cs =>
    if c == '=' then
      if 2 ≤ s.place then
        if 4 ≤ s.place + s.pads + 1 then
          if cs.isEmpty then .ok s.bytes.reverse else .error .excessData
        else readFrom { s with padded := true, pads := s.pads + 1 } cs
      else readFrom { s with padded := true } cs
    else match sextet? c with
      | none => .error .foreignCharacter
      | some bits =>
        if s.padded then .error .discontinuousPadding else readFrom (s.push bits) cs

/-- The bytes of a base64 text. -/
def read (text : String) : Except Refusal (List UInt8) :=
  let cs := text.toList
  if cs.any fun c => 0x80 ≤ c.toNat then .error .notAscii
  else if cs.head? == some '=' then .error .leadingPadding
  else readFrom {} cs

/-- The lower-case hexadecimal digits of bytes. -/
def hexText (bytes : List UInt8) : String :=
  String.ofList (bytes.flatMap fun b => hexDigits 2 b.toNat)

end CommandShell.Text.Base64
