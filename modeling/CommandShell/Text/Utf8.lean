/-!
# Reading UTF-8

Bytes are decoded one at a time, so how they are cut into chunks does not matter. A byte that
cannot go on with the sequence before it, and a byte that cannot start one, are replaced: every
longest beginning of a sequence that cannot be completed gives one replacement character.
-/

namespace CommandShell.Text.Utf8

/-- The character that stands for bytes that are not a character. -/
def replacement : Char := Char.ofNat 0xFFFD

/-- An unfinished sequence: how many bytes are still due, the value of those read, and the range
of the next byte, which is narrower behind some first bytes. -/
structure Partial where
  due : Nat
  value : Nat
  low : Nat := 0x80
  high : Nat := 0xBF
  deriving DecidableEq, Repr

/-- What a byte starts. -/
inductive Start where
  | char (c : Char)
  | sequence (p : Partial)
  | invalid
  deriving DecidableEq, Repr

/-- What a byte starts: sequences too long for their value, surrogates and values beyond the last
code point are ruled out by the range of the second byte. -/
def start (b : Nat) : Start :=
  if b < 0x80 then .char (Char.ofNat b)
  else if b < 0xC2 then .invalid
  else if b < 0xE0 then .sequence { due := 1, value := b - 0xC0 }
  else if b = 0xE0 then .sequence { due := 2, value := 0, low := 0xA0 }
  else if b = 0xED then .sequence { due := 2, value := 0xD, high := 0x9F }
  else if b < 0xF0 then .sequence { due := 2, value := b - 0xE0 }
  else if b = 0xF0 then .sequence { due := 3, value := 0, low := 0x90 }
  else if b < 0xF4 then .sequence { due := 3, value := b - 0xF0 }
  else if b = 0xF4 then .sequence { due := 3, value := 4, high := 0x8F }
  else .invalid

/-- The state of decoding: the unfinished sequence, if there is one. -/
structure Decoder where
  pending : Option Partial := none
  deriving DecidableEq, Repr

namespace Decoder

/-- Takes a byte outside of any sequence. -/
def begin (b : Nat) : Decoder × List Char :=
  match start b with
  | .char c => ({}, [c])
  | .sequence p => ({ pending := some p }, [])
  | .invalid => ({}, [replacement])

/-- Takes one byte; gives the characters that are complete with it. -/
def step (d : Decoder) (b : UInt8) : Decoder × List Char :=
  let b := b.toNat
  match d.pending with
  | none => begin b
  | some p =>
    if p.low ≤ b ∧ b ≤ p.high then
      let value := p.value * 64 + (b - 0x80)
      if p.due ≤ 1 then ({}, [Char.ofNat value])
      else ({ pending := some { due := p.due - 1, value } }, [])
    else
      let (d, cs) := begin b
      (d, replacement :: cs)

/-- Takes bytes in order and gathers the characters behind those already there. -/
def feedFrom (d : Decoder) (read : Array Char) : List UInt8 → Decoder × Array Char
  | [] => (d, read)
  | b :: bs =>
    let (d, cs) := d.step b
    feedFrom d (read ++ cs) bs

/-- Takes a chunk of bytes; gives the text that is complete with it. -/
def feed (d : Decoder) (bytes : List UInt8) : Decoder × String :=
  let (d, read) := d.feedFrom #[] bytes
  (d, String.ofList read.toList)

end Decoder

end CommandShell.Text.Utf8
