import CommandShell.Number.Integer
import CommandShell.Pattern.Reader
import CommandShell.Text.CharacterName

/-!
# Characters and sets in pattern texts

The escapes that stand for a character, a class of characters, a place or an earlier group, and
the sets in brackets. A set keeps each of its items once, where it is first named.
-/

namespace CommandShell.Pattern

open Number Read Text

/-! ### Characters -/

def isHexDigit (c : Char) : Bool :=
  isDigit c || ('a' ≤ c && c ≤ 'f') || ('A' ≤ c && c ≤ 'F')

def isOctalDigit (c : Char) : Bool := '0' ≤ c && c ≤ '7'

def isAsciiLetter (c : Char) : Bool := ('a' ≤ c && c ≤ 'z') || ('A' ≤ c && c ≤ 'Z')

/-- The value of a hexadecimal digit. -/
def hexValue (c : Char) : Nat :=
  if isDigit c then digitValue c
  else if 'a' ≤ c then c.toNat - 0x57
  else c.toNat - 0x37

/-- The value of digits in a base. -/
def readBase (base : Nat) (cs : List Char) : Nat := cs.foldl (fun n c => n * base + hexValue c) 0

/-- The control characters that have an escape of their own. -/
def controlEscape? : Char → Option Nat
  | 'a' => some 7
  | 'b' => some 8
  | 'f' => some 12
  | 'n' => some 10
  | 'r' => some 13
  | 't' => some 9
  | 'v' => some 11
  | '\\' => some 0x5c
  | _ => none

/-- The named classes that have an escape. -/
def categoryEscape? : Char → Option SetItem
  | 'd' => some (.category .digit false)
  | 'D' => some (.category .digit true)
  | 's' => some (.category .space false)
  | 'S' => some (.category .space true)
  | 'w' => some (.category .word false)
  | 'W' => some (.category .word true)
  | _ => none

/-- The places that have an escape. -/
def anchorEscape? : Char → Option Anchor
  | 'A' => some .textStart
  | 'b' => some .boundary
  | 'B' => some .noBoundary
  | 'Z' => some .textEnd
  | _ => none

/-- Reads an escape of exactly `count` hexadecimal digits behind the letter `c`. -/
def hexEscape (c : Char) (count : Nat) : Read Nat := do
  let digits ← takeUpTo isHexDigit count
  let escape := '\\' :: c :: digits
  if digits.length < count then
    fail ("incomplete escape " ++ String.ofList escape) escape.length
  let code := readBase 16 digits
  if 0x10ffff < code then fail ("bad escape " ++ String.ofList escape) escape.length
  return code

/-- Reads a character by its name. -/
def namedEscape : Read Nat := do
  if !(← accept '\x7b') then fail "missing \x7b"
  let name ← name '\x7d' "character name"
  match characterNamed? name with
  | some code => return code
  | none => fail ("undefined character name " ++ quoted name) (name.length + 4)

/-- Reads the escapes that are the same in sets and outside; `none` for any other one. -/
def commonEscape? (c : Char) : Read (Option Nat) := do
  match c with
  | 'x' => some <$> hexEscape c 2
  | 'u' => some <$> hexEscape c 4
  | 'U' => some <$> hexEscape c 8
  | 'N' => some <$> namedEscape
  | _ => return none

/-- Fails for an escape that has no meaning. -/
def badEscape {α : Type} (c : Char) : Read α := fail ("bad escape " ++ String.ofList ['\\', c]) 2

/-- Fails for an octal escape that is no character of one byte. -/
def checkOctal (escape : List Char) (code : Nat) : Read Unit := do
  if 0o377 < code then
    fail ("octal escape value " ++ String.ofList escape ++ " outside of range 0-0o377")
      escape.length

/-- Reads an escape inside a set. -/
def setEscape (c : Char) : Read SetItem := do
  if let some code := controlEscape? c then return .char code
  if let some item := categoryEscape? c then return item
  if let some code ← commonEscape? c then return .char code
  if isOctalDigit c then
    let digits := c :: (← takeUpTo isOctalDigit 2)
    let code := readBase 8 digits
    checkOctal ('\\' :: digits) code
    return .char code
  if isDigit c || isAsciiLetter c then badEscape c
  return .char c.toNat

/-! ### Escapes outside of sets -/

/-- Reads an escape outside of sets. -/
def escape (c : Char) : Read Node := do
  if let some a := anchorEscape? c then return .anchor a
  if let some item := categoryEscape? c then return .set false [item]
  if let some code := controlEscape? c then return .char code
  if let some code ← commonEscape? c then return .char code
  if c == '0' then
    let digits ← takeUpTo isOctalDigit 2
    return .char (readBase 8 digits)
  if isDigit c then
    let more ← takeUpTo isDigit 1
    if isOctalDigit c && !more.isEmpty && more.all isOctalDigit then
      let last ← takeUpTo isOctalDigit 1
      if !last.isEmpty then
        let digits := c :: (more ++ last)
        let code := readBase 8 digits
        checkOctal ('\\' :: digits) code
        return .char code
    let index := readDigits 0 (c :: more)
    let length := more.length + 2
    if index < (← get).widths.length then
      if !(← isClosed index) then fail "cannot refer to an open group" length
      checkBehind index
      return .back index
    fail ("invalid group reference " ++ integerText index) (length - 1)
  if isAsciiLetter c then badEscape c
  return .char c.toNat

/-! ### Sets -/

/-- The items without those that have stood before. -/
def distinct (items : List SetItem) : List SetItem :=
  items.foldl (fun seen item => if seen.contains item then seen else seen ++ [item]) []

/-- Reads one item of a set from its first unit. -/
def setItem (u : List Char) : Read SetItem :=
  match u with
  | ['\\', c] => setEscape c
  | c :: _ => return .char c.toNat
  | [] => return .char 0

/-- Reads the items of a set up to the bracket that ends it; `start` is its position. -/
def setItems (start : Nat) : (fuel : Nat) → (items : List SetItem) → Read (List SetItem)
  | 0, items => return items
  | fuel + 1, items => do
    let unterminated {α : Type} : Read α := do
      fail "unterminated character set" ((← tell) - start)
    match ← next with
    | none => unterminated
    | some u =>
      if u == [']'] && !items.isEmpty then return items
      let item ← setItem u
      if ← accept '-' then
        match ← next with
        | none => unterminated
        | some v =>
          if v == [']'] then return items ++ [item, .char 0x2d]
          let item' ← setItem v
          let bad {α : Type} : Read α :=
            fail ("bad character range " ++ String.ofList u ++ "-" ++ String.ofList v)
              (u.length + 1 + v.length)
          match item, item' with
          | .char first, .char last =>
            if last < first then bad
            setItems start fuel (items ++ [.range first last])
          | _, _ => bad
      else setItems start fuel (items ++ [item])

/-- The node of a set, which is simpler for a single character. -/
def setNode (negated : Bool) (items : List SetItem) : Node :=
  match distinct items with
  | [.char code] => if negated then .otherChar code else .char code
  | items => .set negated items

/-- Reads a set behind its opening bracket. -/
def charSet : Read Node := do
  let start := (← tell) - 1
  let negated ← accept '^'
  return setNode negated (← setItems start ((← get).units.length + 1) [])

end CommandShell.Pattern
