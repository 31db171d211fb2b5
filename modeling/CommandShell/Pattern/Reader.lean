import CommandShell.Pattern.Basic

/-!
# Reading pattern texts unit by unit

A pattern text is a row of units, each a character or a backslash with the character behind it.
Readers go through the units once. Errors tell the position they are found at; a backslash at the
end is an error as soon as the unit before it has been read.
-/

namespace CommandShell.Pattern

open Number Text

/-- A unit of a pattern text and the position of its first character. -/
structure PatternUnit where
  text : List Char
  start : Nat

/-- The state of reading. -/
structure Reader where
  units : List PatternUnit
  /-- The number of characters of the pattern. -/
  size : Nat
  /-- The pattern ends in a backslash. -/
  cutOff : Bool
  /-- The flags of the whole pattern. -/
  flags : List Flag := []
  names : List (String × Nat) := []
  /-- The widths of the groups opened so far, from group zero on; `none` for an open group. -/
  widths : List (Option Width) := [none]
  /-- Inside a look-behind: the number of groups opened before it. -/
  behind : Option Nat := none
  /-- The groups that conditions name by number, with the positions of the numbers. -/
  asked : List (Nat × Nat) := []

/-- Readers change the state or fail. -/
abbrev Read := StateT Reader (Except PatternError)

/-- The units of a pattern text from a position on. -/
def units (p : Nat) : List Char → List PatternUnit
  | '\\' :: c :: cs => ⟨['\\', c], p⟩ :: units (p + 2) cs
  | ['\\'] => []
  | c :: cs => ⟨[c], p⟩ :: units (p + 1) cs
  | [] => []

/-- Whether a pattern text ends in a backslash that escapes nothing. -/
def endsInBackslash : List Char → Bool
  | '\\' :: _ :: cs => endsInBackslash cs
  | ['\\'] => true
  | _ :: cs => endsInBackslash cs
  | [] => false

/-- The reader of a pattern text. -/
def Reader.ofText (pattern : String) : Reader :=
  let cs := pattern.toList
  { units := Pattern.units 0 cs, size := cs.length, cutOff := endsInBackslash cs }

/-- The widths of groups, for the widths of patterns that refer to them. -/
def Reader.groupWidth (s : Reader) (i : Nat) : Width := ((s.widths[i]?).join).getD .zero

namespace Read

/-- The next unit, if there is one. -/
def peek : Read (Option (List Char)) := return (← get).units.head?.map (·.text)

/-- The position of the next unit, or of the end. -/
def tell : Read Nat := do
  let s ← get
  return match s.units with
    | u :: _ => u.start
    | [] => s.size

/-- Fails at `offset` characters before the current position. -/
def fail {α : Type} (reason : String) (offset : Nat := 0) : Read α := do
  throw (.malformed reason (some ((← tell) - offset)))

/-- Fails if the text breaks off in a backslash here. -/
def checkCutOff : Read Unit := do
  let s ← get
  if s.units.isEmpty && s.cutOff then
    throw (.malformed "bad escape (end of pattern)" (some (s.size - 1)))

/-- Moves past the next unit. -/
def advance : Read Unit := do
  modify fun s => { s with units := s.units.drop 1 }
  checkCutOff

/-- Reads the next unit. -/
def next : Read (Option (List Char)) := do
  let u ← peek
  if u.isSome then advance
  return u

/-- Reads a unit that must be there. -/
def nextOrEnd : Read (List Char) := do
  match ← next with
  | none => fail "unexpected end of pattern"
  | some u => return u

/-- Reads the next unit if it is the character `c`. -/
def accept (c : Char) : Read Bool := do
  if (← peek) == some [c] then
    advance
    return true
  return false

/-- Reads up to `count` characters of a class. -/
def takeUpTo (p : Char → Bool) : (count : Nat) → Read (List Char)
  | 0 => return []
  | count + 1 => do
    match ← peek with
    | some [c] =>
      if p c then
        advance
        return c :: (← takeUpTo p count)
      return []
    | _ => return []

/-- Reads a name up to the character that ends it. -/
def nameUntil (last : Char) (what : String) : (fuel : Nat) → (name : List Char) → Read (List Char)
  | 0, name => return name
  | fuel + 1, name => do
    match ← next with
    | none =>
      if name.isEmpty then fail ("missing " ++ what)
      else fail ("missing " ++ String.ofList [last] ++ ", unterminated name") name.length
    | some u =>
      if u == [last] then
        if name.isEmpty then fail ("missing " ++ what) 1 else return name
      else nameUntil last what fuel (name ++ u)

/-- Reads a name of any length. -/
def name (last : Char) (what : String) : Read String := do
  return String.ofList (← nameUntil last what ((← get).units.length + 1) [])

end Read

/-! ### Groups -/

open Read

/-- Whether a group is complete. -/
def isClosed (i : Nat) : Read Bool := do
  return match (← get).widths[i]? with
    | some (some _) => true
    | _ => false

/-- Inside a look-behind a group must have been complete before it. -/
def checkBehind (i : Nat) : Read Unit := do
  if let some opened := (← get).behind then
    if !(← isClosed i) then fail "cannot refer to an open group"
    if opened ≤ i then fail "cannot refer to group defined in the same lookbehind subpattern"

/-- Opens a group and gives its number. -/
def openGroup (name : Option String) : Read Nat := do
  let s ← get
  let index := s.widths.length
  set { s with widths := s.widths ++ [none] }
  if let some name := name then
    if let some earlier := s.names.lookup name then
      fail ("redefinition of group name " ++ quoted name ++ " as group " ++ integerText index
        ++ "; was group " ++ integerText earlier) (name.length + 1)
    modify fun s => { s with names := (name, index) :: s.names }
  return index

/-- Closes a group. -/
def closeGroup (index : Nat) (row : Node) : Read Unit :=
  modify fun s =>
    { s with widths := s.widths.set index (some (row.width s.groupWidth).bounded) }

end CommandShell.Pattern
