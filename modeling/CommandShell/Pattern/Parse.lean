import CommandShell.Pattern.Escape
import CommandShell.Text.Identifier

/-!
# Reading search patterns

The readers for rows, groups and alternatives call each other. A unit takes at most one call of
each before the next unit is read, so four times the number of units bounds their nesting; that
bound is the fuel.

Groups that neither capture nor set flags are dissolved into the row they stand in. Alternatives
give up what they all start with, and alternatives of one character each become a set.
-/

namespace CommandShell.Pattern

open Number Read Text

/-! ### Repetitions -/

/-- The number of a repetition count. -/
def countOf (digits : List Char) : Read Nat := do
  if maxDigits < digits.length then throw (.countTooLong digits.length)
  let n := readDigits 0 digits
  if countLimit ≤ n then throw .countTooLarge
  return n

/-- Reads the counts of a repetition behind the opening brace; `none` if the brace is only a
character. -/
def counts : Read (Option (Nat × Option Nat)) := do
  if (← peek) == some ['\x7d'] then return none
  let back ← get
  let here ← tell
  let low ← takeUpTo isDigit back.units.length
  let high ← if ← accept ',' then takeUpTo isDigit back.units.length else pure low
  if !(← accept '\x7d') then
    set back
    return none
  let least ← countOf low
  if high.isEmpty then return some (least, none)
  let most ← countOf high
  if most < least then fail "min repeat greater than max repeat" ((← tell) - here)
  return some (least, some most)

/-- Reads the mark behind a repetition that tells how much it takes. -/
def readGreed : Read Greed := do
  let lazily ← accept '?'
  if lazily then return .lazy
  let possessively ← accept '+'
  return if possessively then .possessive else .greedy

/-- Repeats the last item of a row in reverse; `here` is the position behind the repetition mark,
which is one character. A group that does nothing else is repeated as the row it holds. -/
def repeatLast (here : Nat) (least : Nat) (most : Option Nat) : List Node → Read (List Node)
  | [] => do fail "nothing to repeat" ((← tell) - here + 1)
  | .anchor _ :: _ => do fail "nothing to repeat" ((← tell) - here + 1)
  | .repeated .. :: _ => do fail "multiple repeat" ((← tell) - here + 1)
  | .group none [] [] row :: nodes => do
    let greed ← readGreed
    return .repeated least most greed row :: nodes
  | node :: nodes => do
    let greed ← readGreed
    return .repeated least most greed (.ofItems [node]) :: nodes

/-! ### Rows and alternatives -/

/-- The row of items read in reverse, without groups that only hold a row. -/
def dissolved (nodes : List Node) : Node :=
  .ofItems <| nodes.reverse.flatMap fun
    | .group none [] [] row => row.items
    | node => [node]

/-- The item that all rows start with, if it has no parts. -/
def commonHead? : List (List Node) → Option Node
  | (node :: _) :: rows =>
    if node.isPlain && rows.all (fun row => row.head? == some node) then some node else none
  | _ => none

/-- Splits off what all rows start with; `fuel` bounds how much. -/
def splitCommon : (fuel : Nat) → List (List Node) → List Node × List (List Node)
  | 0, rows => ([], rows)
  | fuel + 1, rows =>
    match commonHead? rows with
    | none => ([], rows)
    | some node =>
      let (shared, rows) := splitCommon fuel (rows.map (·.drop 1))
      (node :: shared, rows)

/-- The items of a set of the characters of a row, if the row is one character of some kind. -/
def oneOf? : List Node → Option (List SetItem)
  | [.char code] => some [.char code]
  | [.set false items] => some items
  | _ => none

/-- The row of two alternatives or more. -/
def joined (rows : List Node) : Node :=
  let lists := rows.map Node.items
  let (shared, rest) := splitCommon ((lists.head?.map List.length).getD 0) lists
  let last : Node := match rest.mapM oneOf? with
    | some sets => .set false (distinct sets.flatten)
    | none => .branch (.ofRows (rest.map Node.ofItems))
  .ofItems (shared ++ [last])

/-! ### Flags -/

/-- Fails for a unit that is no flag, by whether it is a letter. -/
def notFlag {α : Type} (u : List Char) (missing : String) : Read α :=
  let letter := match u with
    | [c] => isLetter c
    | _ => false
  fail (if letter then "unknown flag" else missing) u.length

/-- The flag of a unit. -/
def flagOf? : List Char → Option Flag
  | [c] => Flag.ofLetter? c
  | _ => none

/-- Reads the flags that are turned on, from `flag` on; gives them with the character that ends
them. -/
def flagsOn : (fuel : Nat) → (flag : Flag) → (flags : List Flag) → Read (List Flag × Char)
  | 0, _, flags => return (flags, ':')
  | fuel + 1, flag, flags => do
    if flag == .locale then fail "bad inline flags: cannot use 'L' flag with a str pattern"
    let flags := flag :: flags
    if flags.contains .ascii && flags.contains .unicode then
      fail "bad inline flags: flags 'a', 'u' and 'L' are incompatible"
    match ← next with
    | none => fail "missing -, : or )"
    | some u =>
      if u == [')'] then return (flags, ')')
      if u == ['-'] then return (flags, '-')
      if u == [':'] then return (flags, ':')
      match flagOf? u with
      | some flag => flagsOn fuel flag flags
      | none => notFlag u "missing -, : or )"

/-- Reads the flags that are turned off, from `flag` to the colon. -/
def flagsOff : (fuel : Nat) → (flag : Flag) → (flags : List Flag) → Read (List Flag)
  | 0, _, flags => return flags
  | fuel + 1, flag, flags => do
    if flag.isType then fail "bad inline flags: cannot turn off flags 'a', 'u' and 'L'"
    let flags := flag :: flags
    match ← next with
    | none => fail "missing :"
    | some u =>
      if u == [':'] then return flags
      match flagOf? u with
      | some flag => flagsOff fuel flag flags
      | none => notFlag u "missing :"

/-- Reads flags, from the first flag on or behind a hyphen. Flags of the whole pattern are stored
and give `none`; those of a group give the flags turned on and off. -/
def flags (first : Option Flag) : Read (Option (List Flag × List Flag)) := do
  let fuel := (← get).units.length + 1
  let (on, last) ← match first with
    | some flag => flagsOn fuel flag []
    | none => pure ([], '-')
  if last == ')' then
    modify fun s => { s with flags := on ++ s.flags }
    return none
  if on.contains .template then fail "bad inline flags: cannot turn on global flag" 1
  let off ← if last == '-' then
      match ← next with
      | none => fail "missing flag"
      | some u =>
        match flagOf? u with
        | some flag => flagsOff fuel flag []
        | none => notFlag u "missing flag"
    else pure []
  if off.contains .template then fail "bad inline flags: cannot turn off global flag" 1
  if on.any off.contains then fail "bad inline flags: flag turned on and off" 1
  return some (on, off)

/-! ### Groups -/

/-- What the marks behind an opening parenthesis say. -/
inductive GroupKind where
  /-- A node by itself, or nothing. -/
  | whole (node : Option Node)
  | capture (name : Option String)
  | plain (on off : List Flag)
  | atomic
  | look (behind negated : Bool)
  | condition (index : Nat)

/-- Skips a comment that starts at `start`. -/
def comment (start : Nat) : (fuel : Nat) → Read Unit
  | 0 => return ()
  | fuel + 1 => do
    match ← next with
    | none => fail "missing ), unterminated comment" ((← tell) - start)
    | some [')'] => return ()
    | some _ => comment start fuel

/-- Refuses a name for a group. -/
def badGroupName {α : Type} (name : String) : Read α :=
  fail ("bad character in group name " ++ quoted name) (name.length + 1)

/-- The number of the group of a name. -/
def groupOfName (name : String) : Read Nat := do
  match (← get).names.lookup name with
  | some index => return index
  | none => fail ("unknown group name " ++ quoted name) (name.length + 1)

/-- Group numbers in conditions are below this number. -/
def groupLimit : Nat := 1073741823

/-- Reads which group a condition asks for. -/
def conditionGroup : Read Nat := do
  let name ← name ')' "group name"
  if isIdentifier name then groupOfName name
  else match readInteger name with
    | .error _ => badGroupName name
    | .ok n =>
      if n < 0 then badGroupName name
      let index := n.toNat
      if index == 0 then fail "bad group number" (name.length + 1)
      if groupLimit ≤ index then
        fail ("invalid group reference " ++ integerText index) (name.length + 1)
      let position := (← tell) - name.length - 1
      modify fun s => { s with asked := s.asked ++ [(index, position)] }
      return index

/-- Reads what stands behind the letter of named groups. -/
def namedGroup : Read GroupKind := do
  if ← accept '<' then
    let name ← name '>' "group name"
    if !isIdentifier name then badGroupName name
    return .capture (some name)
  if ← accept '=' then
    let name ← name ')' "group name"
    if !isIdentifier name then badGroupName name
    let index ← groupOfName name
    if !(← isClosed index) then fail "cannot refer to an open group" (name.length + 1)
    checkBehind index
    return .whole (some (.back index))
  let u ← nextOrEnd
  fail ("unknown extension ?P" ++ String.ofList u) (u.length + 2)

/-- Reads the marks behind an opening parenthesis at `start`. `atStart` tells whether flags of the
whole pattern may stand here. -/
def groupKind (start : Nat) (atStart : Bool) : Read GroupKind := do
  if !(← accept '?') then return .capture none
  match ← nextOrEnd with
  | ['P'] => namedGroup
  | [':'] => return .plain [] []
  | ['#'] =>
    comment start ((← get).units.length + 1)
    return .whole none
  | ['='] => return .look false false
  | ['!'] => return .look false true
  | ['<'] =>
    match ← nextOrEnd with
    | ['='] => return .look true false
    | ['!'] => return .look true true
    | u => fail ("unknown extension ?<" ++ String.ofList u) (u.length + 2)
  | ['('] =>
    let index ← conditionGroup
    checkBehind index
    return .condition index
  | ['>'] => return .atomic
  | u =>
    let flag := flagOf? u
    if flag.isSome || u == ['-'] then
      match ← flags flag with
      | some (on, off) => return .plain on off
      | none =>
        if !atStart then
          fail "global flags not at the start of the expression" ((← tell) - start)
        return .whole none
    else fail ("unknown extension ?" ++ String.ofList u) (u.length + 1)

/-- Reads the parenthesis that closes the group opened at `start`. -/
def closeParenthesis (start : Nat) : Read Unit := do
  if !(← accept ')') then
    fail "missing ), unterminated subpattern" ((← tell) - start)

/-! ### Rows -/

/-- A blank unit between the parts of a verbose pattern. -/
def isVerboseBlank (u : List Char) : Bool :=
  match u with
  | [c] => isPadding c
  | _ => false

/-- Skips the rest of a line. -/
def skipLine : (fuel : Nat) → Read Unit
  | 0 => return ()
  | fuel + 1 => do
    match ← next with
    | none | some ['\n'] => return ()
    | some _ => skipLine fuel

mutual

/-- Reads alternatives. `own` tells whether blanks are skipped in a part inside of a group; outside
of all groups the flags of the whole pattern tell. -/
def alternatives (own : Option Bool) (first : Bool) : (fuel : Nat) → Read (List Node)
  | 0 => return []
  | fuel + 1 => do
    let row ← rowFrom own (own.isNone && first) fuel []
    if ← accept '|' then
      return row :: (← alternatives own false fuel)
    return [row]

/-- Reads alternatives as one row. -/
def rowOfAlternatives (own : Option Bool) : (fuel : Nat) → Read Node
  | 0 => return .empty
  | fuel + 1 => do
    match ← alternatives own true fuel with
    | [row] => return row
    | rows => return joined rows

/-- Reads a row behind the items read so far, which are in reverse. `first` tells that the row is
the first alternative outside of all groups. -/
def rowFrom (own : Option Bool) (first : Bool) : (fuel : Nat) → (nodes : List Node) → Read Node
  | 0, nodes => return dissolved nodes
  | fuel + 1, nodes => do
    let verbose := own.getD ((← get).flags.contains .verbose)
    match ← peek with
    | none | some ['|'] | some [')'] => return dissolved nodes
    | some u =>
      advance
      if verbose && isVerboseBlank u then rowFrom own first fuel nodes
      else if verbose && u == ['#'] then
        skipLine ((← get).units.length + 1)
        rowFrom own first fuel nodes
      else match u with
        | ['\\', c] => rowFrom own first fuel ((← escape c) :: nodes)
        | ['['] => rowFrom own first fuel ((← charSet) :: nodes)
        | ['?'] => rowFrom own first fuel (← repeatLast (← tell) 0 (some 1) nodes)
        | ['*'] => rowFrom own first fuel (← repeatLast (← tell) 0 none nodes)
        | ['+'] => rowFrom own first fuel (← repeatLast (← tell) 1 none nodes)
        | ['\x7b'] =>
          let here ← tell
          match ← counts with
          | none => rowFrom own first fuel (.char 0x7b :: nodes)
          | some (least, most) => rowFrom own first fuel (← repeatLast here least most nodes)
        | ['.'] => rowFrom own first fuel (.any :: nodes)
        | ['('] =>
          match ← groupFrom verbose (first && nodes.isEmpty) fuel with
          | some node => rowFrom own first fuel (node :: nodes)
          | none => rowFrom own first fuel nodes
        | ['^'] => rowFrom own first fuel (.anchor .beginning :: nodes)
        | ['$'] => rowFrom own first fuel (.anchor .ending :: nodes)
        | c :: _ => rowFrom own first fuel (.char c.toNat :: nodes)
        | [] => rowFrom own first fuel nodes

/-- Reads what an opening parenthesis starts; comments and flags of the whole pattern give no
node. -/
def groupFrom (verbose atStart : Bool) : (fuel : Nat) → Read (Option Node)
  | 0 => return none
  | fuel + 1 => do
    let start := (← tell) - 1
    match ← groupKind start atStart with
    | .whole node => return node
    | .capture name =>
      let index ← openGroup name
      let row ← rowOfAlternatives (some verbose) fuel
      closeParenthesis start
      closeGroup index row
      return some (.group (some index) [] [] row)
    | .plain on off =>
      let verbose := (verbose || on.contains .verbose) && !off.contains .verbose
      let row ← rowOfAlternatives (some verbose) fuel
      closeParenthesis start
      return some (.group none on off row)
    | .atomic =>
      let row ← rowOfAlternatives (some verbose) fuel
      closeParenthesis start
      return some (.atomic row)
    | .look false negated =>
      let row ← rowOfAlternatives (some verbose) fuel
      closeParenthesis start
      return some (.look false negated row)
    | .look true negated =>
      let outer := (← get).behind
      modify fun s => { s with behind := some (s.behind.getD s.widths.length) }
      let row ← rowOfAlternatives (some verbose) fuel
      modify fun s => { s with behind := outer }
      closeParenthesis start
      return some (.look true negated row)
    | .condition index =>
      let yes ← rowFrom (some verbose) false fuel []
      let no ← if ← accept '|' then
          let no ← rowFrom (some verbose) false fuel []
          if (← peek) == some ['|'] then
            fail "conditional backref with more than two branches"
          pure no
        else pure .empty
      closeParenthesis start
      return some (.cond index yes no)

end

/-! ### Whole patterns -/

/-- Refuses repetitions under the template flag, and look-behinds of more than one width. -/
def Node.check (template : Bool) (groups : Nat → Width) : Node → Except PatternError Unit
  | .empty | .never | .char _ | .otherChar _ | .any | .set .. | .anchor _ | .back _ => return ()
  | .seq a b | .alt a b | .cond _ a b => do
    a.check template groups
    b.check template groups
  | .group _ _ _ row | .branch row | .look false _ row | .atomic row => row.check template groups
  | .repeated _ _ greed row => do
    if template then
      let operator := match greed with
        | .greedy => "MAX_REPEAT"
        | .lazy => "MIN_REPEAT"
        | .possessive => "POSSESSIVE_REPEAT"
      throw (.malformed ("internal: unsupported template operator " ++ operator) none)
    row.check template groups
  | .look true _ row => do
    if !(row.width groups).bounded.isFixed then
      throw (.malformed "look-behind requires fixed-width pattern" none)
    row.check template groups

/-- Look-behinds are shorter than this. -/
def behindLimit : Nat := 2147483648

/-- Whether every look-behind is short enough. -/
def Node.behindWithin (groups : Nat → Width) : Node → Bool
  | .empty | .never | .char _ | .otherChar _ | .any | .set .. | .anchor _ | .back _ => true
  | .seq a b | .alt a b | .cond _ a b => a.behindWithin groups && b.behindWithin groups
  | .group _ _ _ row | .branch row | .look false _ row | .atomic row | .repeated _ _ _ row =>
    row.behindWithin groups
  | .look true _ row =>
    (row.width groups).bounded.least < behindLimit && row.behindWithin groups

/-- A pattern that has been read: its row, its settings, and the widths of its groups. -/
structure Compiled where
  row : Node
  settings : Settings
  groups : Nat → Width

/-- Reads a whole pattern. -/
def wholePattern : Read Compiled := do
  checkCutOff
  let row ← rowOfAlternatives none (4 * (← get).units.length + 4)
  let s ← get
  if s.flags.contains .ascii && s.flags.contains .unicode then throw .clashingFlags
  if (← peek).isSome then fail "unbalanced parenthesis"
  if let some (index, position) := s.asked.find? fun (index, _) => s.widths.length ≤ index then
    throw (.malformed ("invalid group reference " ++ integerText index) (some position))
  let settings := Settings.apply {} s.flags []
  row.check settings.template s.groupWidth
  if !row.behindWithin s.groupWidth then throw .behindTooFar
  return ⟨row, settings, s.groupWidth⟩

/-- Reads a pattern text. -/
def compile (pattern : String) : Except PatternError Compiled :=
  (wholePattern.run (.ofText pattern)).map (·.1)

end CommandShell.Pattern
