import CommandShell.Error

/-!
# Search patterns

The abstract form of regular expressions: characters and sets of them, anchors, groups, rows,
alternatives, repetitions, look-around, back references and conditions on groups. Flags stand only
where a group changes them; what they mean for a character is settled when a pattern is compiled.

A row of nodes is written with `seq` and ends in `empty`; a row of alternatives is written with
`alt` and ends in `never`. The other nodes are the items of rows.
-/

namespace CommandShell.Pattern

open Number

/-- Flags of a pattern or of a part of it. -/
inductive Flag where
  | ignoreCase
  | multiline
  | dotAll
  | verbose
  | ascii
  | unicode
  | locale
  /-- Forbids repetitions. -/
  | template
  deriving DecidableEq, Repr

/-- The flag of a letter. -/
def Flag.ofLetter? : Char → Option Flag
  | 'i' => some ignoreCase
  | 'm' => some multiline
  | 's' => some dotAll
  | 'x' => some verbose
  | 'a' => some ascii
  | 'u' => some unicode
  | 'L' => some locale
  | 't' => some template
  | _ => none

/-- The flags that choose what letters and digits are; at most one of them is in force. -/
def Flag.isType : Flag → Bool
  | ascii | unicode | locale => true
  | _ => false

/-- What the flags of a part of a pattern add up to. -/
structure Settings where
  ignoreCase : Bool := false
  multiline : Bool := false
  dotAll : Bool := false
  verbose : Bool := false
  ascii : Bool := false
  template : Bool := false
  deriving DecidableEq, Repr

namespace Settings

/-- The settings with a flag turned on or off. -/
def set (s : Settings) (value : Bool) : Flag → Settings
  | .ignoreCase => { s with ignoreCase := value }
  | .multiline => { s with multiline := value }
  | .dotAll => { s with dotAll := value }
  | .verbose => { s with verbose := value }
  | .ascii => { s with ascii := value }
  | .unicode => { s with ascii := !value }
  | .template => { s with template := value }
  | .locale => s

/-- The settings with flags turned on and others turned off. -/
def apply (s : Settings) (on off : List Flag) : Settings :=
  off.foldl (·.set false ·) (on.foldl (·.set true ·) s)

end Settings

/-- Named classes of characters. -/
inductive Category where
  | digit
  | space
  | word
  deriving DecidableEq, Repr

/-- An item of a set of characters. -/
inductive SetItem where
  | char (code : Nat)
  | range (first last : Nat)
  | category (c : Category) (negated : Bool)
  deriving DecidableEq, Repr

/-- Places that a pattern can ask for. -/
inductive Anchor where
  /-- The beginning of the text, or of a line. -/
  | beginning
  /-- The end of the text or before a newline at it, or the end of a line. -/
  | ending
  | textStart
  | textEnd
  | boundary
  | noBoundary
  deriving DecidableEq, Repr

/-- How a repetition chooses its count. -/
inductive Greed where
  | greedy
  | lazy
  /-- As many as possible, and never fewer. -/
  | possessive
  deriving DecidableEq, Repr

/-- A pattern, or a part of one. -/
inductive Node where
  /-- The end of a row. -/
  | empty
  | seq (item rest : Node)
  /-- The end of alternatives. -/
  | never
  | alt (row rest : Node)
  | char (code : Nat)
  | otherChar (code : Nat)
  | any
  | set (negated : Bool) (items : List SetItem)
  | anchor (a : Anchor)
  | group (index : Option Nat) (on off : List Flag) (row : Node)
  | branch (alternatives : Node)
  | repeated (least : Nat) (most : Option Nat) (greed : Greed) (row : Node)
  | look (behind negated : Bool) (row : Node)
  | atomic (row : Node)
  | back (index : Nat)
  | cond (index : Nat) (yes no : Node)
  deriving DecidableEq, Repr

namespace Node

/-- The row of items. -/
def ofItems (items : List Node) : Node := items.foldr seq empty

/-- The items of a row. -/
def items : Node → List Node
  | seq item rest => item :: items rest
  | _ => []

/-- The node of alternatives. -/
def ofRows (rows : List Node) : Node := rows.foldr alt never

/-- Whether a node has no parts that are patterns themselves. -/
def isPlain : Node → Bool
  | char _ | otherChar _ | any | set .. | anchor _ | back _ => true
  | _ => false

end Node

/-! ### Errors -/

/-- Why a text is no pattern, or a pattern cannot be searched for. -/
inductive PatternError where
  | malformed (reason : String) (position : Option Nat)
  /-- A repetition count is too large. -/
  | countTooLarge
  /-- A repetition count has too many digits. -/
  | countTooLong (digits : Nat)
  /-- Two flags that exclude each other hold for the whole pattern. -/
  | clashingFlags
  /-- A look-behind reaches farther than it may. -/
  | behindTooFar
  /-- A match leaves a group that ends before it starts. -/
  | crossedGroup
  deriving DecidableEq, Repr

namespace PatternError

/-- The fault that an error is, unless the text of the pattern is malformed. -/
def fault? : PatternError → Option Fault
  | malformed .. => none
  | countTooLarge => some (.raised "OverflowError" "the repetition number is too large")
  | countTooLong digits => some (.tooManyDigits digits)
  | clashingFlags => some (.refused "ASCII and UNICODE flags are incompatible")
  | behindTooFar => some (.raised "RuntimeError" "invalid SRE code")
  | crossedGroup =>
    some (.raised "SystemError"
      "The span of capturing group is wrong, please report a bug for the re module.")

/-- The message of an error: the reason and its position, by line and column too if the pattern
has several lines. -/
def message (pattern : String) : PatternError → String
  | malformed reason none => reason
  | malformed reason (some p) =>
    let before := pattern.toList.take p
    let line := before.count '\n' + 1
    let column := (before.reverse.takeWhile (· != '\n')).length + 1
    let place :=
      if pattern.toList.contains '\n' then
        " (line " ++ integerText line ++ ", column " ++ integerText column ++ ")"
      else ""
    reason ++ " at position " ++ integerText p ++ place
  | error => (error.fault?.map Fault.text).getD ""

end PatternError

/-! ### Widths -/

/-- Repetition counts are below this number, and it stands for widths that have no bound. -/
def countLimit : Nat := 4294967295

/-- The least and the greatest number of characters that a part of a pattern takes. -/
structure Width where
  least : Nat
  most : Nat
  deriving DecidableEq, Repr

namespace Width

def zero : Width := ⟨0, 0⟩

def one : Width := ⟨1, 1⟩

def add (a b : Width) : Width := ⟨a.least + b.least, a.most + b.most⟩

def either (a b : Width) : Width := ⟨min a.least b.least, max a.most b.most⟩

/-- The width of a repetition. -/
def times (w : Width) (least : Nat) (most : Option Nat) : Width :=
  ⟨w.least * least, w.most * most.getD countLimit⟩

/-- The width of a row, whose numbers stay within the limit. -/
def bounded (w : Width) : Width := ⟨min w.least (countLimit - 1), min w.most countLimit⟩

/-- One length only. -/
def isFixed (w : Width) : Bool := w.least == w.most

end Width

/-- The width of a row or an item; `groups` gives the widths of groups that are complete. The sum
of a row is bounded where the row is used, not at each of its items. -/
def Node.width (groups : Nat → Width) : Node → Width
  | empty | anchor _ | look .. => .zero
  | seq item rest => (item.width groups).add (rest.width groups)
  | char _ | otherChar _ | any | set .. => .one
  | group _ _ _ row | atomic row => (row.width groups).bounded
  | never => ⟨countLimit - 1, 0⟩
  | alt row rest => (row.width groups).bounded.either (rest.width groups)
  | branch alternatives => alternatives.width groups
  | repeated least most _ row => (row.width groups).bounded.times least most
  | back i => groups i
  | cond _ yes no => (yes.width groups).bounded.either (no.width groups).bounded

end CommandShell.Pattern
