import CommandShell.Address
import CommandShell.CommandLine.Setting
import CommandShell.Limits

/-!
# Reading the command line

Words that begin with a hyphen are options. A long option may be shortened as long as one option
is meant, and may carry its value behind an equals sign; else its value is the next word, which
must not look like an option. Negative numbers and words with a space do not look like options.
Behind a double hyphen nothing does.

All words are told apart before any option takes effect, so an ambiguous one is reported first;
then options take effect from left to right, and words that no option takes are reported last.
-/

namespace CommandShell.CommandLine

open Number Text

/-- Why a command line is refused. -/
inductive UsageError where
  | ambiguous (word : String) (names : List String)
  | missingValue (s : Setting)
  | unusedValue (s : Setting) (value : String)
  | notInteger (s : Setting) (value : String)
  | unrecognized (words : List String)
  | limits (e : Limits.Invalid)
  | address (e : Address.Malformed)
  deriving DecidableEq, Repr

namespace UsageError

def message : UsageError → String
  | ambiguous word names =>
    "ambiguous option: " ++ word ++ " could match " ++ ", ".intercalate names
  | missingValue s => "argument " ++ s.shownNames ++ ": expected one argument"
  | unusedValue s value =>
    "argument " ++ s.shownNames ++ ": ignored explicit argument " ++ quoted value
  | notInteger s value =>
    "argument " ++ s.shownNames ++ ": invalid int value: " ++ quoted value
  | unrecognized words => "unrecognized arguments: " ++ " ".intercalate words
  | limits e => e.message
  | address e => e.message

/-- What is written for a refused command line. -/
def report (e : UsageError) : String :=
  usage ++ programName ++ ": error: " ++ e.message ++ "\n"

end UsageError

/-! ### Telling words apart -/

/-- A word of the command line. -/
inductive Word where
  /-- A word that is no option. -/
  | plain (text : String)
  /-- A double hyphen that ends the options. -/
  | separator
  /-- An option under one of its names, perhaps with a value attached. -/
  | option (s : Setting) (name : String) (attached : Option String)
  /-- A word that looks like an option and is none. -/
  | unknown (text : String)
  deriving DecidableEq, Repr

/-- Divides a word at its first equals sign. -/
def divide (word : String) : String × Option String :=
  let cs := word.toList
  let name := cs.takeWhile (· ≠ '=')
  (String.ofList name,
    if name.length < cs.length then some (String.ofList (cs.drop (name.length + 1))) else none)

/-- Whether a word is a negative number: a hyphen before decimal digits of any script, with at most
one point among or before them and digits behind the point. A newline may end it. -/
def isNegativeNumber (word : String) : Bool :=
  let isDecimal (c : Char) := (digitValue? c).isSome
  match word.toList with
  | '-' :: cs =>
    let cs := if cs.getLast? = some '\n' then cs.dropLast else cs
    let behind := cs.dropWhile isDecimal
    match behind with
    | [] => !cs.isEmpty
    | '.' :: fraction => !fraction.isEmpty && fraction.all isDecimal
    | _ => false
  | _ => false

/-- The options that a word, which is no complete name, can mean: with two hyphens those whose
names it begins, with one hyphen the option of its first letter. -/
def candidates (word : String) : List Word :=
  if word.toList.take 2 = ['-', '-'] then
    let (start, attached) := divide word
    Setting.table.filterMap fun (name, s) =>
      if start.toList.isPrefixOf name.toList then some (.option s name attached) else none
  else
    Setting.table.filterMap fun (name, s) =>
      if name.toList = word.toList.take 2 then
        some (.option s name (some (String.ofList (word.toList.drop 2))))
      else if word.toList.isPrefixOf name.toList then some (.option s name none)
      else none

/-- Tells what a word is. -/
def classify (word : String) : Except UsageError Word :=
  if word.toList.head? ≠ some '-' then .ok (.plain word)
  else match Setting.table.lookup word with
    | some s => .ok (.option s word none)
    | none =>
      if word.length = 1 then .ok (.plain word)
      else
        let (name, attached) := divide word
        match attached, Setting.table.lookup name with
        | some value, some s => .ok (.option s name (some value))
        | _, _ =>
          match candidates word with
          | [found] => .ok found
          | [] =>
            if isNegativeNumber word || word.toList.contains ' ' then .ok (.plain word)
            else .ok (.unknown word)
          | found => .error (.ambiguous word (found.filterMap fun
              | .option _ name _ => some name
              | _ => none))

/-- Tells what all words are. -/
def classifyAll : List String → Except UsageError (List Word)
  | [] => .ok []
  | "--" :: words => .ok (.separator :: words.map .plain)
  | word :: words => do
    let first ← classify word
    let rest ← classifyAll words
    return first :: rest

/-! ### Taking effect -/

/-- What the options say. -/
structure Settings where
  maxDepth : Option Int := none
  maxLength : Option Int := none
  serve : Option String := none
  logLevel : String := "WARNING"
  deriving DecidableEq, Repr

namespace Settings

/-- An integer value. -/
def integer (s : Setting) (value : String) : Except UsageError Int :=
  match readInteger value with
  | .ok n => .ok n
  | .error _ => .error (.notInteger s value)

/-- Sets an option to a value. -/
def set (settings : Settings) (s : Setting) (value : String) : Except UsageError Settings :=
  match s with
  | .help => .ok settings
  | .maxDepth => do
    let n ← integer s value
    return { settings with maxDepth := some n }
  | .maxLength => do
    let n ← integer s value
    return { settings with maxLength := some n }
  | .serve => .ok { settings with serve := some value }
  | .logLevel => .ok { settings with logLevel := value }

/-- The limits: those of the environment, unless the command line sets others. -/
def limits (settings : Settings) (environment : String → Option String) :
    Except Limits.Invalid Limits := do
  let l ← Limits.ofEnvironment environment
  Limits.ofData (.int (settings.maxDepth.getD l.maxDepth))
    (.int (settings.maxLength.getD l.maxLength))

end Settings

/-- What the command line asks for. -/
inductive Request where
  | help
  | run (settings : Settings)
  deriving DecidableEq, Repr

/-- Checks what is attached to a request for help: behind the one-letter name, only more of the
same letter. -/
def checkHelp (name : String) : Option String → Except UsageError Unit
  | none => .ok ()
  | some value =>
    let rest := if name = "-h" then value.toList.dropWhile (· = 'h') else value.toList
    if rest.isEmpty && !value.isEmpty then .ok ()
    else .error (.unusedValue .help (String.ofList rest))

/-- Lets options take effect from left to right; `spare` holds the words that none took. -/
def apply (settings : Settings) (spare : List String) : List Word → Except UsageError Request
  | [] => if spare.isEmpty then .ok (.run settings) else .error (.unrecognized spare)
  | .plain text :: words => apply settings (spare ++ [text]) words
  | .separator :: words => apply settings (spare ++ ["--"]) words
  | .unknown text :: words => apply settings (spare ++ [text]) words
  | .option .help name attached :: _ => do
    checkHelp name attached
    return .help
  | .option s _ (some value) :: words => do
    let settings ← settings.set s value
    apply settings spare words
  | .option s _ none :: .plain value :: words => do
    let settings ← settings.set s value
    apply settings spare words
  | .option s _ none :: _ => .error (.missingValue s)

/-- Reads a command line. -/
def read (args : List String) : Except UsageError Request := do
  let words ← classifyAll args
  apply {} [] words

end CommandShell.CommandLine
