import CommandShell.Text.Quoted

/-!
# Settings of the command line

The options that the program takes, the summary of its usage and its help text. Both texts are
laid out for a terminal of 80 columns, of which two stay free.
-/

namespace CommandShell.CommandLine

/-- An option of the command line. -/
inductive Setting where
  | help
  | maxDepth
  | maxLength
  | serve
  | logLevel
  deriving DecidableEq, Repr

namespace Setting

/-- All options, in the order of the help text. -/
def all : List Setting := [help, maxDepth, maxLength, serve, logLevel]

/-- The names of an option. -/
def names : Setting → List String
  | help => ["-h", "--help"]
  | maxDepth => ["--max-depth"]
  | maxLength => ["--max-input-length"]
  | serve => ["--serve"]
  | logLevel => ["--log-level"]

/-- What stands for the value of an option; `help` has none. -/
def placeholder? : Setting → Option String
  | help => none
  | maxDepth => some "MAX_DEPTH"
  | maxLength => some "MAX_INPUT_LENGTH"
  | serve => some "HOST:PORT"
  | logLevel => some "LOG_LEVEL"

/-- What an option does. -/
def description : Setting → String
  | help => "show this help message and exit"
  | maxDepth => "Maximum command nesting depth (default: 10)"
  | maxLength => "Maximum statement length in characters (default: 10000)"
  | serve => "Serve over TCP instead of reading stdin"
  | logLevel => "Log level for stderr output (default: WARNING)"

/-- The names of an option as messages give them. -/
def shownNames (s : Setting) : String := "/".intercalate s.names

/-- A name with the placeholder of the value behind it. -/
def withPlaceholder (s : Setting) (name : String) : String :=
  match s.placeholder? with
  | some value => name ++ " " ++ value
  | none => name

/-- Every name of every option, with the option. -/
def table : List (String × Setting) := all.flatMap fun s => s.names.map fun name => (name, s)

end Setting

/-! ### Layout -/

/-- The name of the program. -/
def programName : String := "nestshell"

/-- The columns that texts may fill. -/
def width : Nat := 78

/-- Fills lines with words: a word that does not fit behind `line` starts a new one. -/
def fill (columns : Nat) (line : String) : List String → List String
  | [] => [line]
  | word :: words =>
    if line.length + 1 + word.length ≤ columns then fill columns (line ++ " " ++ word) words
    else line :: fill columns word words

/-- Lines with spaces before all but the first. -/
def hanging (indent : Nat) : List String → String
  | [] => ""
  | line :: lines =>
    let space := String.ofList (List.replicate indent ' ')
    String.join (line :: lines.map fun line => "\n" ++ space ++ line)

/-- The summary of the usage. -/
def usage : String :=
  let start := "usage: " ++ programName
  let indent := start.length + 1
  let parts := Setting.all.map fun s => "[" ++ s.withPlaceholder (s.names.headD "") ++ "]"
  match parts with
  | [] => start ++ "\n"
  | part :: parts =>
    start ++ " " ++ hanging indent (fill (width - indent) part parts) ++ "\n"

/-- The column of descriptions. -/
def descriptionColumn : Nat := 24

/-- The help on an option: its names, and the description behind them or below. -/
def settingHelp (s : Setting) : String :=
  let head := "  " ++ ", ".intercalate (s.names.map s.withPlaceholder)
  let gap := if head.length + 2 ≤ descriptionColumn then
      String.ofList (List.replicate (descriptionColumn - head.length) ' ')
    else "\n" ++ String.ofList (List.replicate descriptionColumn ' ')
  match s.description.splitOn " " with
  | [] => head ++ "\n"
  | word :: words =>
    head ++ gap ++ hanging descriptionColumn (fill (width - descriptionColumn) word words) ++ "\n"

/-- The help text. -/
def helpText : String :=
  usage ++ "\nRun nestshell\n\noptions:\n" ++ String.join (Setting.all.map settingHelp)

end CommandShell.CommandLine
