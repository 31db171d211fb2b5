import CommandShell.Limits
import CommandShell.Token.Statement
import CommandShell.Tree.Build

/-!
# Parsing command lines

`parse` reads a text of exactly one statement, `parseScript` a text of any number of statements.
Both check the length of the whole text first. A few sample lines show the grammar.
-/

namespace CommandShell

/-- The call tree of a command line. -/
def parse (text : String) (limits : Limits := .standard) : Except ParseError Call := do
  let tokens ← tokenize text limits.maxLength
  build tokens limits.maxDepth text

/-- Builds the trees of statements in order; the first error wins. -/
def buildAll (maxDepth : Int) (text : String) : List (List Token) → Except ParseError (List Call)
  | [] => .ok []
  | tokens :: others => do
    let call ← build tokens maxDepth text
    let calls ← buildAll maxDepth text others
    return call :: calls

/-- The call trees of all statements of a text. An unclosed literal counts behind the statements
that come before it. -/
def parseScript (text : String) (limits : Limits := .standard) : Except ParseError (List Call) :=
  let (found, unclosed) := textStatements text limits.maxLength
  match buildAll limits.maxDepth text found, unclosed with
  | .error e, _ => .error e
  | .ok _, some e => .error e
  | .ok calls, none => .ok calls

/-! ### Samples -/

/-- Lines that show words, nested calls, literals, statements over several lines and an error. -/
def sampleLines : List String :=
  [ "print hello world",
    "outer (inner x) y",
    "print (#a (b) c)",
    "set level (\n  get level\n)",
    "broken (call" ]

/-- A line and what it parses to. -/
def sampleReport (line : String) : String :=
  "\nInput: " ++ line ++ "\n"
    ++ (match parse line with
      | .ok call => "Output: " ++ call.shown
      | .error e => "Error: " ++ e.message)
    ++ "\n"

/-- The report on all sample lines. -/
def samplesReport : String := String.join (sampleLines.map sampleReport)

end CommandShell
