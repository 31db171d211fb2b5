import CommandShell.Token.Lexeme

/-!
# Call trees

A call has a name and arguments; an argument is literal text or another call. The depth of a call
is the nesting of calls below it, zero for a flat one.

`Call.text` writes a call as a command line. Literal text that is not a plain word becomes a
literal region, and a nested call whose name starts with the literal marker is kept apart from its
parenthesis by a space, since `(#` would open a literal region.
-/

namespace CommandShell

/-- An argument of a call. -/
inductive Arg where
  | literal (text : String)
  | call (name : String) (args : List Arg)
  deriving Inhabited

/-- A call: a command name and its arguments. -/
structure Call where
  name : String
  args : List Arg := []
  deriving Inhabited

/-- A call as an argument of another one. -/
def Call.toArg (c : Call) : Arg := .call c.name c.args

/-- A name that starts with the literal marker. -/
def startsWithMarker (name : String) : Bool := name.toList.head? == some '#'

namespace Arg

mutual

/-- Decides equality of arguments. -/
def decEq : (a b : Arg) → Decidable (a = b)
  | literal s, literal t =>
    if h : s = t then isTrue (h ▸ rfl) else isFalse fun e => h (by injection e)
  | literal _, call .. => isFalse nofun
  | call .., literal _ => isFalse nofun
  | call n as, call m bs =>
    if h : n = m then
      match decEqAll as bs with
      | isTrue h' => isTrue (h ▸ h' ▸ rfl)
      | isFalse h' => isFalse fun e => h' (by injection e)
    else isFalse fun e => h (by injection e)

/-- Decides equality of rows of arguments. -/
def decEqAll : (as bs : List Arg) → Decidable (as = bs)
  | [], [] => isTrue rfl
  | [], _ :: _ => isFalse nofun
  | _ :: _, [] => isFalse nofun
  | a :: as, b :: bs =>
    match decEq a b with
    | isTrue h =>
      match decEqAll as bs with
      | isTrue h' => isTrue (h ▸ h' ▸ rfl)
      | isFalse h' => isFalse fun e => h' (by injection e)
    | isFalse h => isFalse fun e => h (by injection e)

end

instance : DecidableEq Arg := decEq

mutual

/-- How many calls are nested in an argument; none in literal text. -/
def height : Arg → Nat
  | literal _ => 0
  | call _ args => heights args + 1

/-- The greatest height of a row of arguments. -/
def heights : List Arg → Nat
  | [] => 0
  | arg :: args => max arg.height (heights args)

end

mutual

/-- An argument as it is written in a command line. -/
def chars : Arg → List Char
  | literal text => if isPlainWord text then text.toList else '(' :: '#' :: (text.toList ++ [')'])
  | call name args =>
    let body := name.toList ++ (charsAll args ++ [')'])
    if startsWithMarker name then '(' :: ' ' :: body else '(' :: body

/-- A row of arguments, each behind a space. -/
def charsAll : List Arg → List Char
  | [] => []
  | arg :: args => ' ' :: (arg.chars ++ charsAll args)

end

mutual

/-- The form in which an argument is shown; texts and names stand as they are. -/
def shown : Arg → String
  | literal text => "Literal(\"" ++ text ++ "\")"
  | call name args => "CallNode(" ++ name ++ ", [" ++ ", ".intercalate (shownAll args) ++ "])"

/-- The shown forms of a row of arguments. -/
def shownAll : List Arg → List String
  | [] => []
  | arg :: args => arg.shown :: shownAll args

end

end Arg

deriving instance DecidableEq for Call

namespace Call

/-- The nesting depth of calls below a call. -/
def depth (c : Call) : Nat := Arg.heights c.args

/-- The characters of the command line that writes the call. -/
def chars (c : Call) : List Char := c.name.toList ++ Arg.charsAll c.args

/-- The command line that writes the call. -/
def text (c : Call) : String := String.ofList c.chars

/-- The form in which a call is shown. -/
def shown (c : Call) : String := c.toArg.shown

theorem height_toArg (c : Call) : c.toArg.height = c.depth + 1 := by
  simp [toArg, depth, Arg.height]

end Call

end CommandShell
