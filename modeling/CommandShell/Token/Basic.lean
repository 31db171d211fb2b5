import CommandShell.Error
import CommandShell.Text.Excerpt

/-!
# Tokens

A statement is a row of tokens: words, parentheses, and the marker of a literal. Each token has
the position of its first character. Rows of tokens are also handed over by hosts, who may give
any positions and put other things among the tokens; such a thing is known only by the form in
which it is shown.

`checkBalance` accepts a row in which every parenthesis has a partner; otherwise it points at the
first closing parenthesis without partner, or else at the innermost one that stays open.
-/

namespace CommandShell

open Text

/-- A token, or a foreign thing among tokens. -/
inductive Token where
  | word (text : String) (position : Int)
  | opening (position : Int)
  | closing (position : Int)
  | marker (position : Int)
  | foreign (shown : String)
  deriving DecidableEq, Repr

namespace Token

/-- The form in which a token is shown; the text of a word stands as it is. -/
def shown : Token → String
  | word text _ => "Word(\"" ++ text ++ "\")"
  | opening _ => "Open"
  | closing _ => "Close"
  | marker _ => "LiteralMarker"
  | foreign shown => shown

/-- The form in which a row of tokens is shown. -/
def shownRow (tokens : List Token) : String := "[" ++ ", ".intercalate (tokens.map shown) ++ "]"

end Token

/-- A parse error that points at a position of the text, if the text is known. -/
def ParseError.pointing (text : Option String) (defect : Defect) (position : Int) : ParseError :=
  { defect, position := some position, excerpt := text.map fun t => Text.excerpt t position }

/-- The unmatched parenthesis of a row of tokens; `opened` holds the positions of the parentheses
that are open so far, innermost first. -/
def imbalance (opened : List Int) : List Token → Option (Defect × Int)
  | [] => opened.head?.map fun p => (.danglingOpen, p)
  | .opening p :: tokens => imbalance (p :: opened) tokens
  | .closing p :: tokens =>
    match opened with
    | [] => some (.unmatchedClose, p)
    | _ :: opened => imbalance opened tokens
  | _ :: tokens => imbalance opened tokens

/-- Refuses a row of tokens with an unmatched parenthesis. -/
def checkBalance (tokens : List Token) (text : Option String) : Except ParseError Unit :=
  match imbalance [] tokens with
  | some (defect, p) => .error (.pointing text defect p)
  | none => .ok ()

end CommandShell
