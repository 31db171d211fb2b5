import CommandShell.Token.Statement

/-!
# Scanners

A scanner reads a text from left to right, statement by statement. It can look ahead and skip
blank characters in between without changing which statements it finds.
-/

namespace CommandShell

/-- A text and the position up to which it has been read. -/
structure Scanner where
  text : String
  position : Nat := 0

namespace Scanner

/-- A scanner at the beginning of a text of at most `maximum` characters. -/
def ofText (text : String) (maximum : Int := defaultMaxLength) : Except ParseError Scanner := do
  checkLength text maximum
  return { text }

/-- The characters that have not been read. -/
def rest (s : Scanner) : List Char := s.text.toList.drop s.position

/-- The next `length` characters, or as many as there are. -/
def peek (s : Scanner) (length : Int := 1) : String :=
  String.ofList (Text.slice s.text.toList s.position (s.position + length))

/-- Moves past blank characters, newlines included. -/
def skipBlanks (s : Scanner) : Scanner :=
  { s with position := s.position + (s.rest.takeWhile isBlank).length }

/-- Whether only blank characters are left; moves past them. -/
def atEnd (s : Scanner) : Bool × Scanner :=
  let s := s.skipBlanks
  (s.rest.isEmpty, s)

/-- The excerpt around a position, that of the scanner if none is given. -/
def excerpt (s : Scanner) (position : Option Int := none) (reach : Int := Text.excerptReach) :
    String :=
  Text.excerpt s.text (position.getD s.position) reach

/-- Reads the next statement; `none` when only newlines and blank characters are left. -/
def next (s : Scanner) : Except ParseError (Option (List Token)) × Scanner :=
  let atEnd := { s with position := s.position + s.rest.length }
  match nextStatement (Lexeme.cut s.position s.rest) with
  | .error p => (.error (.pointing s.text .unclosedLiteral p), atEnd)
  | .ok none => (.ok none, atEnd)
  | .ok (some (tokens, none)) => (.ok (some tokens), atEnd)
  | .ok (some (tokens, some (p, _))) => (.ok (some tokens), { s with position := p })

end Scanner

end CommandShell
