import CommandShell.Token.Lexeme

/-!
# Statements

A newline ends a statement only outside parentheses, so a call may span lines while a parenthesis
is open. Newlines before a statement are skipped. A text may hold any number of statements;
`tokenize` takes a text that holds at most one.
-/

namespace CommandShell

/-- The longest text that is accepted when no limit is given. -/
def defaultMaxLength : Int := 10000

/-- The tokens up to the newline that ends the statement at nesting depth `depth`, with the
position behind that newline and the lexemes that follow, if there is one. An unclosed literal is
an error at its position. -/
def takeStatement :
    (depth : Nat) → List Lexeme → Except Nat (List Token × Option (Nat × List Lexeme))
  | _, [] => .ok ([], none)
  | _, .unclosed p :: _ => .error p
  | 0, .newline p :: lexemes => .ok ([], some (p + 1, lexemes))
  | depth, lexeme :: lexemes =>
    match takeStatement (lexeme.depthAfter depth) lexemes with
    | .error p => .error p
    | .ok (tokens, rest) => .ok (lexeme.tokens ++ tokens, rest)

/-- The first statement of the lexemes, if there is one. -/
def nextStatement (lexemes : List Lexeme) :
    Except Nat (Option (List Token × Option (Nat × List Lexeme))) :=
  match lexemes.dropWhile Lexeme.isNewline with
  | [] => .ok none
  | lexeme :: lexemes => (takeStatement 0 (lexeme :: lexemes)).map some

theorem takeStatement_length {depth : Nat} {lexemes : List Lexeme} {tokens : List Token}
    {p : Nat} {rest : List Lexeme}
    (h : takeStatement depth lexemes = .ok (tokens, some (p, rest))) :
    rest.length < lexemes.length := by
  fun_induction takeStatement depth lexemes generalizing tokens with
  | case1 => simp at h
  | case2 => simp at h
  | case3 p lexemes =>
    simp only [Except.ok.injEq, Prod.mk.injEq, Option.some.injEq] at h
    obtain ⟨_, _, rfl⟩ := h
    simp
  | case4 => simp at h
  | case5 depth lexeme lexemes _ _ tokens' rest' hrec ih =>
    simp only [Except.ok.injEq, Prod.mk.injEq] at h
    obtain ⟨_, rfl⟩ := h
    have := ih hrec
    simp only [List.length_cons]
    omega

/-- All statements of the lexemes before the first unclosed literal, and its position. -/
def statements (source : List Lexeme) : List (List Token) × Option Nat :=
  match _hskip : source.dropWhile Lexeme.isNewline with
  | [] => ([], none)
  | lexeme :: lexemes =>
    match _htake : takeStatement 0 (lexeme :: lexemes) with
    | .error p => ([], some p)
    | .ok (tokens, none) => ([tokens], none)
    | .ok (tokens, some (_, rest)) =>
      let (others, unclosed) := statements rest
      (tokens :: others, unclosed)
termination_by source.length
decreasing_by
  have hskip := congrArg List.length _hskip
  have := Lexeme.length_dropWhile_le Lexeme.isNewline source
  have := takeStatement_length _htake
  omega

/-- Refuses a text of more than `maximum` characters. -/
def checkLength (text : String) (maximum : Int) : Except ParseError Unit :=
  if maximum < text.length then
    .error { defect := .tooLong text.length maximum, position := some 0,
             excerpt := some (Text.opening text 50) }
  else .ok ()

/-- The tokens of a text that holds at most one statement. -/
def tokenize (text : String) (maximum : Int := defaultMaxLength) :
    Except ParseError (List Token) := do
  checkLength text maximum
  match nextStatement (Lexeme.cut 0 text.toList) with
  | .error p => throw (.pointing text .unclosedLiteral p)
  | .ok none => return []
  | .ok (some (tokens, none)) => return tokens
  | .ok (some (tokens, some (_, rest))) =>
    match rest.dropWhile Lexeme.isNewline with
    | [] => return tokens
    | extra :: _ =>
      match statements rest with
      | (_, some p) => throw (.pointing text .unclosedLiteral p)
      | (others, none) =>
        checkBalance (tokens ++ others.flatten) text
        throw (.pointing text .trailingInput extra.position)

/-- The statements of a text, and the error that ends them early. -/
def textStatements (text : String) (maximum : Int := defaultMaxLength) :
    List (List Token) × Option ParseError :=
  match checkLength text maximum with
  | .error e => ([], some e)
  | .ok () =>
    let (found, unclosed) := statements (Lexeme.cut 0 text.toList)
    (found, unclosed.map (.pointing text .unclosedLiteral))

end CommandShell
