import CommandShell.Text.Blank
import CommandShell.Token.Basic

/-!
# Lexemes

A text is first cut into lexemes: words, parentheses, literal regions and newlines, each with its
position. Blank characters other than newlines only separate. A literal region starts with `(#`
and reaches to the parenthesis that closes it; nothing inside it is cut any further. If no
parenthesis closes it, the region is the last lexeme and is marked as unclosed.

The cut knows nothing of nesting, so it can be stated and proved on its own; statements are made
of lexemes in `CommandShell.Token.Statement`.
-/

namespace CommandShell

/-- A piece of a text. -/
inductive Lexeme where
  | word (text : String) (position : Nat)
  | opening (position : Nat)
  | closing (position : Nat)
  | literal (body : String) (position : Nat)
  | unclosed (position : Nat)
  | newline (position : Nat)
  deriving DecidableEq, Repr

/-- A character of words: neither blank nor a parenthesis. -/
def isWordChar (c : Char) : Bool := !isBlank c && c != '(' && c != ')'

/-- A word that is cut out of a text as it stands: not empty, of characters of words. -/
def isPlainWord (text : String) : Bool := !text.isEmpty && text.toList.all isWordChar

namespace Lexeme

def position : Lexeme → Nat
  | word _ p | opening p | closing p | literal _ p | unclosed p | newline p => p

def isNewline : Lexeme → Bool
  | newline _ => true
  | _ => false

/-- Splits the body of a literal off, up to the parenthesis that brings `depth` back to zero. The
body is collected in reverse. -/
def splitLiteral (depth : Nat) (body : List Char) : List Char → Option (List Char × List Char)
  | [] => none
  | c :: cs =>
    if c = '(' then splitLiteral (depth + 1) (c :: body) cs
    else if c = ')' then
      match depth with
      | 0 => some (body.reverse, cs)
      | depth + 1 => splitLiteral depth (c :: body) cs
    else splitLiteral depth (c :: body) cs

/-- Nothing is lost: the body, the closing parenthesis and the rest make up the text. -/
theorem splitLiteral_append {depth : Nat} {acc cs body rest : List Char}
    (h : splitLiteral depth acc cs = some (body, rest)) :
    body ++ ')' :: rest = acc.reverse ++ cs := by
  induction cs generalizing depth acc with
  | nil => simp [splitLiteral] at h
  | cons c cs ih =>
    simp only [splitLiteral] at h
    split at h
    · simpa using ih h
    · split at h
      · rename_i hc
        cases depth with
        | zero =>
          simp only [Option.some.injEq, Prod.mk.injEq] at h
          obtain ⟨rfl, rfl⟩ := h
          simp [hc]
        | succ d => simpa using ih h
      · simpa using ih h

theorem length_of_splitLiteral {depth : Nat} {acc cs body rest : List Char}
    (h : splitLiteral depth acc cs = some (body, rest)) :
    body.length + 1 + rest.length = acc.length + cs.length := by
  have := congrArg List.length (splitLiteral_append h)
  simp at this
  omega

theorem length_dropWhile_le {α : Type} (p : α → Bool) (l : List α) :
    (l.dropWhile p).length ≤ l.length := by
  induction l with
  | nil => simp
  | cons a l ih =>
    rw [List.dropWhile_cons]
    split
    · exact Nat.le_succ_of_le ih
    · exact Nat.le_refl _

/-- Cuts the characters from position `p` on into lexemes. -/
def cut (p : Nat) (cs : List Char) : List Lexeme :=
  match cs with
  | [] => []
  | '(' :: '#' :: cs =>
    match _h : splitLiteral 0 [] cs with
    | some (body, rest) =>
      literal (String.ofList body) p :: cut (p + 2 + body.length + 1) rest
    | none => [unclosed p]
  | c :: cs =>
    if c = '\n' then newline p :: cut (p + 1) cs
    else if isBlank c then cut (p + 1) cs
    else if c = '(' then opening p :: cut (p + 1) cs
    else if c = ')' then closing p :: cut (p + 1) cs
    else
      let word := c :: cs.takeWhile isWordChar
      .word (String.ofList word) p :: cut (p + word.length) (cs.dropWhile isWordChar)
termination_by cs.length
decreasing_by
  all_goals simp only [List.length_cons]
  · have := length_of_splitLiteral _h
    simp at this
    omega
  all_goals first
    | exact Nat.lt_succ_self _
    | exact Nat.lt_succ_of_le (length_dropWhile_le _ _)

/-- The tokens of a lexeme. A literal region gives four of them, its body as one word. -/
def tokens : Lexeme → List Token
  | word text p => [.word text p]
  | opening p => [.opening p]
  | closing p => [.closing p]
  | literal body p =>
    [.opening p, .marker (p + 1), .word body (p + 2), .closing (p + 2 + body.length)]
  | unclosed _ | newline _ => []

/-- The nesting depth behind a lexeme; a closing parenthesis without partner leaves it at zero. -/
def depthAfter (depth : Nat) : Lexeme → Nat
  | opening _ => depth + 1
  | closing _ => depth - 1
  | _ => depth

end Lexeme

end CommandShell
