import CommandShell.Proofs.Script
import CommandShell.Proofs.UnfinishedCall
import CommandShell.Proofs.WholeText
import CommandShell.Token.Scanner

/-!
# Lines and scripts of one statement

A line is read by the tokens of its first statement and a look at what follows it, a script by all
its statements one by one. Where the text is one statement, both come to the same tokens, so they
have the same feedback and the same effect. Where it is more, a line is refused as a whole.

* `statements_eq_next` — the statements of a text begin with the next one;
* `tokenize_eq_sole` — **a line is read as the only one of its statements**, or not at all;
* `trees_of_sole` — the trees of a line and of a script;
* `evaluate_line_script` — when lines and scripts agree, and what they do where they do not.
-/

namespace CommandShell

variable {Ctx : Type}

/-! ### Statements -/

/-- The statements begin with the next one. -/
theorem statements_eq_next (ls : List Lexeme) :
    statements ls =
      match nextStatement ls with
      | .error p => ([], some p)
      | .ok none => ([], none)
      | .ok (some (tokens, none)) => ([tokens], none)
      | .ok (some (tokens, some (_, rest))) =>
        (tokens :: (statements rest).1, (statements rest).2) := by
  rw [statements.eq_def, nextStatement]
  split
  · rename_i hskip
    rw [hskip]
  · rename_i l others hskip
    rw [hskip]
    dsimp only
    split <;> rename_i htake <;> rw [htake] <;> rfl

theorem statements_eq_nil_iff (ls : List Lexeme) :
    statements ls = ([], none) ↔ ls.dropWhile Lexeme.isNewline = [] := by
  rw [statements_eq_next]
  constructor
  · intro h
    rcases hnext : nextStatement ls with p | _ | ⟨tokens, _ | ⟨q, rest⟩⟩
    · rw [hnext] at h
      cases h
    · exact nextStatement_none hnext
    · rw [hnext] at h
      cases h
    · rw [hnext] at h
      cases h
  · intro h
    rw [nextStatement, h]

/-- What the statements of a text come to where only one is due. The tokens of the only one, if the
text has one; input at `extra` follows the first one if it has more. -/
def soleStatement (text : String) (extra : Int) :
    List (List Token) × Option Nat → Except ParseError (List Token)
  | (_, some p) => .error (.pointing text .unclosedLiteral p)
  | ([], none) => .ok []
  | ([tokens], none) => .ok tokens
  | (found, none) =>
    (checkBalance found.flatten text).bind fun _ => .error (.pointing text .trailingInput extra)

/-- **Lines.** A text within the limit is read as the only one of its statements. -/
theorem tokenize_eq_sole {text : String} {maximum : Int} (h : text.length ≤ maximum) :
    ∃ extra, tokenize text maximum =
      soleStatement text extra (statements (Lexeme.cut 0 text.toList)) := by
  rw [tokenize, (checkLength_eq_ok_iff text maximum).2 h, statements_eq_next]
  rcases nextStatement (Lexeme.cut 0 text.toList) with p | _ | ⟨tokens, _ | ⟨q, rest⟩⟩
  · exact ⟨0, rfl⟩
  · exact ⟨0, rfl⟩
  · exact ⟨0, rfl⟩
  · dsimp only
    cases hrest : rest.dropWhile Lexeme.isNewline with
    | nil =>
      rw [(statements_eq_nil_iff rest).2 hrest]
      exact ⟨0, rfl⟩
    | cons extra more =>
      -- What follows is not only newlines, so it has a statement or a literal that is not closed.
      refine ⟨extra.position, ?_⟩
      rcases hfound : statements rest with ⟨others, _ | p⟩
      · cases others with
        | nil =>
          rw [(statements_eq_nil_iff rest).1 hfound] at hrest
          cases hrest
        | cons second others => rfl
      · rfl

/-- More than one statement is refused, as unbalanced or because of what follows the first one. -/
theorem soleStatement_of_more {found : List (List Token) × Option Nat}
    (h : 2 ≤ found.1.length ∨ found.1 ≠ [] ∧ found.2 ≠ none) (text : String) (extra : Int) :
    ∃ error, soleStatement text extra found = .error error ∧
      (error.kind = .unexpectedToken ∨ error.kind = .unbalancedParentheses) := by
  obtain ⟨all, _ | p⟩ := found
  · obtain ⟨first, second, others, rfl⟩ :
        ∃ first second others, all = first :: second :: others := by
      rcases all with _ | ⟨first, _ | ⟨second, others⟩⟩
      · simp at h
      · simp at h
      · exact ⟨first, second, others, rfl⟩
    rw [soleStatement, checkBalance]
    · rcases hbal : imbalance [] (first :: second :: others).flatten with _ | ⟨defect, q⟩
      · exact ⟨_, rfl, .inl rfl⟩
      · exact ⟨_, rfl, .inr (kind_of_imbalance hbal)⟩
    · simp
    · simp
  · exact ⟨_, rfl, .inr rfl⟩

/-! ### Trees -/

section Trees

variable {text : String} {limits : Limits}

/-- A text that is too long has no statements but an error. -/
theorem textStatements_tooLong {maximum : Int} (h : maximum < text.length) :
    ∃ error, textStatements text maximum = ([], some error) ∧
      checkLength text maximum = .error error ∧ error.kind = .inputTooLong := by
  rw [textStatements, checkLength, if_pos h]
  exact ⟨_, rfl, rfl, rfl⟩

theorem textStatements_within {maximum : Int} (h : text.length ≤ maximum) :
    textStatements text maximum =
      ((statements (Lexeme.cut 0 text.toList)).1,
        (statements (Lexeme.cut 0 text.toList)).2.map
          fun p => .pointing text .unclosedLiteral p) := by
  rw [textStatements, (checkLength_eq_ok_iff text maximum).2 h]
  rcases statements (Lexeme.cut 0 text.toList) with ⟨found, _ | p⟩ <;> rfl

/-- A line is parsed by the only one of its statements. -/
theorem parse_eq_sole (h : text.length ≤ limits.maxLength) :
    ∃ extra, parse text limits =
      (soleStatement text extra (statements (Lexeme.cut 0 text.toList))).bind
        (build · limits.maxDepth text) := by
  have hlen : (text.length : Int) ≤ limits.maxLength := Int.ofNat_le.2 h
  obtain ⟨extra, hsole⟩ := tokenize_eq_sole hlen
  refine ⟨extra, ?_⟩
  rw [parse, hsole]
  rfl

/-- A text whose statements are found to the end is within the limit. -/
theorem within_of_found {maximum : Int} {found : List (List Token)}
    (h : textStatements text maximum = (found, none)) :
    text.length ≤ maximum ∧ statements (Lexeme.cut 0 text.toList) = (found, none) := by
  rcases Int.lt_or_le maximum text.length with hlong | hlen
  · obtain ⟨error, htoo, -⟩ := textStatements_tooLong hlong
    rw [htoo] at h
    cases h
  · rw [textStatements_within hlen] at h
    obtain ⟨hfound, hnone⟩ := Prod.mk.inj h
    exact ⟨hlen, Prod.ext hfound (Option.map_eq_none_iff.1 hnone)⟩

/-- **One statement.** A line of one statement is parsed to the tree that a script of it is parsed
to, or both have the same error. -/
theorem trees_of_sole {tokens : List Token}
    (h : textStatements text limits.maxLength = ([tokens], none)) :
    (Input.line text).trees limits = (Input.script text).trees limits := by
  obtain ⟨hlen, hfound⟩ := within_of_found h
  obtain ⟨extra, hparse⟩ := parse_eq_sole (Int.ofNat_le.1 hlen)
  rw [hfound, soleStatement] at hparse
  have hscript : parseScript text limits =
      (build tokens limits.maxDepth text).map fun call => [call] := by
    simp only [parseScript, h, buildAll]
    cases build tokens limits.maxDepth text <;> rfl
  rw [Input.trees, Input.trees, hscript, hparse]
  rfl

/-- **No statement.** A line has an error, a script has no trees. -/
theorem trees_of_none (h : textStatements text limits.maxLength = ([], none)) :
    (∃ error, parse text limits = .error error ∧ error.kind = .emptyCommand) ∧
      parseScript text limits = .ok [] := by
  obtain ⟨hlen, hfound⟩ := within_of_found h
  obtain ⟨extra, hparse⟩ := parse_eq_sole (Int.ofNat_le.1 hlen)
  rw [hfound, soleStatement] at hparse
  refine ⟨⟨_, hparse, rfl⟩, ?_⟩
  simp only [parseScript, h, buildAll]

/-- **More statements.** A line of them is refused. -/
theorem parse_of_more
    (h : 2 ≤ (textStatements text limits.maxLength).1.length ∨
      (textStatements text limits.maxLength).1 ≠ [] ∧
        (textStatements text limits.maxLength).2 ≠ none) :
    ∃ error, parse text limits = .error error ∧
      (error.kind = .unexpectedToken ∨ error.kind = .unbalancedParentheses) := by
  rcases Nat.lt_or_ge limits.maxLength text.length with hlong | hlen
  · obtain ⟨error, htoo, -⟩ := textStatements_tooLong (Int.ofNat_lt.2 hlong)
    rw [htoo] at h
    simp at h
  · rw [textStatements_within (Int.ofNat_le.2 hlen)] at h
    have hmore := h.imp_right fun more => And.intro more.1 (mt Option.map_eq_none_iff.2 more.2)
    obtain ⟨extra, hparse⟩ := parse_eq_sole hlen
    obtain ⟨error, herror, hkind⟩ := soleStatement_of_more hmore text extra
    rw [herror] at hparse
    exact ⟨error, hparse, hkind⟩

/-- **No statement but an error.** It is the error of a line, and of a script. -/
theorem trees_of_refused {error : ParseError}
    (h : textStatements text limits.maxLength = ([], some error)) :
    parse text limits = .error error ∧ parseScript text limits = .error error := by
  constructor
  · rcases Nat.lt_or_ge limits.maxLength text.length with hlong | hlen
    · obtain ⟨error', htoo, hcheck, -⟩ := textStatements_tooLong (Int.ofNat_lt.2 hlong)
      rw [htoo] at h
      cases h
      rw [parse, tokenize, hcheck]
      rfl
    · rw [textStatements_within (Int.ofNat_le.2 hlen)] at h
      obtain ⟨extra, hparse⟩ := parse_eq_sole hlen
      rcases hfound : statements (Lexeme.cut 0 text.toList) with ⟨found, _ | p⟩
      · rw [hfound] at h
        cases h
      · rw [hfound] at h hparse
        obtain ⟨-, herror⟩ := Prod.mk.inj h
        rw [hparse, ← Option.some.inj herror]
        rfl
  · simp only [parseScript, h, buildAll]

/-- A text within the limit whose first statement is not closed has no statements but its error. -/
theorem textStatements_unclosed {maximum : Int} (hlen : text.length ≤ maximum) {error : ParseError}
    (h : ({ text } : Scanner).next.1 = .error error) :
    textStatements text maximum = ([], some error) := by
  rw [textStatements_within hlen, statements_eq_next]
  have hrest : ({ text } : Scanner).rest = text.toList := rfl
  rw [Scanner.next, hrest] at h
  dsimp only at h
  rcases hnext : nextStatement (Lexeme.cut 0 text.toList) with p | _ | ⟨tokens, _ | ⟨q, rest⟩⟩
  · rw [hnext] at h
    cases h
    rfl
  · rw [hnext] at h
    cases h
  · rw [hnext] at h
    cases h
  · rw [hnext] at h
    cases h

end Trees

/-! ### Evaluation -/

namespace World

/-- **Lines and scripts.** Take any text and an evaluator in any state, with any context. If the
text is exactly one statement, it has the same feedback and the same effect as a line and as a
script. If it has no statement, the line has an error and the script succeeds with nothing done. If
it has more, or an unclosed literal behind the first one, the line is refused as a whole, and no
handler runs. And if it is too long, or its first statement is not closed, both are refused with the
same error. -/
theorem evaluate_line_script (w : World Ctx) (ev : Nat) (e : Evaluator)
    (he : w.evaluators[ev]? = some e) (text : String) :
    let found := textStatements text e.limits.maxLength
    let line := w.evaluate ev (.line text)
    let script := w.evaluate ev (.script text)
    ((∃ tokens, found = ([tokens], none)) → line = script) ∧
      (found = ([], none) →
        (∃ error, line = w.refusal ev error ∧ error.kind = .emptyCommand) ∧
          script = (.ok "", w)) ∧
      (2 ≤ found.1.length ∨ found.1 ≠ [] ∧ found.2 ≠ none →
        ∃ error, line = w.refusal ev error ∧
          (error.kind = .unexpectedToken ∨ error.kind = .unbalancedParentheses)) ∧
      (e.limits.maxLength < text.length →
        ∃ error, line = w.refusal ev error ∧ script = w.refusal ev error ∧
          error.kind = .inputTooLong) ∧
      (text.length ≤ e.limits.maxLength →
        ∀ error, ({ text } : Scanner).next.1 = .error error →
          line = w.refusal ev error ∧ script = w.refusal ev error) := by
  intro found line script
  have hline : ∀ {error : ParseError}, parse text e.limits = .error error →
      line = w.refusal ev error := by
    intro error h
    refine evaluate_unparsed he ?_
    rw [Input.trees, h]
    rfl
  have hboth : ∀ {error : ParseError}, found = ([], some error) →
      line = w.refusal ev error ∧ script = w.refusal ev error := by
    intro error h
    obtain ⟨hparse, hscript⟩ := trees_of_refused h
    exact ⟨hline hparse, evaluate_unparsed he hscript⟩
  refine ⟨?_, fun h => ?_, fun h => ?_, fun hlong => ?_, fun hlen error hnext => ?_⟩
  · rintro ⟨tokens, hsole⟩
    show w.evaluate ev _ = w.evaluate ev _
    rw [evaluate_eq_each he, evaluate_eq_each he, trees_of_sole hsole]
  · obtain ⟨⟨error, hparse, hkind⟩, hscript⟩ := trees_of_none h
    refine ⟨⟨error, hline hparse, hkind⟩, ?_⟩
    show w.evaluate ev _ = _
    rw [evaluate_eq_each he, Input.trees, hscript]
    rfl
  · obtain ⟨error, hparse, hkind⟩ := parse_of_more h
    exact ⟨error, hline hparse, hkind⟩
  · obtain ⟨error, htoo, -, hkind⟩ := textStatements_tooLong (Int.ofNat_lt.2 hlong)
    exact ⟨error, (hboth htoo).1, (hboth htoo).2, hkind⟩
  · exact hboth (textStatements_unclosed (Int.ofNat_le.2 hlen) hnext)

/-- A call over two lines with blank lines behind it is the same as a line and as a script; with
another one behind it, it is no line. -/
theorem evaluate_line_script_noting :
    notingWorld.evaluators[0]? = some { limits := { maxDepth := 2 }, table := 0 } ∧
      (textStatements "note (note\na)\n\t\n" 10000).1.length = 1 ∧
      notingWorld.evaluate 0 (.line "note (note\na)\n\t\n") =
        notingWorld.evaluate 0 (.script "note (note\na)\n\t\n") ∧
      (notingWorld.evaluate 0 (.line "note (note\na)\n\t\n")).2.context = ["noted", "noted"] ∧
      ∃ error, notingWorld.evaluate 0 (.line "note a\n\nnote b") = notingWorld.refusal 0 error ∧
        (error.kind = .unexpectedToken ∨ error.kind = .unbalancedParentheses) := by
  have he : notingWorld.evaluators[0]? = some { limits := { maxDepth := 2 }, table := 0 } := rfl
  have hone : textStatements "note (note\na)\n\t\n" 10000 =
      ([[.word "note" 0, .opening 5, .word "note" 6, .word "a" 11, .closing 12]], none) := by
    decide +kernel
  have htwo : 2 ≤ (textStatements "note a\n\nnote b" 10000).1.length := by decide +kernel
  have hcontext : (notingWorld.evaluate 0 (.line "note (note\na)\n\t\n")).2.context =
      ["noted", "noted"] := by decide +kernel
  obtain ⟨hsame, -⟩ := evaluate_line_script notingWorld 0 _ he "note (note\na)\n\t\n"
  obtain ⟨-, -, hmore, -⟩ := evaluate_line_script notingWorld 0 _ he "note a\n\nnote b"
  exact ⟨he, congrArg (·.1.length) hone, hsame ⟨_, hone⟩, hcontext, hmore (.inl htwo)⟩

end World

end CommandShell
