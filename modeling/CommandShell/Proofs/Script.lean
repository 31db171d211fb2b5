import CommandShell.Proofs.Evaluation
import CommandShell.Proofs.StatementText

/-!
# Scripts

A script is evaluated as a whole: all its statements are parsed before any of them runs. So it has
one error, that of the first statement that does not parse, and then nothing runs; or it runs like
its statements, evaluated one after the other.

* `evaluateEach_line_eq` — calls that were parsed before are evaluated as lines that are parsed one
  by one;
* `evaluate_script_statementwise` — **a script is its statements one by one, or nothing at all**.
-/

namespace CommandShell

namespace World

variable {Ctx : Type}

/-- A line that parses is evaluated as its call. -/
theorem evaluate_line_eq {w : World Ctx} {ev : Nat} {e : Evaluator} {text : String} {call : Call}
    (he : w.evaluators[ev]? = some e) (h : parse text e.limits = .ok call) :
    w.evaluate ev (.line text) = w.evaluate ev (.tree call) := by
  rw [evaluate_eq_each he, evaluate_eq_each he, Input.trees, h]
  rfl

theorem evaluateEach_line_eq {w : World Ctx} {ev : Nat} {e : Evaluator} {segments : List Segment}
    {calls : List Call} (he : w.evaluators[ev]? = some e)
    (h : List.Forall₂ (fun segment call => parse segment.text e.limits = .ok call) segments calls)
    (last : Answer) :
    evaluateEach ev last (calls.map .tree) w =
      evaluateEach ev last ((segments.map (·.text)).map .line) w := by
  induction h generalizing w last with
  | nil => rfl
  | @cons segment call segments calls hparse _ ih =>
    have he' : (w.evaluate ev (.tree call)).2.evaluators[ev]? = some e := by
      rw [evaluate_evaluators, he]
    simp only [List.map_cons, evaluateEach]
    rw [evaluate_line_eq he hparse]
    split
    · exact ih he' _
    · rfl

/-- **Scripts run statement by statement, or not at all.** Take a script within the limit of length.
If some statement of it does not parse, the feedback is the error of the first such statement, at
its place in the script, and nothing else happens: no handler runs, and the context and the tables
stay. If all parse, they are the statements that a framer hands on from the script, with what it
still holds at the end unless that is blank, and the script is evaluated as these lines are, one
after the other up to the first that does not succeed. -/
theorem evaluate_script_statementwise (w : World Ctx) (ev : Nat) (e : Evaluator) (text : String)
    (he : w.evaluators[ev]? = some e) (hlen : text.length ≤ e.limits.maxLength) :
    ((∃ segment ∈ textSegments text, ¬ segment.Parses e.limits) →
      ∃ front segment rest error, textSegments text = front ++ segment :: rest ∧
        (∀ earlier ∈ front, earlier.Parses e.limits) ∧
        parse segment.text e.limits = .error error ∧
        w.evaluate ev (.script text) =
          (.ofError (.parse (error.relocate text segment.start)),
            w.record (.unparsed ev (error.relocate text segment.start)))) ∧
    ((∀ segment ∈ textSegments text, segment.Parses e.limits) →
      ∀ maximum : Int, (text.length : Int) ≤ maximum →
        ∃ lines : List String, (({ maximum } : Framer).feed text).2 = lines.map .statement ∧
          let statements :=
            lines ++ [(({ maximum } : Framer).feed text).1.pending].filter (!Text.allBlank ·)
          (textSegments text).map (·.text) = statements ∧
          w.evaluate ev (.script text) =
            evaluateEach ev (.ok "") (statements.map .line) w) := by
  have hscript := evaluate_eq_each he (.script text)
  rw [Input.trees, parseScript_eq_segments hlen] at hscript
  constructor
  · intro hfails
    obtain ⟨front, segment, rest, error, hsegments, hfront, herror⟩ := exists_first_unparsed hfails
    refine ⟨front, segment, rest, error, hsegments, hfront, herror, ?_⟩
    rw [hscript, hsegments, parseSegments_of_error hfront herror]
  · intro hparses maximum hmaximum
    obtain ⟨lines, hframes, hlines⟩ := framed_textSegments hlen hmaximum hparses
    obtain ⟨calls, hcalls, hall⟩ := parseSegments_of_parses text hparses
    refine ⟨lines, hframes, hlines, ?_⟩
    rw [hscript, hcalls, ← hlines]
    exact evaluateEach_line_eq he hall (.ok "")

/-- Statements that span lines, a blank line, and a command that an earlier statement registers. -/
def growingScript : String := "grow\nnote (note\nx) (#a\n(b))\n \nfresh"

/-- The script above runs as its three statements do; with a parenthesis that stays open in the
last one, it runs nothing. -/
theorem evaluate_script_statementwise_growing :
    notingWorld.evaluators[0]? = some { limits := { maxDepth := 2 }, table := 0 } ∧
      growingScript.length ≤ 10000 ∧
      notingWorld.evaluate 0 (.script growingScript) =
        evaluateEach 0 (.ok "") [.line "grow", .line "note (note\nx) (#a\n(b))", .line "fresh"]
          notingWorld ∧
      ∃ error, parse "fresh (" { maxDepth := 2 } = .error error ∧
        notingWorld.evaluate 0 (.script "grow\nfresh (") =
          (.ofError (.parse (error.relocate "grow\nfresh (" 5)),
            notingWorld.record (.unparsed 0 (error.relocate "grow\nfresh (" 5))) := by
  have he : notingWorld.evaluators[0]? = some { limits := { maxDepth := 2 }, table := 0 } := rfl
  have hlen : growingScript.length ≤ 10000 := by decide
  obtain ⟨-, hruns⟩ := evaluate_script_statementwise notingWorld 0 _ growingScript he hlen
  obtain ⟨lines, -, hlines, hscript⟩ := hruns (by decide +kernel) 10000 (by decide)
  have hsegments : (textSegments growingScript).map (·.text) =
      ["grow", "note (note\nx) (#a\n(b))", "fresh"] := by decide +kernel
  rw [← hlines, hsegments] at hscript
  obtain ⟨hfails, -⟩ := evaluate_script_statementwise notingWorld 0 _ "grow\nfresh (" he (by decide)
  obtain ⟨front, segment, rest, error, hsplit, hfront, herror, hrefused⟩ :=
    hfails (by decide +kernel)
  have htext : textSegments "grow\nfresh (" = [⟨0, "grow"⟩, ⟨5, "fresh ("⟩] := by decide +kernel
  rw [htext] at hsplit
  have hgrow : Segment.Parses { maxDepth := 2 } ⟨0, "grow"⟩ := by decide +kernel
  -- The first statement parses, so the second one is the first that does not.
  rcases front with _ | ⟨first, _ | ⟨second, front⟩⟩
  · cases hsplit
    obtain ⟨call, hcall⟩ := hgrow
    cases hcall.symm.trans herror
  · cases hsplit
    exact ⟨he, hlen, hscript, error, herror, hrefused⟩
  · simp at hsplit

end World

end CommandShell
