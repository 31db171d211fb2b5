import CommandShell.Proofs.Record
import CommandShell.Proofs.Registry
import CommandShell.Proofs.Judgement

/-!
# Failures that have a text

Feedback on a failure is made of its text. A handler may fail in a way that has none, and so may a
decider, or it denies for a reason that is no text; then evaluation is answered by no feedback, but
raises what asking for the text has raised.

Handlers and deciders are *outspoken* if they never do so, whatever they are given, and if what the
handlers register is outspoken too. In a world of outspoken commands every evaluation is answered by
feedback, and it leaves such a world.

* `act_outspoken`, `run_outspoken` — actions and runs of programs;
* `step_outspoken`, `Machine.run_outspoken` — calls, and instructions in a row;
* `World.IsOutspoken.evaluate` — **outspoken commands are answered by feedback**.
-/

namespace CommandShell

variable {Ctx : Type}

/-! ### Outspoken commands -/

/-- A failure that is reported without another failure. -/
def Failure.HasText : Failure → Prop
  | muteCommand _ => False
  | muteShell _ => False
  | muteFault _ => False
  | _ => True

/-- A decider with a text for all that it decides. -/
def Decider.IsOutspoken (d : Decider) : Prop := ∀ args, (d.decide args).HasText

/-- A program that fails with a text and registers outspoken commands only, provided that the calls
that it looks up, and the inputs that it has evaluated, come to no failures without a text. -/
def Program.IsOutspoken : Program Ctx → Prop
  | done _ => True
  | fail failure => failure.HasText
  | read next => ∀ context, (next context).IsOutspoken
  | write _ next => next.IsOutspoken
  | consult next => ∀ table, (next table).IsOutspoken
  | lookup _ _ next => (∀ signature, (next (.ok signature)).IsOutspoken) ∧
      ∀ e, (next (.error (.shell (.noMatch e)))).IsOutspoken
  | choose _ next => ∀ ev, (next ev).IsOutspoken
  | register _ _ decider _ body next => (∀ d, decider.toDecider = .ok d → d.IsOutspoken) ∧
      (∀ values, (body values).IsOutspoken) ∧ ∀ result, (next result).IsOutspoken
  | evaluate _ _ next => ∀ feedback, (next (.feedback feedback)).IsOutspoken
  | misread .. => True

theorem Program.outspoken_ofResult (result : Except Fault String) :
    (ofResult result : Program Ctx).IsOutspoken := by
  cases result <;> trivial

theorem GivenDecider.outspoken_nothing {d : Decider} (h : nothing.toDecider = .ok d) :
    d.IsOutspoken := by
  cases h
  intro args
  simp only [Signature.toDecider, Signature.decide, Signature.consumeParts]
  split <;> trivial

/-- A registration of a decider and a handler that are outspoken. -/
structure Registration.IsOutspoken (r : Registration (Handler Ctx)) : Prop where
  decider : ∀ d, r.decider.toDecider = .ok d → d.IsOutspoken
  handler : ∀ handler, r.handler = .handler handler → ∀ values, (handler.run values).IsOutspoken

/-- An entry whose decider and whose handler are outspoken. -/
structure Entry.IsOutspoken (e : Entry (Handler Ctx)) : Prop where
  decider : e.decider.IsOutspoken
  handler : ∀ values, (e.handler.run values).IsOutspoken

theorem Registration.IsOutspoken.entry {r : Registration (Handler Ctx)} (h : r.IsOutspoken)
    {e : Entry (Handler Ctx)} (hmakes : r.Makes e) : e.IsOutspoken :=
  ⟨h.decider _ hmakes.decider, h.handler _ hmakes.handler⟩

namespace World

/-- All entries of all tables are outspoken. -/
def IsOutspoken (w : World Ctx) : Prop := ∀ t, ∀ e ∈ (w.table t).entries, e.IsOutspoken

variable {w w' : World Ctx}

theorem IsOutspoken.of_tables (h : w.IsOutspoken) (htables : w'.tables = w.tables) :
    w'.IsOutspoken := by
  intro t e he
  rw [World.table, htables] at he
  exact h t e he

theorem IsOutspoken.register (h : w.IsOutspoken) (t : Nat) {r : Registration (Handler Ctx)}
    (hr : r.IsOutspoken) : (w.register t r).2.IsOutspoken := by
  intro t' e he
  rcases mem_table_register he with hold | hmakes
  · exact h t' e hold
  · exact hr.entry hmakes

/-- A call in an outspoken world is resolved to an outspoken entry, or it has an error. -/
theorem IsOutspoken.resolve (h : w.IsOutspoken) (t : Nat) (name : String) (args : List String) :
    (∃ e values, (w.resolve t name args).1 = .ok (e, values) ∧ e.IsOutspoken) ∨
      ∃ error, (w.resolve t name args).1 = .error (.noMatch error) := by
  rcases hres : (w.resolve t name args).1 with reason | ⟨e, values⟩
  · have htext : ∀ e ∈ (w.table t).entriesOf name, (e.decider.decide args).HasText :=
      fun e he => (h t e (List.mem_filter.1 he).1).decider args
    obtain ⟨error, rfl, -⟩ := Table.noMatch_of_resolve htext hres
    exact .inr ⟨error, rfl⟩
  · exact .inl ⟨e, values, rfl, h t e (Table.accept_of_resolve hres).1⟩

/-- Evaluations in outspoken worlds of these evaluators are answered by feedback, and leave the
world outspoken. -/
def SpeaksOn (Ctx : Type) (es : List Evaluator) : Prop :=
  ∀ v : World Ctx, v.evaluators = es → v.IsOutspoken → ∀ ev input,
    (∃ feedback, (v.evaluate ev input).1 = .feedback feedback) ∧
      (v.evaluate ev input).2.IsOutspoken

end World

open World

/-! ### Programs -/

namespace Program

variable {t : Nat}

/-- **Actions.** What is left of an outspoken program is outspoken, and so is the world. -/
theorem act_outspoken {p p' : Program Ctx} {w w' : World Ctx} (h : SpeaksOn Ctx w.evaluators)
    (hp : p.IsOutspoken) (hw : w.IsOutspoken) (hact : p.act t w = some (p', w')) :
    p'.IsOutspoken ∧ w'.IsOutspoken := by
  cases p with
  | done text => cases hact
  | fail failure => cases hact
  | read next =>
    cases hact
    exact ⟨hp w.context, hw⟩
  | write context next =>
    cases hact
    exact ⟨hp, hw.of_tables rfl⟩
  | consult next =>
    cases hact
    exact ⟨hp _, hw⟩
  | lookup name args next =>
    cases hact
    refine ⟨?_, hw.of_tables rfl⟩
    rcases hw.resolve t name args with ⟨e, values, hres, -⟩ | ⟨error, hres⟩
    · rw [hres]
      exact hp.1 _
    · rw [hres]
      exact hp.2 error
  | choose number next =>
    simp only [act] at hact
    split at hact <;> cases hact
    · exact ⟨trivial, hw⟩
    · exact ⟨hp _, hw⟩
  | register ev name decider form body next =>
    obtain ⟨hdecider, hbody, hnext⟩ := hp
    simp only [act] at hact
    split at hact <;> cases hact
    · exact ⟨trivial, hw⟩
    · refine ⟨hnext _, hw.register _ ⟨hdecider, fun handler hhandler values => ?_⟩⟩
      cases hhandler
      exact hbody values
  | evaluate ev input next =>
    simp only [act] at hact
    split at hact <;> cases hact
    · exact ⟨trivial, hw⟩
    · obtain ⟨⟨feedback, hfeedback⟩, hworld⟩ := h w rfl hw ev input
      rw [hfeedback]
      exact ⟨hp feedback, hworld⟩
  | misread ev length =>
    simp only [act] at hact
    split at hact
    · cases hact
      exact ⟨trivial, hw⟩
    · split at hact <;> cases hact
      · exact ⟨trivial, hw.of_tables rfl⟩
      · exact ⟨trivial, hw⟩

theorem Reaches.outspoken {a b : Program Ctx × World Ctx} (hreach : Reaches t a b)
    (h : SpeaksOn Ctx a.2.evaluators) (hp : a.1.IsOutspoken) (hw : a.2.IsOutspoken) :
    b.1.IsOutspoken ∧ b.2.IsOutspoken := by
  induction hreach with
  | refl => exact ⟨hp, hw⟩
  | tail hfront hact ih =>
    rw [← (continues_reaches hfront).evaluators] at h
    exact act_outspoken h ih.1 ih.2 hact

/-- **Runs.** An outspoken program fails with a text. -/
theorem run_outspoken {p : Program Ctx} {w : World Ctx} (h : SpeaksOn Ctx w.evaluators)
    (hp : p.IsOutspoken) (hw : w.IsOutspoken) :
    (∀ failure, (p.run evaluation t w).1 = .error failure → failure.HasText) ∧
      (p.run evaluation t w).2.IsOutspoken := by
  obtain ⟨p', hreach, hend⟩ := exists_reaches_end t p w
  obtain ⟨hp', hw'⟩ := hreach.outspoken h hp hw
  refine ⟨fun failure hfailure => ?_, hw'⟩
  rcases hend with ⟨text, -, hresult⟩ | ⟨failure', rfl, hresult⟩
  · rw [hresult] at hfailure
    cases hfailure
  · rw [hresult] at hfailure
    cases hfailure
    exact hp'

end Program

/-! ### Instructions -/

/-- A run stops for a call without a match, or for a failure with a text. -/
def Halt.HasText : Halt → Prop
  | unresolved (.noMatch _) => True
  | unresolved (.raised _) => False
  | raised failure => failure.HasText

theorem Halt.HasText.answer {halt : Halt} (h : halt.HasText) :
    ∃ feedback, halt.answer = .feedback feedback := by
  rcases halt with (error | cause) | failure
  · exact ⟨_, rfl⟩
  · exact h.elim
  · cases failure with
    | command message => exact ⟨_, rfl⟩
    | shell e => exact ⟨_, rfl⟩
    | help text => exact ⟨_, rfl⟩
    | fault f => exact ⟨_, rfl⟩
    | muteCommand cause => exact h.elim
    | muteShell cause => exact h.elim
    | muteFault cause => exact h.elim

namespace Machine

variable {ev : Nat} {e : Evaluator} {w : World Ctx}

/-- **Handlers.** -/
theorem handle_outspoken {entry : Entry (Handler Ctx)} (level : Nat) (values : List Value)
    (h : SpeaksOn Ctx (Evaluator.setRemaining w.evaluators ev (some (e.budget - level))))
    (hentry : entry.IsOutspoken) (hw : w.IsOutspoken) :
    (∀ failure, ((machine ev e).handle level entry values w).1 = .error failure →
        failure.HasText) ∧
      ((machine ev e).handle level entry values w).2.IsOutspoken := by
  have hstart : ((machine ev e).started level entry values w).IsOutspoken := hw.of_tables rfl
  obtain ⟨hfailure, hended⟩ := Program.run_outspoken (t := e.table)
    (w := (machine ev e).started level entry values w) h (hentry.handler values) hstart
  rw [handle_eq]
  exact ⟨hfailure, hended.of_tables rfl⟩

/-- **Calls.** -/
theorem step_outspoken (i : Instruction) (stack : List String)
    (h : ∀ path name arity, i = .call path name arity →
      SpeaksOn Ctx (Evaluator.setRemaining w.evaluators ev (some (e.budget - path.length))))
    (hw : w.IsOutspoken) :
    (∀ halt, ((machine ev e).step i stack w).1 = .error halt → halt.HasText) ∧
      ((machine ev e).step i stack w).2.IsOutspoken := by
  cases i with
  | push text =>
    refine ⟨fun halt hhalt => ?_, hw⟩
    cases hhalt
  | call path name arity =>
    have hspeaks := h path name arity rfl
    have hkeep := w.resolve_evaluators e.table name (stack.take arity).reverse
    have hresolved : (w.resolve e.table name (stack.take arity).reverse).2.IsOutspoken :=
      hw.of_tables rfl
    have hresult := hw.resolve e.table name (stack.take arity).reverse
    simp only [step]
    have htable : (machine ev e : Machine Ctx).table = e.table := rfl
    rw [htable]
    generalize w.resolve e.table name (stack.take arity).reverse = resolved at *
    obtain ⟨result, w₁⟩ := resolved
    dsimp only at hkeep hresolved hresult
    rcases hresult with ⟨entry, values, rfl, hentry⟩ | ⟨error, rfl⟩
    · rw [← hkeep] at hspeaks
      obtain ⟨hfailure, hended⟩ :=
        handle_outspoken path.length values hspeaks hentry hresolved
      dsimp only
      rcases hrun : (machine ev e).handle path.length entry values w₁ with ⟨failure | text, w₂⟩
      · rw [hrun] at hfailure hended
        refine ⟨fun halt hhalt => ?_, hended⟩
        cases hhalt
        exact hfailure failure rfl
      · rw [hrun] at hended
        refine ⟨fun halt hhalt => ?_, hended⟩
        cases hhalt
    · refine ⟨fun halt hhalt => ?_, hresolved⟩
      cases hhalt
      trivial

/-- **Instructions.** -/
theorem run_outspoken (he : w.evaluators[ev]? = some e) (code : List Instruction)
    (stack : List String)
    (h : ∀ path name arity, .call path name arity ∈ code →
      SpeaksOn Ctx (Evaluator.setRemaining w.evaluators ev (some (e.budget - path.length))))
    (hw : w.IsOutspoken) :
    (∃ feedback, Machine.answer ((machine ev e).run code stack w).1 = .feedback feedback) ∧
      ((machine ev e).run code stack w).2.IsOutspoken := by
  induction code generalizing stack w with
  | nil => exact ⟨⟨_, rfl⟩, hw⟩
  | cons i code ih =>
    have hkeep := (continues_machine he [i] stack).evaluators
    rw [run_singleton] at hkeep
    obtain ⟨hhalt, hw'⟩ := step_outspoken (e := e) i stack
      (fun path name arity hi => h path name arity (hi ▸ List.mem_cons_self)) hw
    rw [run]
    rcases hstep : (machine ev e).step i stack w with ⟨halt | stack', w'⟩
    · rw [hstep] at hhalt hw'
      exact ⟨(hhalt halt rfl).answer, hw'⟩
    · rw [hstep] at hkeep hw'
      dsimp only at hkeep hw'
      rw [← hkeep] at he h
      exact ih he stack' (fun path name arity hmem =>
        h path name arity (List.mem_cons_of_mem i hmem)) hw'

end Machine

/-! ### Evaluation -/

namespace World

theorem evaluate_tree_outspoken {w : World Ctx} {ev : Nat} {e : Evaluator}
    (h : ∀ es, Evaluator.totalSlack es < Evaluator.totalSlack w.evaluators → SpeaksOn Ctx es)
    (he : w.evaluators[ev]? = some e) (hw : w.IsOutspoken) (call : Call) :
    (∃ feedback, (w.evaluate ev (.tree call)).1 = .feedback feedback) ∧
      (w.evaluate ev (.tree call)).2.IsOutspoken := by
  by_cases hfits : (call.depth : Int) ≤ e.budget
  · rw [evaluate_tree_accepted he hfits]
    refine Machine.run_outspoken (w := w.record (.attempted ev call.depth true)) he call.postOrder
      [] (fun path name arity hmem => ?_) (hw.of_tables rfl)
    have hlevel := Call.level_le_depth hmem
    exact h _ (totalSlack_setRemaining_lt (by omega) he)
  · rw [evaluate_tree_refused he (by omega)]
    exact ⟨⟨_, rfl⟩, hw.of_tables rfl⟩

theorem evaluateEach_outspoken {ev : Nat} {calls : List Call} {w : World Ctx} {last : Answer}
    (hlast : ∃ feedback, last = .feedback feedback) (hw : w.IsOutspoken)
    (h : ∀ (v : World Ctx) (call : Call), v.evaluators = w.evaluators → v.IsOutspoken →
      (∃ feedback, (v.evaluate ev (.tree call)).1 = .feedback feedback) ∧
        (v.evaluate ev (.tree call)).2.IsOutspoken) :
    (∃ feedback, (evaluateEach ev last (calls.map .tree) w).1 = .feedback feedback) ∧
      (evaluateEach ev last (calls.map .tree) w).2.IsOutspoken := by
  induction calls generalizing w last with
  | nil => exact ⟨hlast, hw⟩
  | cons call calls ih =>
    obtain ⟨hfeedback, hw'⟩ := h w call rfl hw
    rw [List.map_cons, evaluateEach]
    split
    · refine ih hfeedback hw' fun v call hv => h v call ?_
      rw [hv, evaluate_evaluators]
    · exact ⟨hfeedback, hw'⟩

/-- The induction over nested evaluations is on the slack of the evaluators. -/
theorem speaksOn (es : List Evaluator) : SpeaksOn Ctx es := by
  induction hn : Evaluator.totalSlack es using Nat.strongRecOn generalizing es with
  | ind n ih =>
    intro w hw hspoken ev input
    have hless : ∀ es', Evaluator.totalSlack es' < Evaluator.totalSlack w.evaluators →
        SpeaksOn Ctx es' := fun es' hlt => ih _ (by rw [← hn, ← hw]; exact hlt) es' rfl
    cases he : w.evaluators[ev]? with
    | none =>
      rw [evaluate_none he]
      exact ⟨⟨_, rfl⟩, hspoken⟩
    | some e =>
      rw [evaluate_eq_each he]
      cases input.trees e.limits with
      | error error => exact ⟨⟨_, rfl⟩, hspoken.of_tables rfl⟩
      | ok calls =>
        refine evaluateEach_outspoken ⟨_, rfl⟩ hspoken fun v call hv hv' => ?_
        rw [← hv] at hless he
        exact evaluate_tree_outspoken hless he hv' call

/-- **Outspoken commands are answered by feedback**, whatever the input is, and what they leave is
outspoken. -/
theorem IsOutspoken.evaluate {w : World Ctx} (h : w.IsOutspoken) (ev : Nat) (input : Input) :
    (∃ feedback, (w.evaluate ev input).1 = .feedback feedback) ∧
      (w.evaluate ev input).2.IsOutspoken :=
  speaksOn w.evaluators w rfl h ev input

end World

end CommandShell
