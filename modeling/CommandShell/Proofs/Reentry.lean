import CommandShell.Evaluator.Evaluate

/-!
# Nested evaluations

A handler may have evaluators evaluate inputs, and the handlers of those inputs may do so again.
What bounds the nesting is the depth that the evaluators have left: while a handler runs, its
evaluator has less than before. So evaluation satisfies its own equation, in which handlers simply
evaluate, and no fuel is left in it.

Two ways to evaluate nested inputs *agree* on evaluators `es` if in every world of these they give
the same and leave the evaluators as they are.

* `run_agree`, `invoke_agree`, `evaluate_agree` — programs, handlers and arguments only depend on
  nested evaluations in worlds of the evaluators that they run with;
* `totalSlack_setRemaining_lt` — those have less slack than the evaluators outside the handler;
* `evaluateInput_agree` — so an input depends only on nested evaluations with less slack;
* `evaluateWithin_agree` — **fuel above the slack changes nothing**;
* `World.evaluate_eq` — evaluation is what one evaluation step makes of evaluation;
* `World.evaluate_tree_eq` — that step, for a tree that fits.
-/

namespace CommandShell

variable {Ctx : Type}

/-! ### Evaluators of a world -/

/-- The evaluators with another depth left for one of them. -/
def Evaluator.setRemaining (es : List Evaluator) (ev : Nat) (remaining : Option Int) :
    List Evaluator :=
  es.modify ev fun e => { e with remaining }

namespace World

@[simp] theorem record_evaluators (w : World Ctx) (e : Event) :
    (w.record e).evaluators = w.evaluators := rfl

@[simp] theorem recordAll_evaluators (w : World Ctx) (es : List Event) :
    (w.recordAll es).evaluators = w.evaluators := rfl

@[simp] theorem setRemaining_evaluators (w : World Ctx) (ev : Nat) (remaining : Option Int) :
    (w.setRemaining ev remaining).evaluators =
      Evaluator.setRemaining w.evaluators ev remaining := rfl

@[simp] theorem resolve_evaluators (w : World Ctx) (t : Nat) (name : String)
    (args : List String) : (w.resolve t name args).2.evaluators = w.evaluators := rfl

@[simp] theorem register_evaluators (w : World Ctx) (t : Nat) (r : Registration (Handler Ctx)) :
    (w.register t r).2.evaluators = w.evaluators := by
  unfold register
  split <;> rfl

end World

/-- Setting the depth that is left and setting it back changes nothing. -/
theorem Evaluator.setRemaining_restore (es : List Evaluator) (ev : Nat)
    (remaining : Option Int) :
    setRemaining (setRemaining es ev remaining) ev (es[ev]?.bind (·.remaining)) = es := by
  refine List.ext_getElem? fun i => ?_
  simp only [setRemaining, List.getElem?_modify]
  by_cases hi : ev = i
  · subst hi
    cases es[ev]? <;> simp
  · simp [hi]

/-! ### Agreement -/

/-- Two results are the same, and their world has these evaluators. -/
def SameOn {α : Type} (es : List Evaluator) (x y : α × World Ctx) : Prop :=
  x = y ∧ x.2.evaluators = es

/-- Two ways to evaluate nested inputs give the same in every world of these evaluators, and leave
the evaluators as they are. -/
def Agree (es : List Evaluator) (r r' : Reentry Ctx) : Prop :=
  ∀ ev input w, w.evaluators = es → SameOn es (r ev input w) (r' ev input w)

variable {es : List Evaluator} {r r' : Reentry Ctx}

/-- **Programs.** Nothing that a program does changes the evaluators, so all its nested evaluations
are in worlds of the evaluators it starts with. -/
theorem run_agree (h : Agree es r r') (t : Nat) (p : Program Ctx) :
    ∀ w : World Ctx, w.evaluators = es → SameOn es (p.run r t w) (p.run r' t w) := by
  induction p with
  | done text => exact fun w hw => ⟨rfl, hw⟩
  | fail failure => exact fun w hw => ⟨rfl, hw⟩
  | read next ih => exact fun w hw => ih w.context w hw
  | write context next ih => exact fun w hw => ih _ hw
  | consult next ih => exact fun w hw => ih _ w hw
  | lookup name args next ih => exact fun w hw => ih _ _ hw
  | choose number next ih =>
    intro w hw
    simp only [Program.run]
    cases w.evaluator? number with
    | none => exact ⟨rfl, hw⟩
    | some found => exact ih found.1 w hw
  | register ev name decider form body next _ ih =>
    intro w hw
    simp only [Program.run]
    cases w.evaluators[ev]? with
    | none => exact ⟨rfl, hw⟩
    | some e => exact ih _ _ ((w.register_evaluators _ _).trans hw)
  | evaluate ev input next ih =>
    intro w hw
    simp only [Program.run]
    cases w.evaluators[ev]? with
    | none => exact ⟨rfl, hw⟩
    | some e =>
      obtain ⟨heq, hkeep⟩ := h ev input w hw
      rw [← heq]
      exact ih _ _ hkeep
  | misread ev length =>
    intro w hw
    simp only [Program.run]
    cases w.evaluators[ev]? with
    | none => exact ⟨rfl, hw⟩
    | some e =>
      dsimp only
      split
      · exact ⟨rfl, hw⟩
      · exact ⟨rfl, hw⟩

/-- **Handlers.** A handler runs with less depth left for its evaluator, and gives it back. -/
theorem invoke_agree {ev level : Nat} {budget : Int}
    (h : Agree (Evaluator.setRemaining es ev (some (budget - level))) r r') (t : Nat)
    (entry : Entry (Handler Ctx)) (values : List Value) (w : World Ctx)
    (hw : w.evaluators = es) :
    SameOn es (invoke r ev t budget level entry values w)
      (invoke r' ev t budget level entry values w) := by
  subst hw
  obtain ⟨heq, hkeep⟩ := run_agree h t (entry.handler.run values)
    ((w.record (.invoked ev level entry.name values entry.handler.isBuiltin)).setRemaining ev
      (some (budget - level))) rfl
  refine ⟨?_, ?_⟩
  · simp only [invoke, heq]
  · simp only [invoke, World.setRemaining_evaluators, World.record_evaluators,
      World.recordAll_evaluators, hkeep]
    exact Evaluator.setRemaining_restore w.evaluators ev _

theorem perform_agree {ev level : Nat} {budget : Int}
    (h : Agree (Evaluator.setRemaining es ev (some (budget - level))) r r') (t : Nat)
    (name : String) (args : List String) (w : World Ctx) (hw : w.evaluators = es) :
    SameOn es (perform r ev t budget level name args w)
      (perform r' ev t budget level name args w) := by
  have hkeep := (w.resolve_evaluators t name args).trans hw
  unfold perform
  rcases hres : w.resolve t name args with ⟨_ | ⟨entry, values⟩, w'⟩
  · rw [hres] at hkeep
    exact ⟨rfl, hkeep⟩
  · rw [hres] at hkeep
    exact invoke_agree h t entry values w' hkeep

mutual

/-- **Arguments.** The guard on the depth that is left holds at every node that is invoked. -/
theorem evaluate_agree {ev : Nat} {budget : Int}
    (h : ∀ level : Nat, (level : Int) ≤ budget →
      Agree (Evaluator.setRemaining es ev (some (budget - level))) r r') (t level : Nat) :
    ∀ (arg : Arg) (w : World Ctx), w.evaluators = es →
      SameOn es (arg.evaluate r ev t budget level w) (arg.evaluate r' ev t budget level w)
  | .literal text, w, hw => ⟨rfl, hw⟩
  | .call name args, w, hw => by
    obtain ⟨heq, hkeep⟩ := evaluateAll_agree h t (level + 1) args w hw
    simp only [Arg.evaluate]
    split
    · exact ⟨rfl, hw⟩
    · rename_i hlevel
      rw [← heq]
      rcases hall : Arg.evaluateAll r ev t budget (level + 1) args w with ⟨_ | texts, w'⟩
      · rw [hall] at hkeep
        exact ⟨rfl, hkeep⟩
      · rw [hall] at hkeep
        exact perform_agree (h level (by omega)) t name texts w' hkeep

theorem evaluateAll_agree {ev : Nat} {budget : Int}
    (h : ∀ level : Nat, (level : Int) ≤ budget →
      Agree (Evaluator.setRemaining es ev (some (budget - level))) r r') (t level : Nat) :
    ∀ (args : List Arg) (w : World Ctx), w.evaluators = es →
      SameOn es (Arg.evaluateAll r ev t budget level args w)
        (Arg.evaluateAll r' ev t budget level args w)
  | [], w, hw => ⟨rfl, hw⟩
  | arg :: args, w, hw => by
    obtain ⟨heq, hkeep⟩ := evaluate_agree h t level arg w hw
    simp only [Arg.evaluateAll]
    rw [← heq]
    rcases harg : arg.evaluate r ev t budget level w with ⟨_ | text, w'⟩
    · rw [harg] at hkeep
      exact ⟨rfl, hkeep⟩
    · rw [harg] at hkeep
      obtain ⟨heq', hkeep'⟩ := evaluateAll_agree h t level args w' hkeep
      dsimp only
      rw [← heq']
      rcases hall : Arg.evaluateAll r ev t budget level args w' with ⟨_ | texts, w''⟩
      · rw [hall] at hkeep'
        exact ⟨rfl, hkeep'⟩
      · rw [hall] at hkeep'
        exact ⟨rfl, hkeep'⟩

end

/-! ### Slack -/

/-- **Less slack.** While a handler runs for a node within the budget, its evaluator can take fewer
nested evaluations than before. -/
theorem totalSlack_setRemaining_lt {ev : Nat} {e : Evaluator} {level : Nat}
    (hlevel : (level : Int) ≤ e.budget) : ∀ {es : List Evaluator}, es[ev]? = some e →
      Evaluator.totalSlack (Evaluator.setRemaining es ev (some (e.budget - level))) <
        Evaluator.totalSlack es := by
  intro es he
  induction es generalizing ev with
  | nil => simp at he
  | cons d es ih =>
    cases ev with
    | zero =>
      simp only [List.getElem?_cons_zero, Option.some.injEq] at he
      subst he
      have hslack : Evaluator.slack { d with remaining := some (d.budget - level) } < d.slack := by
        simp only [Evaluator.slack, Evaluator.budget] at hlevel ⊢
        omega
      show Evaluator.slack _ + Evaluator.totalSlack es < d.slack + Evaluator.totalSlack es
      exact Nat.add_lt_add_right hslack _
    | succ ev =>
      have hrest := ih he
      show d.slack + Evaluator.totalSlack _ < d.slack + Evaluator.totalSlack es
      exact Nat.add_lt_add_left hrest _

/-- **Trees.** A tree that does not fit runs nothing; one that fits has a budget that is not
negative, so its handlers run with less slack. -/
theorem evaluateTree_agree
    (h : ∀ es', Evaluator.totalSlack es' < Evaluator.totalSlack es → Agree es' r r')
    {ev : Nat} {e : Evaluator} (he : es[ev]? = some e) (call : Call) (w : World Ctx)
    (hw : w.evaluators = es) :
    SameOn es (evaluateTree r ev e call w) (evaluateTree r' ev e call w) := by
  have hagree : ∀ level : Nat, (level : Int) ≤ e.budget →
      Agree (Evaluator.setRemaining es ev (some (e.budget - level))) r r' :=
    fun level hlevel => h _ (totalSlack_setRemaining_lt hlevel he)
  obtain ⟨heq, hkeep⟩ := evaluate_agree hagree e.table 0 call.toArg
    (w.record (.attempted ev call.depth true)) hw
  simp only [evaluateTree]
  split
  · exact ⟨rfl, hw⟩
  · rw [← heq]
    rcases hrun : call.toArg.evaluate r ev e.table e.budget 0
      (w.record (.attempted ev call.depth true)) with ⟨_ | text, w'⟩
    · rw [hrun] at hkeep
      exact ⟨rfl, hkeep⟩
    · rw [hrun] at hkeep
      exact ⟨rfl, hkeep⟩

theorem evaluateTrees_agree
    (h : ∀ es', Evaluator.totalSlack es' < Evaluator.totalSlack es → Agree es' r r')
    {ev : Nat} {e : Evaluator} (he : es[ev]? = some e) (calls : List Call) :
    ∀ (last : Answer) (w : World Ctx), w.evaluators = es →
      SameOn es (evaluateTrees r ev e last calls w) (evaluateTrees r' ev e last calls w) := by
  induction calls with
  | nil => exact fun last w hw => ⟨rfl, hw⟩
  | cons call calls ih =>
    intro last w hw
    obtain ⟨heq, hkeep⟩ := evaluateTree_agree h he call w hw
    simp only [evaluateTrees]
    rw [← heq]
    split
    · exact ih _ _ hkeep
    · exact ⟨rfl, hkeep⟩

/-- **Inputs.** What an input does depends only on nested evaluations with less slack. -/
theorem evaluateInput_agree
    (h : ∀ es', Evaluator.totalSlack es' < Evaluator.totalSlack es → Agree es' r r') :
    Agree es (evaluateInput r) (evaluateInput r') := by
  intro ev input w hw
  simp only [evaluateInput]
  cases he : w.evaluators[ev]? with
  | none => exact ⟨rfl, hw⟩
  | some e =>
    rw [hw] at he
    cases input with
    | line text =>
      dsimp only
      cases parse text e.limits with
      | error error => exact ⟨rfl, hw⟩
      | ok call => exact evaluateTree_agree h he call w hw
    | script text =>
      dsimp only
      cases parseScript text e.limits with
      | error error => exact ⟨rfl, hw⟩
      | ok calls => exact evaluateTrees_agree h he calls _ w hw
    | tree call => exact evaluateTree_agree h he call w hw

/-! ### Evaluation without fuel -/

/-- **Fuel above the slack changes nothing.** -/
theorem evaluateWithin_agree (n : Nat) : ∀ (m : Nat) (es : List Evaluator),
    Evaluator.totalSlack es ≤ n → Evaluator.totalSlack es ≤ m →
      Agree es (evaluateWithin n : Reentry Ctx) (evaluateWithin m) := by
  induction n with
  | zero =>
    intro m es hn _
    cases m with
    | zero => exact evaluateInput_agree fun es' hlt => by omega
    | succ m => exact evaluateInput_agree fun es' hlt => by omega
  | succ n ih =>
    intro m es hn hm
    cases m with
    | zero => exact evaluateInput_agree fun es' hlt => by omega
    | succ m => exact evaluateInput_agree fun es' hlt => ih m es' (by omega) (by omega)

namespace World

/-- Evaluation, as handlers see it. -/
def evaluation : Reentry Ctx := fun ev input w => w.evaluate ev input

theorem evaluation_agree {n : Nat} (h : Evaluator.totalSlack es ≤ n) :
    Agree es (evaluateWithin n : Reentry Ctx) evaluation := by
  intro ev input w hw
  subst hw
  exact evaluateWithin_agree n w.slack w.evaluators h (Nat.le_refl _) ev input w rfl

/-- **Evaluation keeps the evaluators.** Whatever handlers do, every evaluator has as much depth
left afterwards as before. -/
theorem evaluate_evaluators (w : World Ctx) (ev : Nat) (input : Input) :
    (w.evaluate ev input).2.evaluators = w.evaluators :=
  (evaluateWithin_agree w.slack w.slack w.evaluators (Nat.le_refl _) (Nat.le_refl _)
    ev input w rfl).2

/-- **The equation of evaluation.** Evaluation is one step of evaluation whose handlers
evaluate. -/
theorem evaluate_eq (w : World Ctx) (ev : Nat) (input : Input) :
    w.evaluate ev input = evaluateInput evaluation ev input w := by
  have hmore := evaluateWithin_agree w.slack (w.slack + 1) w.evaluators (Nat.le_refl _)
    (Nat.le_succ _) ev input w rfl
  have hstep := evaluateInput_agree
    (fun es' hlt => evaluation_agree (n := w.slack) (Nat.le_of_lt hlt)) ev input w rfl
  exact hmore.1.trans hstep.1

/-- A tree within the budget of its evaluator is taken, and evaluated from the root on. -/
theorem evaluate_tree_eq {w : World Ctx} {ev : Nat} {e : Evaluator} {call : Call}
    (he : w.evaluators[ev]? = some e) (hfits : (call.depth : Int) ≤ e.budget) :
    w.evaluate ev (.tree call) =
      match call.toArg.evaluate evaluation ev e.table e.budget 0
        (w.record (.attempted ev call.depth true)) with
      | (.ok text, w') => (.ok text, w')
      | (.error abort, w') => (abort.answer, w') := by
  have haccept : ¬ (e.budget < 0 ∨ e.budget < call.depth) := by omega
  rw [evaluate_eq, evaluateInput, he]
  simp only [evaluateTree]
  exact (if_neg haccept).trans rfl

end World

end CommandShell
