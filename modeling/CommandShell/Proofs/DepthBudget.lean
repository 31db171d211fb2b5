import CommandShell.Evaluator.Builtin
import CommandShell.Proofs.Record
import Mathlib.Algebra.BigOperators.Group.List.Basic

/-!
# The depth budget

While a handler runs, its evaluator has less depth left, and what the handler has evaluated counts
against it. How much less is told exactly by the handlers that are running: one for a node at level
`k` of its tree takes `k + 1`.

A *moment* of an evaluation is a point of its run at which a tree is taken up, or at which some
handler stands between two of its actions. With every moment go the handlers that run at it, the
innermost first, each started by an evaluation of the one around it.

* `Starts.spent`, `Moment.spent` — what the evaluators have left at a moment;
* `refuses_iff` — a tree is refused exactly if it is deeper than what is left;
* `depth_budget_exact` — **at every moment, a tree is refused exactly if its depth and what the
  running handlers of the evaluator take exceed the limit**, and so was every tree of the record; a
  tree that is accepted meets no node without depth left, and the nesting is bounded.
-/

namespace CommandShell

variable {Ctx : Type}

open World

/-! ### Moments -/

/-- An evaluator that evaluates an input in the first world comes to one of its trees in the second
one: the input was read, and the trees before this one have succeeded. -/
inductive TakesUp (w : World Ctx) (ev : Nat) (input : Input) : Call → World Ctx → Prop
  | intro {e : Evaluator} {front rest : List Call} {call : Call} {answer : Answer}
      {w' : World Ctx} :
      w.evaluators[ev]? = some e → input.trees e.limits = .ok (front ++ call :: rest) →
      evaluateEach ev (.ok "") (front.map .tree) w = (answer, w') → answer.isOk = true →
      TakesUp w ev input call w'

/-- An evaluator that takes up a tree in the first world accepts it and comes, in the second one,
to the start of a handler: what is before its node is done, and its call was resolved. With it go
the table and the program of the handler. -/
inductive Starts (w : World Ctx) (ev : Nat) (call : Call) :
    Invocation → Nat → Program Ctx → World Ctx → Prop
  | intro {e : Evaluator} {front rest : List Instruction} {path : List Nat} {name : String}
      {arity : Nat} {stack : List String} {w₁ w₂ : World Ctx} {entry : Entry (Handler Ctx)}
      {values : List Value} :
      w.evaluators[ev]? = some e → (call.depth : Int) ≤ e.budget →
      call.postOrder = front ++ .call path name arity :: rest →
      (machine ev e).run front [] (w.record (.attempted ev call.depth true)) = (.ok stack, w₁) →
      w₁.resolve e.table name (stack.take arity).reverse = (.ok (entry, values), w₂) →
      Starts w ev call ⟨ev, path.length⟩ e.table (entry.handler.run values)
        ((machine ev e).started path.length entry values w₂)

/-- While an evaluator evaluates an input, a handler of one of its trees has come to what is left
of its program. -/
inductive Runs (w : World Ctx) (ev : Nat) (input : Input) :
    Invocation → Program Ctx → World Ctx → Prop
  | intro {call : Call} {invocation : Invocation} {t : Nat} {p p' : Program Ctx}
      {w₁ w₂ w₃ : World Ctx} :
      TakesUp w ev input call w₁ → Starts w₁ ev call invocation t p w₂ →
      Program.Reaches t (p, w₂) (p', w₃) → Runs w ev input invocation p' w₃

/-- The moments of an evaluation, with the handlers that are running, the innermost first. -/
inductive Moment : World Ctx → Nat → Input → List Invocation → World Ctx → Prop
  /-- A tree is taken up. -/
  | taking {w w' : World Ctx} {ev : Nat} {input : Input} {call : Call} :
      TakesUp w ev input call w' → Moment w ev input [] w'
  /-- A handler stands between two of its actions. -/
  | acting {w w' : World Ctx} {ev : Nat} {input : Input} {invocation : Invocation}
      {p : Program Ctx} : Runs w ev input invocation p w' → Moment w ev input [invocation] w'
  /-- A handler has an input evaluated, and that evaluation is at one of its moments. -/
  | nested {w w₁ w₂ : World Ctx} {ev ev' : Nat} {input input' : Input} {invocation : Invocation}
      {next : Answer → Program Ctx} {running : List Invocation} :
      Runs w ev input invocation (.evaluate ev' input' next) w₁ →
      Moment w₁ ev' input' running w₂ → Moment w ev input (running ++ [invocation]) w₂

/-! ### What running handlers take -/

/-- Every running handler takes at least one. -/
theorem length_filter_le_depthTaken (ev : Nat) (running : List Invocation) :
    (running.filter (·.evaluator = ev)).length ≤ depthTaken ev running := by
  rw [depthTaken]
  generalize running.filter (·.evaluator = ev) = own
  induction own with
  | nil => exact Nat.le_refl 0
  | cons invocation own ih =>
    rw [List.length_cons, List.map_cons, List.sum_cons]
    omega

/-- The second world is the first one with handlers running in it: they have started and not
returned, each evaluator has what it had less what its handlers take, and each handler has cost
some slack. -/
structure Spent (w w' : World Ctx) (running : List Invocation) : Prop where
  events : ∃ es, w'.events.toList = w.events.toList ++ es ∧
    ∀ outer, es.foldl Event.follow outer = running ++ outer
  budget : ∀ (ev : Nat) (e' : Evaluator), w'.evaluators[ev]? = some e' →
    ∃ e : Evaluator, w.evaluators[ev]? = some e ∧ e'.limits = e.limits ∧
      e'.budget = e.budget - depthTaken ev running ∧ (-1 ≤ e.budget → -1 ≤ e'.budget)
  slack : w'.slack + running.length ≤ w.slack

namespace Spent

variable {w w' w'' : World Ctx} {running outer : List Invocation}

theorem of_continues (h : w.Continues w') : Spent w w' [] := by
  obtain ⟨es, hes, horderly⟩ := h.events
  refine ⟨⟨es, hes, horderly.settled⟩, fun ev e he => ⟨e, ?_, rfl, ?_, id⟩, ?_⟩
  · rw [← h.evaluators]
    exact he
  · simp [depthTaken]
  · rw [World.slack, World.slack, h.evaluators]
    exact Nat.le_refl _

theorem trans (h : Spent w w' outer) (h' : Spent w' w'' running) :
    Spent w w'' (running ++ outer) := by
  obtain ⟨es, hes, hfollow⟩ := h.events
  obtain ⟨fs, hfs, hfollow'⟩ := h'.events
  refine ⟨⟨es ++ fs, ?_, fun rest => ?_⟩, fun ev e'' he'' => ?_, ?_⟩
  · rw [hfs, hes, List.append_assoc]
  · rw [List.foldl_append, hfollow, hfollow', List.append_assoc]
  · obtain ⟨e', he', hlimits', hbudget', hleft'⟩ := h'.budget ev e'' he''
    obtain ⟨e, he, hlimits, hbudget, hleft⟩ := h.budget ev e' he'
    refine ⟨e, he, hlimits'.trans hlimits, ?_, fun h => hleft' (hleft h)⟩
    rw [hbudget', hbudget, depthTaken_append]
    omega
  · have hless := h.slack
    have hless' := h'.slack
    rw [List.length_append]
    omega

end Spent

/-- **One handler.** A handler that starts for a node at level `k` takes `k + 1` from what its
evaluator has left, and nothing from the others. -/
theorem spent_started {w : World Ctx} {ev level : Nat} {e : Evaluator}
    (he : w.evaluators[ev]? = some e) (hlevel : (level : Int) ≤ e.budget)
    (entry : Entry (Handler Ctx)) (values : List Value) :
    Spent w ((machine ev e).started level entry values w) [⟨ev, level⟩] := by
  refine ⟨⟨[.invoked ev level entry.name values entry.handler.isBuiltin], ?_, fun _ => rfl⟩,
    fun i e' he' => ?_, ?_⟩
  · simp [Machine.started, machine]
  · obtain ⟨e₀, he₀, hlimits, hbudget⟩ := budget_of_setRemaining he he'
    refine ⟨e₀, he₀, hlimits, ?_, fun hleft => ?_⟩
    · rw [hbudget, depthTaken_singleton]
    · rw [hbudget]
      split
      · rename_i hev
        rw [← hev, he] at he₀
        cases he₀
        omega
      · omega
  · have hless := totalSlack_setRemaining_lt hlevel he
    rw [List.length_singleton]
    exact hless

theorem TakesUp.continues {w w' : World Ctx} {ev : Nat} {input : Input} {call : Call}
    (h : TakesUp w ev input call w') : w.Continues w' := by
  obtain @⟨e, front, rest, call, answer, w', -, -, heach, -⟩ := h
  have hcontinues := w.continues_each ev (.ok "") (front.map .tree)
  rw [heach] at hcontinues
  exact hcontinues

theorem Starts.spent {w w' : World Ctx} {ev : Nat} {call : Call} {invocation : Invocation} {t : Nat}
    {p : Program Ctx} (h : Starts w ev call invocation t p w') : Spent w w' [invocation] := by
  obtain @⟨e, front, rest, path, name, arity, stack, w₁, w₂, entry, values, he, hfits, hcode, hrun,
    hresolve⟩ := h
  have hmem : .call path name arity ∈ call.postOrder := by
    rw [hcode]
    exact List.mem_append_right _ List.mem_cons_self
  have hlevel := Call.level_le_depth hmem
  -- What comes before the start leaves the evaluators alone, and no handler running.
  have hbefore : w.Continues w₂ := by
    have hattempt : w.Continues (w.record (.attempted ev call.depth true)) :=
      continues_attempt he (iff_of_true rfl hfits)
    have hfront := continues_machine (w := w.record (.attempted ev call.depth true)) he front []
    have hfound := w₁.continues_resolve e.table name (stack.take arity).reverse
    rw [hrun] at hfront
    rw [hresolve] at hfound
    exact hattempt.trans (hfront.trans hfound)
  have he₂ : w₂.evaluators[ev]? = some e := by rw [hbefore.evaluators, he]
  have hroom : (path.length : Int) ≤ e.budget := by omega
  have hstart := spent_started he₂ hroom entry values
  rw [← List.append_nil [_]]
  exact (Spent.of_continues hbefore).trans hstart

theorem Runs.spent {w w' : World Ctx} {ev : Nat} {input : Input} {invocation : Invocation}
    {p : Program Ctx} (h : Runs w ev input invocation p w') : Spent w w' [invocation] := by
  obtain ⟨htakes, hstarts, hreach⟩ := h
  have hacts := Spent.of_continues (continues_reaches hreach)
  have hstarted := (Spent.of_continues htakes.continues).trans hstarts.spent
  exact hstarted.trans hacts

/-- **What is left at a moment.** -/
theorem Moment.spent {w w' : World Ctx} {ev : Nat} {input : Input} {running : List Invocation}
    (h : Moment w ev input running w') : Spent w w' running := by
  induction h with
  | taking htakes => exact .of_continues htakes.continues
  | acting hruns => exact hruns.spent
  | nested hruns _ ih => exact hruns.spent.trans ih

/-! ### Refusal -/

namespace World

/-- A tree is refused as too deep for what is left, and nothing else happens. -/
def Refuses (w : World Ctx) (ev : Nat) (call : Call) : Prop :=
  ∃ remaining : Nat, w.evaluate ev (.tree call) =
    (.err .depthExceeded
      ("Command nesting too deep for remaining depth " ++ Number.integerText remaining),
      w.record (.attempted ev call.depth false))

theorem answer_overBudget (remaining : Nat) :
    Answer.ofError (.parse { defect := .overBudget remaining }) =
      .err .depthExceeded
        ("Command nesting too deep for remaining depth " ++ Number.integerText remaining) := by
  have hmessage : ParseError.message { defect := .overBudget remaining } =
      "Command nesting too deep for remaining depth " ++ Number.integerText remaining := by
    dsimp only [ParseError.message]
    rw [String.append_empty, String.append_empty]
    rfl
  exact congrArg (Answer.err .depthExceeded) hmessage

/-- **Refusal.** A tree is refused exactly if it is deeper than what its evaluator has left. -/
theorem refuses_iff {w : World Ctx} {ev : Nat} {e : Evaluator} (he : w.evaluators[ev]? = some e)
    (call : Call) : w.Refuses ev call ↔ e.budget < call.depth := by
  constructor
  · rintro ⟨remaining, hrefused⟩
    refine Int.lt_of_not_ge fun hfits => ?_
    -- An accepted tree leaves another record.
    have hrun := continues_machine (w := w.record (.attempted ev call.depth true)) he
      call.postOrder []
    obtain ⟨es, hes, -⟩ := hrun.events
    rw [evaluate_tree_accepted he hfits, Prod.mk.injEq] at hrefused
    rw [hrefused.2] at hes
    simp [record] at hes
  · intro hdeep
    refine ⟨e.budget.toNat, ?_⟩
    rw [evaluate_tree_refused he hdeep, answer_overBudget]

/-- The slack of evaluators at rest is what their limits allow. -/
theorem slack_of_atRest {es : List Evaluator} (h : ∀ e ∈ es, e.remaining = none) :
    Evaluator.totalSlack es = (es.map fun e => e.limits.maxDepth + 1).sum := by
  induction es with
  | nil => rfl
  | cons e es ih =>
    rw [Evaluator.totalSlack, List.map_cons, List.sum_cons,
      ih fun d hd => h d (List.mem_cons_of_mem e hd)]
    have hrest := h e List.mem_cons_self
    simp only [Evaluator.slack, Evaluator.budget, hrest]
    omega

theorem budget_of_atRest {w : World Ctx} (h : w.AtRest) {ev : Nat} {e : Evaluator}
    (he : w.evaluators[ev]? = some e) : e.budget = e.limits.maxDepth := by
  rw [Evaluator.budget, h e (List.mem_of_getElem? he)]

/-- **The depth budget is exact.** At every moment of every evaluation that starts at rest, the
handlers that the record shows running are those of the moment, and an evaluator refuses a tree
exactly if the depth of the tree and what its running handlers take together exceed its limit. A
tree that is not refused has depth left at each of its calls, so it is evaluated as by the machine,
which looks at no depth; and with it at most one more evaluation of trees than the limit is nested
in that evaluator. All evaluators together bound how many handlers run at once. In particular, every
tree in the record of the evaluation was accepted exactly if it fits the limit beside the handlers
that the record shows running in front of it. -/
theorem depth_budget_exact (w₀ : World Ctx) (hrest : w₀.AtRest) (ev₀ : Nat) (input₀ : Input) :
    (∀ (running : List Invocation) (w : World Ctx), Moment w₀ ev₀ input₀ running w →
      runningAfter (w.events.toList.drop w₀.events.size) = running ∧
      (∀ (ev : Nat) (e : Evaluator), w.evaluators[ev]? = some e → ∀ call : Call,
        (w.Refuses ev call ↔ e.limits.maxDepth < depthTaken ev running + call.depth) ∧
        (¬ w.Refuses ev call →
          (∀ path name args, call.toArg.node? path = some (.call name args) →
            0 ≤ e.budget - path.length) ∧
          (let ended := (machine ev e).run call.postOrder []
            (w.record (.attempted ev call.depth true))
          w.evaluate ev (.tree call) = (Machine.answer ended.1, ended.2)) ∧
          (running.filter (·.evaluator = ev)).length + 1 ≤ e.limits.maxDepth + 1)) ∧
      running.length ≤ (w₀.evaluators.map fun e => e.limits.maxDepth + 1).sum) ∧
    (∀ front ev depth accepted rest, (w₀.evaluate ev₀ input₀).2.events.toList =
        w₀.events.toList ++ (front ++ .attempted ev depth accepted :: rest) →
      ∃ e : Evaluator, w₀.evaluators[ev]? = some e ∧
        (accepted = true ↔ depthTaken ev (runningAfter front) + depth ≤ e.limits.maxDepth)) := by
  refine ⟨fun running w hw => ?_, fun front ev depth accepted rest hevents => ?_⟩
  · have hspent := hw.spent
    refine ⟨?_, fun ev e he call => ?_, ?_⟩
    · obtain ⟨es, hes, hfollow⟩ := hspent.events
      rw [hes, ← Array.length_toList, List.drop_left, runningAfter, hfollow, List.append_nil]
    · obtain ⟨e₀, he₀, hlimits, hbudget, -⟩ := hspent.budget ev e he
      have hlimit := budget_of_atRest hrest he₀
      rw [← hlimits] at hlimit
      have hiff := refuses_iff he call
      refine ⟨hiff.trans ?_, fun haccepts => ?_⟩
      · omega
      · rw [hiff] at haccepts
        refine ⟨fun path name args hnode => ?_, evaluate_tree_accepted he (by omega), ?_⟩
        · have hlevel := Arg.length_lt_height hnode
          rw [Call.height_toArg] at hlevel
          omega
        · have hnested := length_filter_le_depthTaken ev running
          omega
    · have hslack := hspent.slack
      rw [slack, slack, slack_of_atRest hrest] at hslack
      omega
  · obtain ⟨es, hes, horderly⟩ := (w₀.continues_evaluate ev₀ input₀).events
    obtain rfl := List.append_cancel_left (hes.symm.trans hevents)
    obtain ⟨e, running, he, hrunning, hiff⟩ := horderly.weighed front ev depth accepted rest rfl
    have hlimit := budget_of_atRest hrest he
    refine ⟨e, he, ?_⟩
    rw [hiff, hlimit, runningAfter, hrunning, List.append_nil]
    omega

/-- A command of a host without context that takes any texts. -/
def askingCommand (name : String) (run : List Value → Program Unit) : Entry (Handler Unit) :=
  ⟨name, .anyTexts, { form := .function name, run }⟩

/-- Two evaluators share a table: `ask` has the second one evaluate `tell`, and `tell` has the first
one evaluate once more. -/
def askingWorld : World Unit where
  tables := [⟨[
    askingCommand "pass" fun values => .ofResult (Value.joined " " values),
    askingCommand "ask" fun _ => .evaluate 1 (.line "tell") <| .withFeedback fun feedback =>
      .done feedback.text,
    askingCommand "tell" fun _ => .evaluate 0 (.tree ⟨"pass", []⟩) <| .withFeedback fun feedback =>
      .done feedback.text]⟩]
  evaluators := [{ limits := { Limits.standard with maxDepth := 2 }, table := 0 },
    { limits := { Limits.standard with maxDepth := 0 }, table := 0 }]
  context := ()

/-- While `tell` runs for `ask`, which stands one level below the root, both evaluators have all
that their limits allow taken: the first one only accepts a flat call, the second one none. -/
theorem depth_budget_exact_asking :
    askingWorld.AtRest ∧
      ∃ w, Moment askingWorld 0 (.tree ⟨"pass", [.call "ask" []]⟩) [⟨1, 0⟩, ⟨0, 1⟩] w ∧
        ¬ w.Refuses 0 ⟨"pass", []⟩ ∧ w.Refuses 0 ⟨"pass", [.call "pass" []]⟩ ∧
        w.Refuses 1 ⟨"pass", []⟩ := by
  have hrest : askingWorld.AtRest := by decide
  have hparse : Input.trees { maxDepth := 0 } (.line "tell") = .ok [⟨"tell", []⟩] := by
    decide +kernel
  have hask : Runs askingWorld 0 (.tree ⟨"pass", [.call "ask" []]⟩) ⟨0, 1⟩
      (.evaluate 1 (.line "tell") <| .withFeedback fun feedback => .done feedback.text) _ :=
    .intro (@TakesUp.intro _ _ _ _ _ [] [] _ _ _ rfl rfl rfl rfl)
      (@Starts.intro _ _ _ _ _ [] [.call [] "pass" 1] [0] "ask" 0 [] _ _ _ _ rfl (by decide) rfl
        rfl rfl) .refl
  have hmoment : Moment askingWorld 0 (.tree ⟨"pass", [.call "ask" []]⟩) [⟨1, 0⟩, ⟨0, 1⟩] _ :=
    .nested hask (.acting (.intro (@TakesUp.intro _ _ _ _ _ [] [] ⟨"tell", []⟩ _ _ rfl hparse rfl rfl)
      (@Starts.intro _ _ _ _ _ [] [] [] "tell" 0 [] _ _ _ _ rfl (by decide) rfl rfl rfl) .refl))
  obtain ⟨-, hexact, -⟩ := (depth_budget_exact askingWorld hrest 0 _).1 _ _ hmoment
  refine ⟨hrest, _, hmoment, ?_, ?_, ?_⟩
  · rw [(hexact 0 _ rfl _).1]
    decide
  · rw [(hexact 0 _ rfl _).1]
    decide
  · rw [(hexact 1 _ rfl _).1]
    decide

end World

end CommandShell
