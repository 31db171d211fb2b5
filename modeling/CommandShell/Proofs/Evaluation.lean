import CommandShell.Proofs.Machine

/-!
# Inputs and their trees

A line, a script and a tree are evaluated in one way: the input is read into call trees, all of it
before anything runs, and the trees are evaluated one after the other up to the first that does not
succeed. A tree that does not fit is refused at once; one that fits is run by the machine.

* `evaluate_eq_each` — evaluation of an input is that of its trees, one by one;
* `evaluate_tree_refused`, `evaluate_tree_accepted` — the two ways of a tree;
* `level_le_depth` — no call of a tree lies deeper than the depth of the tree.
-/

namespace CommandShell

variable {Ctx : Type}

/-- The call trees of an input. -/
def Input.trees (limits : Limits) : Input → Except ParseError (List Call)
  | line text => (parse text limits).map fun call => [call]
  | script text => parseScript text limits
  | tree call => .ok [call]

/-! ### Levels -/

theorem Arg.height_le_heights {args : List Arg} {i : Nat} {arg : Arg} (h : args[i]? = some arg) :
    arg.height ≤ Arg.heights args := by
  induction args generalizing i with
  | nil => cases h
  | cons first args ih =>
    rw [Arg.heights]
    cases i with
    | zero =>
      cases h
      exact Nat.le_max_left _ _
    | succ i => exact Nat.le_trans (ih h) (Nat.le_max_right _ _)

/-- A call below an argument lies less deep than the argument is high. -/
theorem Arg.length_lt_height {arg : Arg} {path : List Nat} {name : String} {args : List Arg}
    (h : arg.node? path = some (.call name args)) : path.length < arg.height := by
  induction path generalizing arg with
  | nil =>
    cases h
    exact Nat.succ_pos _
  | cons i path ih =>
    cases arg with
    | literal text => cases h
    | call name' args' =>
      rw [Arg.node?, Option.bind_eq_some_iff] at h
      obtain ⟨child, hchild, hnode⟩ := h
      have hbelow := ih hnode
      have hheight := Arg.height_le_heights hchild
      rw [Arg.height, List.length_cons]
      omega

/-- The calls of a tree lie within its depth. -/
theorem Call.level_le_depth {call : Call} {path : List Nat} {name : String} {arity : Nat}
    (h : .call path name arity ∈ call.postOrder) : path.length ≤ call.depth := by
  obtain ⟨below, args, hpath, hnode, -⟩ := (mem_postOrder_iff [] path name arity _).1 h
  have hlength := Arg.length_lt_height hnode
  rw [Call.height_toArg] at hlength
  rw [hpath, List.nil_append]
  omega

/-! ### Trees -/

/-- The answer of a run of instructions: that of the failure that stopped it, or the text it left
on the stack. -/
def Machine.answer : Except Halt (List String) → Answer
  | .ok stack => .ok (stack.headD "")
  | .error halt => halt.answer

namespace World

variable {w : World Ctx} {ev : Nat} {e : Evaluator}

/-- A tree that is deeper than what is left is refused before anything of it runs. -/
theorem evaluate_tree_refused {call : Call} (he : w.evaluators[ev]? = some e)
    (hdeep : e.budget < call.depth) :
    w.evaluate ev (.tree call) =
      (.ofError (.parse { defect := .overBudget e.budget.toNat }),
        w.record (.attempted ev call.depth false)) := by
  rw [evaluate_eq, evaluateInput, he]
  simp only [evaluateTree]
  exact if_pos (.inr hdeep)

/-- **A tree that fits.** It is run by the machine, which looks at no depth. -/
theorem evaluate_tree_accepted {call : Call} (he : w.evaluators[ev]? = some e)
    (hfits : (call.depth : Int) ≤ e.budget) :
    w.evaluate ev (.tree call) =
      (Machine.answer ((machine ev e).run call.postOrder []
          (w.record (.attempted ev call.depth true))).1,
        ((machine ev e).run call.postOrder [] (w.record (.attempted ev call.depth true))).2) := by
  have hroom : (([] : List Nat).length + call.toArg.height : Int) ≤
      (machine ev e : Machine Ctx).budget + 1 := by
    rw [Call.height_toArg]
    show ((0 : Nat) + (call.depth + 1 : Nat) : Int) ≤ e.budget + 1
    omega
  obtain ⟨result, w', hrun, heval⟩ := Machine.run_postOrder (keeps_machine ev e) [] call.toArg
    hroom [] (w.record (.attempted ev call.depth true))
  have heval' : call.toArg.evaluate evaluation ev e.table e.budget 0
      (w.record (.attempted ev call.depth true)) = (result.mapError Halt.abort, w') := heval
  rw [evaluate_tree_eq he hfits, heval', Call.postOrder, hrun]
  rcases result with halt | text
  · exact congrArg (·, w') halt.answer_abort
  · rfl

/-! ### Inputs one by one -/

/-- Evaluates inputs in order up to the first that does not succeed; the last answer counts. -/
def evaluateEach (ev : Nat) : (last : Answer) → List Input → World Ctx → Answer × World Ctx
  | last, [], w => (last, w)
  | _, input :: inputs, w =>
    if (w.evaluate ev input).1.isOk then
      evaluateEach ev (w.evaluate ev input).1 inputs (w.evaluate ev input).2
    else w.evaluate ev input

theorem evaluateEach_singleton (ev : Nat) (last : Answer) (input : Input) (w : World Ctx) :
    evaluateEach ev last [input] w = w.evaluate ev input := by
  simp only [evaluateEach]
  split <;> rfl

theorem evaluateTree_eq (he : w.evaluators[ev]? = some e) (call : Call) :
    evaluateTree evaluation ev e call w = w.evaluate ev (.tree call) := by
  rw [evaluate_eq, evaluateInput, he]

/-- The trees of a script are evaluated one by one, each with what is left to its evaluator. -/
theorem evaluateTrees_eq_each (he : w.evaluators[ev]? = some e) (last : Answer)
    (calls : List Call) :
    evaluateTrees evaluation ev e last calls w =
      evaluateEach ev last (calls.map .tree) w := by
  induction calls generalizing w last with
  | nil => rfl
  | cons call calls ih =>
    have he' : (w.evaluate ev (.tree call)).2.evaluators[ev]? = some e := by
      rw [evaluate_evaluators, he]
    simp only [evaluateTrees, evaluateEach, List.map_cons]
    rw [evaluateTree_eq he]
    split
    · exact ih he' _
    · rfl

/-- **Inputs.** An input is read into its trees, and these are evaluated one by one; an input that
cannot be read runs nothing. -/
theorem evaluate_eq_each (he : w.evaluators[ev]? = some e) (input : Input) :
    w.evaluate ev input =
      match input.trees e.limits with
      | .error error => (.ofError (.parse error), w.record (.unparsed ev error))
      | .ok calls => evaluateEach ev (.ok "") (calls.map .tree) w := by
  cases input with
  | line text =>
    rw [evaluate_eq, evaluateInput, he]
    simp only [Input.trees]
    cases parse text e.limits with
    | error error => rfl
    | ok call =>
      exact (evaluateTree_eq he call).trans (evaluateEach_singleton ev (.ok "") _ w).symm
  | script text =>
    rw [evaluate_eq, evaluateInput, he]
    simp only [Input.trees]
    cases parseScript text e.limits with
    | error error => rfl
    | ok calls => exact evaluateTrees_eq_each he (.ok "") calls
  | tree call => exact (evaluateEach_singleton ev (.ok "") _ w).symm

/-- What a parse error comes to: its feedback, and that it is told of. -/
def refusal (w : World Ctx) (ev : Nat) (error : ParseError) : Answer × World Ctx :=
  (.ofError (.parse error), w.record (.unparsed ev error))

theorem evaluate_unparsed (he : w.evaluators[ev]? = some e) {input : Input} {error : ParseError}
    (h : input.trees e.limits = .error error) : w.evaluate ev input = w.refusal ev error := by
  rw [evaluate_eq_each he, h]
  rfl

/-- An evaluator that does not exist runs nothing. -/
theorem evaluate_none (he : w.evaluators[ev]? = none) (input : Input) :
    w.evaluate ev input = (.err .handlerFailed Fault.listIndex.message, w) := by
  rw [evaluate_eq, evaluateInput, he]

end World

end CommandShell
