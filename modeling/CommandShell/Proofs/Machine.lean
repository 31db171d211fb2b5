import CommandShell.Evaluator.Builtin
import CommandShell.Proofs.PostOrder
import CommandShell.Proofs.Reentry

/-!
# Evaluation as a stack machine

Evaluation of a tree is the run of its instructions in post-order. A literal is pushed; a call
pops the texts of its arguments, is resolved in the table as it is then, and its handler is run;
the output is pushed. The first call that finds no entry or whose handler fails stops the run.

The machine is written down on its own: it knows the tables and how programs of handlers run, and
nothing of the recursion over trees. `Halt.answer` lists how each failure is answered.

* `Machine.invoke_eq_handle` — one invocation;
* `Machine.run_postOrder` — the run of the instructions of an argument, over any stack;
* `Machine.exists_halting_call` — where a run stops;
* `World.evaluate_tree_postOrder` — a tree that fits is evaluated as the machine runs it, and
  where a call fails, no ancestor of it and nothing to its right is performed.
-/

namespace CommandShell

variable {Ctx : Type}

/-- Why a run of instructions stops early. -/
inductive Halt where
  /-- A call finds no entry that accepts its arguments. -/
  | unresolved (reason : Unresolved)
  /-- A handler fails. -/
  | raised (failure : Failure)

/-- The answer to an input in which a failure is raised that no handler is responsible for: errors
of the interpreter and help are answered by feedback, other failures are raised again. -/
def Failure.answer : Failure → Answer
  | shell e => .err e.kind e.message
  | help text => .help text
  | muteShell raised => .raised raised
  | failure => .raised failure

/-- The answer of a run that stopped early: feedback with the kind and the text of the failure, or
what asking for its text raises. -/
def Halt.answer : Halt → Answer
  | unresolved (.noMatch e) => .err .noMatch e.message
  | unresolved (.raised failure) => failure.answer
  | raised (.command message) => .err .handlerFailed message
  | raised (.shell e) => .err e.kind e.message
  | raised (.help text) => .help text
  | raised (.fault f) => .err .handlerFailed (f.name ++ ": " ++ f.text)
  | raised (.muteCommand cause) => cause.answer
  | raised (.muteShell cause) => .raised cause
  | raised (.muteFault cause) => cause.answer

/-- A machine runs instructions for an evaluator: the number of the evaluator, its table, the depth
it has for the tree, and what its handlers get from nested evaluations. -/
structure Machine (Ctx : Type) where
  reenter : Reentry Ctx
  evaluator : Nat
  table : Nat
  budget : Int

namespace Machine

/-- What is recorded of the result of a handler. -/
def failureEvents (command : String) : Except Failure String → List Event
  | .error (.command message) => [.failed command message]
  | .error (.fault _) => [.crashed command]
  | .error (.muteFault _) => [.crashed command]
  | _ => []

/-- The world in which a handler runs for a node at a level: its evaluator has the depth left that
is below the node. -/
def started (m : Machine Ctx) (level : Nat) (entry : Entry (Handler Ctx)) (values : List Value)
    (w : World Ctx) : World Ctx :=
  { w with
    evaluators := Evaluator.setRemaining w.evaluators m.evaluator (some (m.budget - level))
    events := w.events.push
      (.invoked m.evaluator level entry.name values entry.handler.isBuiltin) }

/-- Runs a handler for a node at a level. Afterwards all evaluators are as they were. -/
def handle (m : Machine Ctx) (level : Nat) (entry : Entry (Handler Ctx)) (values : List Value)
    (w : World Ctx) : Except Failure String × World Ctx :=
  let (result, ended) :=
    (entry.handler.run values).run m.reenter m.table (m.started level entry values w)
  (result,
    { ended with
      evaluators := w.evaluators
      events := ended.events ++
        (failureEvents entry.name result).toArray.push (.returned m.evaluator) })

/-- One instruction, on a stack of texts with the last one first. -/
def step (m : Machine Ctx) :
    Instruction → List String → World Ctx → Except Halt (List String) × World Ctx
  | .push text, stack, w => (.ok (text :: stack), w)
  | .call path name arity, stack, w =>
    match w.resolve m.table name (stack.take arity).reverse with
    | (.error e, w) => (.error (.unresolved e), w)
    | (.ok (entry, values), w) =>
      match m.handle path.length entry values w with
      | (.error failure, w) => (.error (.raised failure), w)
      | (.ok text, w) => (.ok (text :: stack.drop arity), w)

/-- Instructions in order, up to the first that stops the run. -/
def run (m : Machine Ctx) :
    List Instruction → List String → World Ctx → Except Halt (List String) × World Ctx
  | [], stack, w => (.ok stack, w)
  | i :: code, stack, w =>
    match m.step i stack w with
    | (.error halt, w) => (.error halt, w)
    | (.ok stack, w) => m.run code stack w

/-! ### Runs -/

theorem run_append (m : Machine Ctx) (code rest : List Instruction) (stack : List String)
    (w : World Ctx) :
    m.run (code ++ rest) stack w =
      match m.run code stack w with
      | (.error halt, w') => (.error halt, w')
      | (.ok stack', w') => m.run rest stack' w' := by
  induction code generalizing stack w with
  | nil => rfl
  | cons i code ih =>
    simp only [List.cons_append, run]
    rcases m.step i stack w with ⟨_ | stack', w'⟩
    · rfl
    · exact ih stack' w'

theorem run_singleton (m : Machine Ctx) (i : Instruction) (stack : List String) (w : World Ctx) :
    m.run [i] stack w = m.step i stack w := by
  simp only [run]
  rcases m.step i stack w with ⟨_ | stack', w'⟩ <;> rfl

/-- **Where a run stops.** Some call stops it, behind instructions that were all run. -/
theorem exists_halting_call {m : Machine Ctx} {code : List Instruction} {stack : List String}
    {w w' : World Ctx} {halt : Halt} (h : m.run code stack w = (.error halt, w')) :
    ∃ front path name arity rest stack' w'', code = front ++ .call path name arity :: rest ∧
      m.run front stack w = (.ok stack', w'') ∧
      m.step (.call path name arity) stack' w'' = (.error halt, w') := by
  induction code generalizing stack w with
  | nil => cases h
  | cons i code ih =>
    rw [run] at h
    rcases hstep : m.step i stack w with ⟨halt' | stack₁, w₁⟩
    · rw [hstep] at h
      cases h
      cases i with
      | push text => cases hstep
      | call path name arity => exact ⟨[], path, name, arity, code, stack, w, rfl, rfl, hstep⟩
    · rw [hstep] at h
      obtain ⟨front, path, name, arity, rest, stack', w'', rfl, hfront, hhalt⟩ := ih h
      refine ⟨i :: front, path, name, arity, rest, stack', w'', rfl, ?_, hhalt⟩
      rw [run, hstep]
      exact hfront

end Machine

/-! ### Evaluation -/

/-- A failure as evaluation passes it on. -/
def Halt.abort : Halt → Abort
  | unresolved e => e.failure.abort
  | raised (.command message) => .error (.handlerFailed message)
  | raised (.fault f) => .error (.handlerFailed f.message)
  | raised (.muteCommand cause) => cause.abort
  | raised (.muteFault cause) => cause.abort
  | raised failure => failure.abort

theorem Failure.answer_abort (failure : Failure) : failure.abort.answer = failure.answer := by
  cases failure <;> rfl

theorem Halt.answer_abort (halt : Halt) : halt.abort.answer = halt.answer := by
  rcases halt with (e | failure) | failure
  · rfl
  · exact failure.answer_abort
  · cases failure with
    | muteCommand cause => exact cause.answer_abort
    | muteFault cause => exact cause.answer_abort
    | _ => rfl

namespace Machine

/-- Nested evaluations of the machine leave all evaluators as they are. -/
def Keeps (m : Machine Ctx) : Prop := ∀ es, Agree es m.reenter m.reenter

theorem outcome_eq (command : String) (result : Except Failure String) :
    outcome command result =
      (result.mapError fun failure => (Halt.raised failure).abort,
        failureEvents command result) := by
  rcases result with failure | text
  · cases failure <;> rfl
  · rfl

/-- **One invocation.** A handler that is invoked does what the machine has it do, and its failure
is passed on as that of the machine. -/
theorem invoke_eq_handle {m : Machine Ctx} (hm : m.Keeps) (level : Nat)
    (entry : Entry (Handler Ctx)) (values : List Value) (w : World Ctx) :
    invoke m.reenter m.evaluator m.table m.budget level entry values w =
      ((m.handle level entry values w).1.mapError fun failure => (Halt.raised failure).abort,
        (m.handle level entry values w).2) := by
  have hstart : (w.record (.invoked m.evaluator level entry.name values
      entry.handler.isBuiltin)).setRemaining m.evaluator (some (m.budget - level)) =
        m.started level entry values w := rfl
  have hkeep := (run_agree (hm _) m.table (entry.handler.run values)
    (m.started level entry values w) rfl).2
  simp only [invoke, handle, outcome_eq, hstart]
  rcases hrun : (entry.handler.run values).run m.reenter m.table
    (m.started level entry values w) with ⟨result, ended⟩
  rw [hrun] at hkeep
  -- Only the evaluators are put together differently: set back here, taken from before there.
  have hback := Evaluator.setRemaining_restore w.evaluators m.evaluator
    (some (m.budget - level))
  simp only [World.setRemaining, World.record, World.recordAll]
  rw [Prod.mk.injEq, World.mk.injEq]
  refine ⟨rfl, rfl, ?_, rfl, ?_⟩
  · have hended : ended.evaluators =
        Evaluator.setRemaining w.evaluators m.evaluator (some (m.budget - level)) := hkeep
    rw [hended]
    exact hback
  · exact Array.push_append

/-- **One call.** A call whose texts are on top of the stack is performed by the machine as by
evaluation. -/
theorem step_call_eq_perform {m : Machine Ctx} (hm : m.Keeps) (path : List Nat) (name : String)
    (texts stack : List String) (w : World Ctx) :
    ∃ (result : Except Halt String) (w' : World Ctx),
      m.step (.call path name texts.length) (texts.reverse ++ stack) w =
        (result.map (· :: stack), w') ∧
      perform m.reenter m.evaluator m.table m.budget path.length name texts w =
        (result.mapError Halt.abort, w') := by
  have htake : ((texts.reverse ++ stack).take texts.length).reverse = texts := by
    rw [List.take_left' (List.length_reverse), List.reverse_reverse]
  have hdrop : (texts.reverse ++ stack).drop texts.length = stack :=
    List.drop_left' List.length_reverse
  simp only [step, perform, htake, hdrop]
  rcases w.resolve m.table name texts with ⟨e | ⟨entry, values⟩, w₁⟩
  · exact ⟨.error (.unresolved e), w₁, rfl, rfl⟩
  · simp only [invoke_eq_handle hm]
    rcases m.handle path.length entry values w₁ with ⟨failure | text, w₂⟩
    · exact ⟨.error (.raised failure), w₂, rfl, rfl⟩
    · exact ⟨.ok text, w₂, rfl, rfl⟩

mutual

/-- **The instructions of an argument.** Over any stack they push the text of the argument, or stop
with its failure, and leave the same world. -/
theorem run_postOrder {m : Machine Ctx} (hm : m.Keeps) (path : List Nat) :
    ∀ (arg : Arg), (path.length + arg.height : Int) ≤ m.budget + 1 →
      ∀ (stack : List String) (w : World Ctx), ∃ (result : Except Halt String) (w' : World Ctx),
        m.run (arg.postOrder path) stack w = (result.map (· :: stack), w') ∧
        arg.evaluate m.reenter m.evaluator m.table m.budget path.length w =
          (result.mapError Halt.abort, w')
  | .literal text, _, stack, w => ⟨.ok text, w, rfl, rfl⟩
  | .call name args, hfits, stack, w => by
    rw [Arg.height] at hfits
    have hguard : ¬ m.budget - path.length < 0 := by omega
    obtain ⟨texts, w₁, hrun, heval, hlength⟩ :=
      run_postOrderAll hm path 0 args (by omega) stack w
    rw [Arg.postOrder, run_append, hrun, Arg.evaluate, if_neg hguard, heval]
    rcases texts with halt | texts
    · exact ⟨.error halt, w₁, rfl, rfl⟩
    · rw [← hlength texts rfl]
      obtain ⟨result, w₂, hstep, hperform⟩ := step_call_eq_perform hm path name texts stack w₁
      refine ⟨result, w₂, ?_, hperform⟩
      exact (run_singleton m _ _ _).trans hstep

/-- **The instructions of a row.** They push the texts of the arguments, the last one on top. -/
theorem run_postOrderAll {m : Machine Ctx} (hm : m.Keeps) (path : List Nat) (i : Nat) :
    ∀ (args : List Arg), (path.length + Arg.heights args : Int) ≤ m.budget →
      ∀ (stack : List String) (w : World Ctx),
        ∃ (result : Except Halt (List String)) (w' : World Ctx),
        m.run (Arg.postOrderAll path i args) stack w =
          (result.map (fun texts => texts.reverse ++ stack), w') ∧
        Arg.evaluateAll m.reenter m.evaluator m.table m.budget (path.length + 1) args w =
          (result.mapError Halt.abort, w') ∧
        ∀ texts, result = .ok texts → texts.length = args.length
  | [], _, stack, w => ⟨.ok [], w, rfl, rfl, fun _ h => by cases h; rfl⟩
  | arg :: args, hfits, stack, w => by
    rw [Arg.heights] at hfits
    have hlength : (path ++ [i]).length = path.length + 1 := List.length_append
    obtain ⟨result, w₁, hrun, heval⟩ :=
      run_postOrder hm (path ++ [i]) arg (by rw [hlength]; omega) stack w
    rw [hlength] at heval
    rw [Arg.postOrderAll, run_append, hrun, Arg.evaluateAll, heval]
    rcases result with halt | text
    · exact ⟨.error halt, w₁, rfl, rfl, nofun⟩
    · obtain ⟨results, w₂, hrest, hevals, hlengths⟩ :=
        run_postOrderAll hm path (i + 1) args (by omega) (text :: stack) w₁
      have hpushed : (Except.ok text : Except Halt String).mapError Halt.abort = .ok text := rfl
      simp only [Except.map, hpushed, hrest, hevals]
      rcases results with halt | texts
      · exact ⟨.error halt, w₂, rfl, rfl, nofun⟩
      · refine ⟨.ok (text :: texts), w₂, ?_, rfl, ?_⟩
        · simp
        · intro texts' h
          cases h
          rw [List.length_cons, List.length_cons, hlengths texts rfl]

end

/-- Instructions stop at the call at `path`: those in front of it are run, it halts, and those
behind it are skipped. None in front of it is the call of an ancestor or lies to its right. -/
def StopsAt (m : Machine Ctx) (code : List Instruction) (w : World Ctx) (path : List Nat)
    (halt : Halt) (w' : World Ctx) : Prop :=
  ∃ front name arity rest stack w'', code = front ++ .call path name arity :: rest ∧
    m.run front [] w = (.ok stack, w'') ∧
    m.step (.call path name arity) stack w'' = (.error halt, w') ∧
    ∀ p name' k, .call p name' k ∈ front → ¬ IsAncestor p path ∧ ¬ IsLater p path

/-- A run of a tree that stops does so at one of its call nodes. -/
theorem exists_stopsAt {m : Machine Ctx} {call : Call} {w w' : World Ctx} {halt : Halt}
    (h : m.run call.postOrder [] w = (.error halt, w')) :
    ∃ path name args, call.toArg.node? path = some (.call name args) ∧
      m.StopsAt call.postOrder w path halt w' := by
  obtain ⟨front, path, name, arity, rest, stack, w'', hcode, hfront, hhalt⟩ :=
    exists_halting_call h
  have hmem : .call path name arity ∈ call.toArg.postOrder [] := by
    rw [← Call.postOrder, hcode]
    exact List.mem_append_right _ List.mem_cons_self
  obtain ⟨below, args, hpath, hnode, -⟩ := (mem_postOrder_iff [] path name arity _).1 hmem
  rw [List.nil_append] at hpath
  subst hpath
  exact ⟨path, name, args, hnode, front, name, arity, rest, stack, w'', hcode, hfront, hhalt,
    Call.postOrder_before hcode⟩

end Machine

namespace World

/-- The machine of an evaluator, whose handlers may evaluate anything. -/
def machine (ev : Nat) (e : Evaluator) : Machine Ctx := ⟨evaluation, ev, e.table, e.budget⟩

theorem keeps_machine (ev : Nat) (e : Evaluator) : (machine ev e : Machine Ctx).Keeps := by
  intro es ev' input w hw
  exact ⟨rfl, (evaluate_evaluators w ev' input).trans hw⟩

/-- **Evaluation runs a tree in post-order.** A tree within the budget of its evaluator is
evaluated as the machine runs its instructions: the answer is the one text left on the stack, or
that of the failure that stopped the run, and the world is the same. Where a call of the tree
fails, no ancestor of it has been performed, nor anything to its right. -/
theorem evaluate_tree_postOrder (w : World Ctx) (ev : Nat) (e : Evaluator) (call : Call)
    (he : w.evaluators[ev]? = some e) (hfits : (call.depth : Int) ≤ e.budget) :
    let start := w.record (.attempted ev call.depth true)
    (∃ text w', (machine ev e).run call.postOrder [] start = (.ok [text], w') ∧
      w.evaluate ev (.tree call) = (.ok text, w')) ∨
    (∃ halt w', (machine ev e).run call.postOrder [] start = (.error halt, w') ∧
      w.evaluate ev (.tree call) = (halt.answer, w') ∧
      ∃ path name args, call.toArg.node? path = some (.call name args) ∧
        (machine ev e).StopsAt call.postOrder start path halt w') := by
  intro start
  have hroom : (([] : List Nat).length + call.toArg.height : Int) ≤
      (machine ev e : Machine Ctx).budget + 1 := by
    rw [Call.height_toArg]
    show ((0 : Nat) + (call.depth + 1 : Nat) : Int) ≤ e.budget + 1
    omega
  obtain ⟨result, w', hrun, heval⟩ :=
    Machine.run_postOrder (keeps_machine ev e) [] call.toArg hroom [] start
  have hevaluate := evaluate_tree_eq he hfits
  have heval' : call.toArg.evaluate evaluation ev e.table e.budget 0 start =
      (result.mapError Halt.abort, w') := heval
  rw [heval'] at hevaluate
  rcases result with halt | text
  · refine .inr ⟨halt, w', hrun, ?_, Machine.exists_stopsAt hrun⟩
    rw [hevaluate, ← halt.answer_abort]
    rfl
  · exact .inl ⟨text, w', hrun, hevaluate⟩

/-- A command that takes any texts, of a host whose context is a row of texts. -/
def noting (name : String) (run : List Value → Program (List String)) :
    Entry (Handler (List String)) :=
  ⟨name, .anyTexts, { form := .function name, run }⟩

/-- A host with three commands: `note` changes the context, `twice` has the evaluator evaluate a
tree of its own, and `grow` registers a command that fails unexpectedly. -/
def notingWorld : World (List String) where
  tables := [⟨[
    noting "note" fun values => .read fun notes =>
      .write (notes ++ ["noted"]) (.ofResult (Value.joined " " values)),
    noting "twice" fun _ => .evaluate 0 (.tree ⟨"note", [.call "note" []]⟩) <|
      .withFeedback fun feedback => .done feedback.text,
    noting "grow" fun _ => .register 0 (.text "fresh") .nothing (.function "fresh")
      (fun _ => .fail (.fault (.raised "OSError" "gone"))) fun _ => .done "grown"]⟩]
  evaluators := [{ limits := { Limits.standard with maxDepth := 2 }, table := 0 }]
  context := []

/-- A tree in which the command that an earlier sibling registers fails. -/
def growingCall : Call :=
  ⟨"note", [.call "twice" [.literal "a b"],
    .call "note" [.call "grow" [], .call "fresh" [], .call "note" []],
    .call "note" []]⟩

/-- The tree above stops at a call that did not exist when it started, with the fault of its handler
as feedback. -/
theorem evaluate_tree_postOrder_growing :
    notingWorld.evaluators[0]? = some { limits := { maxDepth := 2 }, table := 0 } ∧
      (growingCall.depth : Int) ≤
        (Evaluator.budget { limits := { maxDepth := 2 }, table := 0 }) ∧
      (notingWorld.evaluate 0 (.tree growingCall)).1 = .err .handlerFailed "OSError: gone" ∧
      ∃ halt w', notingWorld.evaluate 0 (.tree growingCall) = (halt.answer, w') ∧
        ∃ path name args, growingCall.toArg.node? path = some (.call name args) ∧
          (machine 0 { limits := { maxDepth := 2 }, table := 0 }).StopsAt growingCall.postOrder
            (notingWorld.record (.attempted 0 2 true)) path halt w' := by
  have hfeedback : (notingWorld.evaluate 0 (.tree growingCall)).1 =
      .err .handlerFailed "OSError: gone" := by decide +kernel
  have he : notingWorld.evaluators[0]? = some { limits := { maxDepth := 2 }, table := 0 } := rfl
  have hfits : (growingCall.depth : Int) ≤
      (Evaluator.budget { limits := { maxDepth := 2 }, table := 0 }) := by decide
  refine ⟨he, hfits, hfeedback, ?_⟩
  rcases evaluate_tree_postOrder notingWorld 0 _ growingCall he hfits with
    ⟨text, w', -, hok⟩ | ⟨halt, w', -, heval, hstops⟩
  · rw [hok] at hfeedback
    cases hfeedback
  · exact ⟨halt, w', heval, hstops⟩

end World

end CommandShell
