import CommandShell.Proofs.Reentry
import CommandShell.Proofs.Judgement

/-!
# Handlers that register nothing

Evaluation changes the tables only where a handler registers a command. A program is quiet if it
registers none, whatever it reads and is answered; in a world in which the handlers of all commands
are quiet, evaluations leave the tables as they are, nested evaluations included.

* `run_tables` — one program;
* `invoke_tables`, `perform_tables`, `evaluate_tables` — one handler, one call, one tree of calls;
* `World.evaluate_tables` — **evaluation in a quiet world keeps the tables**.
-/

namespace CommandShell

variable {Ctx : Type}

/-- A program that registers no command, whatever it reads and is answered. -/
def Program.IsQuiet : Program Ctx → Prop
  | done _ => True
  | fail _ => True
  | read next => ∀ context, (next context).IsQuiet
  | write _ next => next.IsQuiet
  | consult next => ∀ table, (next table).IsQuiet
  | lookup _ _ next => ∀ result, (next result).IsQuiet
  | choose _ next => ∀ ev, (next ev).IsQuiet
  | register .. => False
  | evaluate _ _ next => ∀ answer, (next answer).IsQuiet
  | misread .. => True

/-- All handlers in the tables are quiet. -/
def AreQuiet (tables : List (Table (Handler Ctx))) : Prop :=
  ∀ table ∈ tables, ∀ entry ∈ table.entries, ∀ values, (entry.handler.run values).IsQuiet

/-- Nested evaluation leaves these tables as they are. -/
def KeepsTables (tables : List (Table (Handler Ctx))) (r : Reentry Ctx) : Prop :=
  ∀ ev input w, w.tables = tables → (r ev input w).2.tables = tables

section

variable {tables : List (Table (Handler Ctx))} {r : Reentry Ctx}

/-- The handler that a call is resolved to is quiet. -/
theorem isQuiet_of_resolve (hquiet : AreQuiet tables) {w : World Ctx} (hw : w.tables = tables)
    {t : Nat} {name : String} {args : List String} {entry : Entry (Handler Ctx)}
    {values : List Value} (h : (w.resolve t name args).1 = .ok (entry, values)) :
    (entry.handler.run values).IsQuiet := by
  have hentry : entry ∈ (w.table t).entries := (Table.accept_of_resolve h).1
  rw [World.table, hw] at hentry
  cases htable : tables[t]? with
  | none =>
    rw [htable] at hentry
    cases hentry
  | some table =>
    rw [htable] at hentry
    exact hquiet table (List.mem_of_getElem? htable) entry hentry values

/-- **Programs.** A quiet program keeps the tables if the evaluations that it asks for do. -/
theorem run_tables (h : KeepsTables tables r) (t : Nat) (p : Program Ctx) (hp : p.IsQuiet) :
    ∀ w : World Ctx, w.tables = tables → (p.run r t w).2.tables = tables := by
  induction p with
  | done text => exact fun w hw => hw
  | fail failure => exact fun w hw => hw
  | read next ih => exact fun w hw => ih w.context (hp w.context) w hw
  | write context next ih => exact fun w hw => ih hp { w with context } hw
  | consult next ih => exact fun w hw => ih _ (hp _) w hw
  | lookup name args next ih => exact fun w hw => ih _ (hp _) _ hw
  | choose number next ih =>
    intro w hw
    simp only [Program.run]
    cases w.evaluator? number with
    | none => exact hw
    | some found => exact ih found.1 (hp found.1) w hw
  | register ev name decider form body next => exact hp.elim
  | evaluate ev input next ih =>
    intro w hw
    simp only [Program.run]
    cases w.evaluators[ev]? with
    | none => exact hw
    | some e => exact ih _ (hp _) _ (h ev input w hw)
  | misread ev length =>
    intro w hw
    simp only [Program.run]
    cases w.evaluators[ev]? with
    | none => exact hw
    | some e =>
      dsimp only
      split
      · exact hw
      · exact hw

theorem invoke_tables (h : KeepsTables tables r) (ev t : Nat) (budget : Int) (level : Nat)
    {entry : Entry (Handler Ctx)} {values : List Value} (hp : (entry.handler.run values).IsQuiet)
    (w : World Ctx) (hw : w.tables = tables) :
    (invoke r ev t budget level entry values w).2.tables = tables :=
  run_tables h t (entry.handler.run values) hp _ hw

theorem perform_tables (hquiet : AreQuiet tables) (h : KeepsTables tables r) (ev t : Nat)
    (budget : Int) (level : Nat) (name : String) (args : List String) (w : World Ctx)
    (hw : w.tables = tables) : (perform r ev t budget level name args w).2.tables = tables := by
  have hkeep : (w.resolve t name args).2.tables = tables := hw
  unfold perform
  rcases hres : w.resolve t name args with ⟨_ | ⟨entry, values⟩, w'⟩
  · rw [hres] at hkeep
    exact hkeep
  · rw [hres] at hkeep
    have hp := isQuiet_of_resolve hquiet hw (congrArg Prod.fst hres)
    exact invoke_tables h ev t budget level hp w' hkeep

mutual

/-- **Arguments.** Every call in an argument is resolved in the same tables. -/
theorem evaluate_tables (hquiet : AreQuiet tables) (h : KeepsTables tables r) (ev t : Nat)
    (budget : Int) (level : Nat) :
    ∀ (arg : Arg) (w : World Ctx), w.tables = tables →
      (arg.evaluate r ev t budget level w).2.tables = tables
  | .literal text, w, hw => hw
  | .call name args, w, hw => by
    have hkeep := evaluateAll_tables hquiet h ev t budget (level + 1) args w hw
    simp only [Arg.evaluate]
    split
    · exact hw
    · rcases hall : Arg.evaluateAll r ev t budget (level + 1) args w with ⟨_ | texts, w'⟩
      · rw [hall] at hkeep
        exact hkeep
      · rw [hall] at hkeep
        exact perform_tables hquiet h ev t budget level name texts w' hkeep

theorem evaluateAll_tables (hquiet : AreQuiet tables) (h : KeepsTables tables r) (ev t : Nat)
    (budget : Int) (level : Nat) :
    ∀ (args : List Arg) (w : World Ctx), w.tables = tables →
      (Arg.evaluateAll r ev t budget level args w).2.tables = tables
  | [], w, hw => hw
  | arg :: args, w, hw => by
    have hkeep := evaluate_tables hquiet h ev t budget level arg w hw
    simp only [Arg.evaluateAll]
    rcases harg : arg.evaluate r ev t budget level w with ⟨_ | text, w'⟩
    · rw [harg] at hkeep
      exact hkeep
    · rw [harg] at hkeep
      have hkeep' := evaluateAll_tables hquiet h ev t budget level args w' hkeep
      dsimp only
      rcases hall : Arg.evaluateAll r ev t budget level args w' with ⟨_ | texts, w''⟩ <;>
        · rw [hall] at hkeep'
          exact hkeep'

end

theorem evaluateTree_tables (hquiet : AreQuiet tables) (h : KeepsTables tables r) (ev : Nat)
    (e : Evaluator) (call : Call) (w : World Ctx) (hw : w.tables = tables) :
    (evaluateTree r ev e call w).2.tables = tables := by
  have hkeep := evaluate_tables hquiet h ev e.table e.budget 0 call.toArg
    (w.record (.attempted ev call.depth true)) hw
  simp only [evaluateTree]
  split
  · exact hw
  · rcases harg : call.toArg.evaluate r ev e.table e.budget 0
      (w.record (.attempted ev call.depth true)) with ⟨_ | text, w'⟩ <;>
      · rw [harg] at hkeep
        exact hkeep

theorem evaluateTrees_tables (hquiet : AreQuiet tables) (h : KeepsTables tables r) (ev : Nat)
    (e : Evaluator) (calls : List Call) (last : Answer) (w : World Ctx) (hw : w.tables = tables) :
    (evaluateTrees r ev e last calls w).2.tables = tables := by
  induction calls generalizing last w with
  | nil => exact hw
  | cons call calls ih =>
    have hkeep := evaluateTree_tables hquiet h ev e call w hw
    simp only [evaluateTrees]
    split
    · exact ih _ _ hkeep
    · exact hkeep

/-- **Inputs.** One level of evaluation keeps the tables if the levels below it do. -/
theorem keepsTables_evaluateInput (hquiet : AreQuiet tables) (h : KeepsTables tables r) :
    KeepsTables tables (evaluateInput r) := by
  intro ev input w hw
  unfold evaluateInput
  cases w.evaluators[ev]? with
  | none => exact hw
  | some e =>
    cases input with
    | line text =>
      dsimp only
      cases parse text e.limits with
      | error error => exact hw
      | ok call => exact evaluateTree_tables hquiet h ev e call w hw
    | script text =>
      dsimp only
      cases parseScript text e.limits with
      | error error => exact hw
      | ok calls => exact evaluateTrees_tables hquiet h ev e calls (.ok "") w hw
    | tree call => exact evaluateTree_tables hquiet h ev e call w hw

/-- **Nested evaluations.** So do all levels, by induction on how many there can be. -/
theorem keepsTables_evaluateWithin (hquiet : AreQuiet tables) (n : Nat) :
    KeepsTables tables (evaluateWithin n) := by
  induction n with
  | zero => exact keepsTables_evaluateInput hquiet fun _ _ _ hw => hw
  | succ n ih => exact keepsTables_evaluateInput hquiet ih

end

/-- **Evaluation in a quiet world keeps the tables.** -/
theorem World.evaluate_tables {w : World Ctx} (hquiet : AreQuiet w.tables) (ev : Nat)
    (input : Input) : (w.evaluate ev input).2.tables = w.tables :=
  keepsTables_evaluateWithin hquiet w.slack ev input w rfl

end CommandShell
