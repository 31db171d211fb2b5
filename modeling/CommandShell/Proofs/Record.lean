import CommandShell.Proofs.Action
import CommandShell.Proofs.Evaluation
import Mathlib.Algebra.GroupWithZero.Nat

/-!
# The record of a run

A world keeps a record of what happened. Handlers start and return in it like parentheses, so the
record tells at every moment which handlers are running: those that have started and not returned.

Events are *orderly* if every handler that starts among them also returns, and every tree was
accepted or refused by what its evaluator had left then, which the running handlers tell. One world
*continues* another if it has the same evaluators and its record goes on with orderly events.

* `Orderly.append`, `Orderly.bracket` — orderly events in a row, and while a handler runs;
* `act_continues`, `run_continues` — actions and runs of programs continue the world;
* `handle_continues`, `Machine.run_continues` — so do handlers, and instructions;
* `World.continues_evaluate` — **every evaluation continues the world it starts in**, and so does
  whatever is put together from evaluations.
-/

namespace CommandShell

variable {Ctx : Type}

/-! ### Running handlers -/

/-- A handler that was started: by which evaluator, and for a node at which level of its tree. -/
structure Invocation where
  evaluator : Nat
  level : Nat
  deriving DecidableEq

/-- The handlers that are running behind an event, the innermost first. -/
def Event.follow (running : List Invocation) : Event → List Invocation
  | invoked ev level _ _ _ => ⟨ev, level⟩ :: running
  | returned _ => running.tail
  | _ => running

/-- The handlers that have started and not returned among events, the innermost first. -/
def runningAfter (events : List Event) : List Invocation := events.foldl Event.follow []

/-- The depth that running handlers of an evaluator take from its limit. -/
def depthTaken (ev : Nat) (running : List Invocation) : Nat :=
  ((running.filter (·.evaluator = ev)).map (·.level + 1)).sum

theorem depthTaken_append (ev : Nat) (running outer : List Invocation) :
    depthTaken ev (running ++ outer) = depthTaken ev running + depthTaken ev outer := by
  simp [depthTaken]

theorem depthTaken_singleton (ev : Nat) (invocation : Invocation) :
    depthTaken ev [invocation] =
      if invocation.evaluator = ev then invocation.level + 1 else 0 := by
  by_cases h : invocation.evaluator = ev <;> simp [depthTaken, h]

/-! ### Orderly events -/

/-- A tree was accepted exactly if it fits what its evaluator, one of `evaluators` when the events
began, has left beside the handlers that have started in front of the tree. -/
def Weighed (evaluators : List Evaluator) (front : List Event) (ev depth : Nat) (accepted : Bool) :
    Prop :=
  ∃ e running, evaluators[ev]? = some e ∧
    (∀ outer, front.foldl Event.follow outer = running ++ outer) ∧
    (accepted = true ↔ (depthTaken ev running + depth : Int) ≤ e.budget)

/-- What evaluators have left while a handler of one of them runs for a node at `level`. -/
theorem budget_of_setRemaining {evaluators : List Evaluator} {ev ev' level : Nat} {e e' : Evaluator}
    (he : evaluators[ev]? = some e)
    (he' : (Evaluator.setRemaining evaluators ev (some (e.budget - level)))[ev']? = some e') :
    ∃ e₀ : Evaluator, evaluators[ev']? = some e₀ ∧ e'.limits = e₀.limits ∧
      e'.budget = e₀.budget - (if ev = ev' then level + 1 else 0 : Nat) := by
  rw [Evaluator.setRemaining, List.getElem?_modify] at he'
  by_cases hev : ev = ev'
  · subst hev
    rw [he] at he'
    simp only [if_true, Option.map_eq_map, Option.map_some, Option.some.injEq] at he'
    subst he'
    refine ⟨e, he, rfl, ?_⟩
    rw [if_pos rfl]
    show e.budget - level - 1 = e.budget - ((level + 1 : Nat) : Int)
    omega
  · refine ⟨e', ?_, rfl, ?_⟩
    · simpa [hev] using he'
    · simp [hev]

/-- Events as evaluations leave them behind: every handler that starts returns, and every tree was
weighed against what was left. -/
structure Orderly (evaluators : List Evaluator) (events : List Event) : Prop where
  settled : ∀ running, events.foldl Event.follow running = running
  weighed : ∀ front ev depth accepted rest,
    events = front ++ .attempted ev depth accepted :: rest →
      Weighed evaluators front ev depth accepted

/-- An event that is about neither a handler nor a tree. -/
def Event.IsPlain (x : Event) : Prop :=
  (∀ running, follow running x = running) ∧ ∀ ev depth accepted, x ≠ .attempted ev depth accepted

namespace Orderly

variable {evaluators : List Evaluator} {es fs : List Event}

theorem nil : Orderly evaluators [] :=
  ⟨fun _ => rfl, fun front _ _ _ rest h => by simp at h⟩

theorem append (he : Orderly evaluators es) (hf : Orderly evaluators fs) :
    Orderly evaluators (es ++ fs) := by
  refine ⟨fun running => ?_, fun front ev depth accepted rest h => ?_⟩
  · rw [List.foldl_append, he.settled, hf.settled]
  · rcases List.append_eq_append_iff.1 h with ⟨front', rfl, hsplit⟩ | ⟨rest', rfl, hsplit⟩
    · -- The tree comes behind the first events, which leave no handler running.
      obtain ⟨e, running, hev, hrunning, hiff⟩ := hf.weighed front' ev depth accepted rest hsplit
      refine ⟨e, running, hev, fun outer => ?_, hiff⟩
      rw [List.foldl_append, he.settled, hrunning]
    · cases rest' with
      | nil =>
        rw [List.nil_append] at hsplit
        obtain ⟨e, running, hev, hrunning, hiff⟩ := hf.weighed [] ev depth accepted rest hsplit.symm
        refine ⟨e, running, hev, fun outer => ?_, hiff⟩
        rw [List.append_nil] at he
        rw [he.settled, ← hrunning]
        rfl
      | cons x rest' =>
        cases hsplit
        exact he.weighed front ev depth accepted rest' rfl

theorem of_plain (h : ∀ x ∈ es, x.IsPlain) : Orderly evaluators es := by
  refine ⟨fun running => ?_, fun front ev depth accepted rest hsplit => ?_⟩
  · induction es with
    | nil => rfl
    | cons x es ih =>
      rw [List.foldl_cons, (h x List.mem_cons_self).1]
      exact ih fun y hy => h y (List.mem_cons_of_mem x hy)
  · have hmem : .attempted ev depth accepted ∈ es := by
      rw [hsplit]
      exact List.mem_append_right _ List.mem_cons_self
    exact absurd rfl ((h _ hmem).2 ev depth accepted)

/-- A tree that is weighed when no handler has started. -/
theorem attempt {ev depth : Nat} {e : Evaluator} {accepted : Bool} (he : evaluators[ev]? = some e)
    (h : accepted = true ↔ (depth : Int) ≤ e.budget) :
    Orderly evaluators [.attempted ev depth accepted] := by
  refine ⟨fun _ => rfl, fun front ev' depth' accepted' rest hsplit => ?_⟩
  cases front with
  | nil =>
    cases hsplit
    refine ⟨e, [], he, fun _ => rfl, h.trans ?_⟩
    simp [depthTaken]
  | cons x front => simp at hsplit

/-- **A handler.** It starts for a node at `level` and returns. What happens meanwhile is weighed
against what is left to its evaluator below the node. -/
theorem bracket {ev level : Nat} {e : Evaluator} (he : evaluators[ev]? = some e)
    (hes : Orderly (Evaluator.setRemaining evaluators ev (some (e.budget - level))) es)
    (hfs : ∀ x ∈ fs, x.IsPlain) (command : String) (values : List Value) (isBuiltin : Bool) :
    Orderly evaluators
      (.invoked ev level command values isBuiltin :: es ++ fs ++ [.returned ev]) := by
  have hplain : Orderly evaluators fs := .of_plain hfs
  refine ⟨fun running => ?_, fun front ev' depth accepted rest hsplit => ?_⟩
  · rw [List.foldl_append, List.foldl_append, List.foldl_cons (l := es), hes.settled, hplain.settled]
    rfl
  · have hlate : .attempted ev' depth accepted ∉ fs ++ [.returned ev] := by
      intro hmem
      rcases List.mem_append.1 hmem with hmem | hmem
      · exact (hfs _ hmem).2 ev' depth accepted rfl
      · cases List.mem_singleton.1 hmem
    cases front with
    | nil => cases hsplit
    | cons start front =>
      rw [List.append_assoc, List.cons_append, List.cons_append, List.cons.injEq] at hsplit
      obtain ⟨rfl, hsplit⟩ := hsplit
      -- So the tree is one of those that were weighed while the handler ran.
      obtain ⟨later, rfl⟩ : ∃ later, es = front ++ .attempted ev' depth accepted :: later := by
        rcases List.append_eq_append_iff.1 hsplit with ⟨front', -, hrest⟩ | ⟨later, hes, hrest⟩
        · exact absurd (hrest ▸ List.mem_append_right _ List.mem_cons_self) hlate
        · cases later with
          | nil => exact absurd (hrest ▸ List.mem_cons_self) hlate
          | cons x later =>
            cases hrest
            exact ⟨later, hes⟩
      obtain ⟨e', running, he', hrunning, hiff⟩ := hes.weighed front ev' depth accepted later rfl
      obtain ⟨e₀, he₀, -, hbudget⟩ := budget_of_setRemaining he he'
      refine ⟨e₀, running ++ [⟨ev, level⟩], he₀, fun outer => ?_, hiff.trans ?_⟩
      · rw [List.foldl_cons, hrunning, List.append_assoc]
        rfl
      · rw [depthTaken_append, depthTaken_singleton, hbudget]
        dsimp only
        omega

end Orderly

/-- No handler of any evaluator is running. -/
def World.AtRest (w : World Ctx) : Prop := ∀ e ∈ w.evaluators, e.remaining = none

instance (w : World Ctx) : Decidable w.AtRest :=
  inferInstanceAs (Decidable (∀ e ∈ w.evaluators, e.remaining = none))

/-! ### Continued worlds -/

/-- The second world has the evaluators of the first, and its record goes on from there with
orderly events. -/
structure World.Continues (w w' : World Ctx) : Prop where
  evaluators : w'.evaluators = w.evaluators
  events : ∃ es, w'.events.toList = w.events.toList ++ es ∧ Orderly w.evaluators es

namespace World

variable {w w' w'' : World Ctx}

theorem Continues.refl (w : World Ctx) : w.Continues w :=
  ⟨rfl, [], (List.append_nil _).symm, .nil⟩

/-- The context and the tables do not matter. -/
theorem Continues.of_eq (hevaluators : w'.evaluators = w.evaluators)
    (hevents : w'.events = w.events) : w.Continues w' :=
  ⟨hevaluators, [], by rw [hevents, List.append_nil], .nil⟩

theorem Continues.trans (h : w.Continues w') (h' : w'.Continues w'') : w.Continues w'' := by
  obtain ⟨es, hes, horderly⟩ := h.events
  obtain ⟨fs, hfs, horderly'⟩ := h'.events
  rw [h.evaluators] at horderly'
  refine ⟨h'.evaluators.trans h.evaluators, es ++ fs, ?_, horderly.append horderly'⟩
  rw [hfs, hes, List.append_assoc]

theorem Continues.isPrefix (h : w.Continues w') : w.events.toList <+: w'.events.toList := by
  obtain ⟨es, hes, -⟩ := h.events
  exact ⟨es, hes.symm⟩

theorem continues_recordAll (w : World Ctx) {es : List Event} (h : ∀ x ∈ es, x.IsPlain) :
    w.Continues (w.recordAll es) :=
  ⟨rfl, es, by simp [recordAll], .of_plain h⟩

theorem continues_record (w : World Ctx) {x : Event} (h : x.IsPlain) : w.Continues (w.record x) := by
  refine ⟨rfl, [x], by simp [record], .of_plain fun y hy => ?_⟩
  rw [List.mem_singleton.1 hy]
  exact h

/-- An evaluator that weighs a tree against what it has left. -/
theorem continues_attempt {ev depth : Nat} {e : Evaluator} {accepted : Bool}
    (he : w.evaluators[ev]? = some e) (h : accepted = true ↔ (depth : Int) ≤ e.budget) :
    w.Continues (w.record (.attempted ev depth accepted)) :=
  ⟨rfl, _, by simp [record], .attempt he h⟩

/-- What a table tells of a call is only which deciders gave no decision. -/
theorem isPlain_of_mem_resolve {H : Type} {table : Table H} {name : String} {args : List String}
    {x : Event} (hx : x ∈ (table.resolve name args).2) : x.IsPlain := by
  have htrouble : ∀ entry denial, Table.troubleEvent (H := H) entry denial = some x →
      x.IsPlain := by
    intro entry denial h
    obtain ⟨error, -, rfl⟩ := Option.map_eq_some_iff.1 h
    exact ⟨fun _ => rfl, nofun⟩
  simp only [Table.resolve] at hx
  split at hx <;>
    · obtain ⟨⟨entry, denial⟩, -, h⟩ := List.mem_filterMap.1 hx
      exact htrouble entry denial h

theorem continues_resolve (w : World Ctx) (t : Nat) (name : String) (args : List String) :
    w.Continues (w.resolve t name args).2 :=
  w.continues_recordAll fun _ hx => isPlain_of_mem_resolve hx

theorem continues_register (w : World Ctx) (t : Nat) (r : Registration (Handler Ctx)) :
    w.Continues (w.register t r).2 := by
  unfold register
  split
  · exact .refl w
  · rename_i entry table _
    have hset : w.Continues (w.setTable t table) := .of_eq rfl rfl
    exact hset.trans (continues_record _ ⟨fun _ => rfl, nofun⟩)

/-- Evaluations in worlds of these evaluators continue the world. -/
def SettlesOn (Ctx : Type) (es : List Evaluator) : Prop :=
  ∀ (v : World Ctx), v.evaluators = es → ∀ ev input, v.Continues (v.evaluate ev input).2

end World

open World

/-! ### Programs -/

namespace Program

variable {t : Nat} {w : World Ctx}

/-- **Actions.** Every action of a program continues the world. -/
theorem act_continues {p p' : Program Ctx} {w' : World Ctx} (h : SettlesOn Ctx w.evaluators)
    (hact : p.act t w = some (p', w')) : w.Continues w' := by
  cases p with
  | done text => cases hact
  | fail failure => cases hact
  | read next =>
    cases hact
    exact .refl w
  | write context next =>
    cases hact
    exact .of_eq rfl rfl
  | consult next =>
    cases hact
    exact .refl w
  | lookup name args next =>
    cases hact
    exact w.continues_resolve t name args
  | choose number next =>
    simp only [act] at hact
    split at hact <;> cases hact <;> exact .refl w
  | register ev name decider form body next =>
    simp only [act] at hact
    split at hact <;> cases hact
    · exact .refl w
    · exact w.continues_register _ _
  | evaluate ev input next =>
    simp only [act] at hact
    split at hact <;> cases hact
    · exact .refl w
    · exact h w rfl ev input
  | misread ev length =>
    simp only [act] at hact
    split at hact
    · cases hact
      exact .refl w
    · split at hact <;> cases hact
      · exact w.continues_record ⟨fun _ => rfl, fun _ _ _ h => by cases h⟩
      · exact .refl w

theorem Reaches.continues {a b : Program Ctx × World Ctx} (hreach : Reaches t a b)
    (h : SettlesOn Ctx a.2.evaluators) : a.2.Continues b.2 := by
  induction hreach with
  | refl => exact .refl _
  | tail _ hact ih =>
    rw [← ih.evaluators] at h
    exact ih.trans (act_continues h hact)

theorem run_continues (h : SettlesOn Ctx w.evaluators) (p : Program Ctx) :
    w.Continues (p.run evaluation t w).2 := by
  obtain ⟨p', hreach, -⟩ := exists_reaches_end t p w
  exact hreach.continues h

end Program

/-! ### Instructions -/

namespace Machine

variable {ev : Nat} {e : Evaluator} {w : World Ctx}

theorem isPlain_of_mem_failureEvents {command : String} {result : Except Failure String} {x : Event}
    (hx : x ∈ failureEvents command result) : x.IsPlain := by
  unfold failureEvents at hx
  split at hx
  · rw [List.mem_singleton.1 hx]
    exact ⟨fun _ => rfl, nofun⟩
  · rw [List.mem_singleton.1 hx]
    exact ⟨fun _ => rfl, nofun⟩
  · rw [List.mem_singleton.1 hx]
    exact ⟨fun _ => rfl, nofun⟩
  · cases hx

/-- A handler that has run: its failure and its return are recorded, and the evaluators are as they
were. -/
theorem handle_eq (ev : Nat) (e : Evaluator) (level : Nat) (entry : Entry (Handler Ctx))
    (values : List Value) (w : World Ctx) :
    (machine ev e).handle level entry values w =
      let ended := (entry.handler.run values).run evaluation e.table
        ((machine ev e).started level entry values w)
      (ended.1,
        { (ended.2.recordAll (failureEvents entry.name ended.1)).record (.returned ev) with
          evaluators := w.evaluators }) := by
  simp only [handle, World.record, World.recordAll, Array.push_append]
  rfl

/-- **Handlers.** A handler that was invoked and has returned continues the world. -/
theorem handle_continues (he : w.evaluators[ev]? = some e) (level : Nat)
    (entry : Entry (Handler Ctx)) (values : List Value)
    (h : SettlesOn Ctx (Evaluator.setRemaining w.evaluators ev (some (e.budget - level)))) :
    w.Continues ((machine ev e).handle level entry values w).2 := by
  obtain ⟨-, es, hes, horderly⟩ := Program.run_continues (t := e.table)
    (w := (machine ev e).started level entry values w) h (entry.handler.run values)
  rw [handle_eq]
  rcases hrun : (entry.handler.run values).run evaluation e.table
    ((machine ev e).started level entry values w) with ⟨result, ended⟩
  rw [hrun] at hes
  refine ⟨rfl, _, ?_, horderly.bracket he
    (fun x (hx : x ∈ failureEvents entry.name result) => isPlain_of_mem_failureEvents hx) entry.name
    values entry.handler.isBuiltin⟩
  simp only [World.record, World.recordAll, Array.toList_push, Array.toList_append] at hes ⊢
  rw [hes]
  simp [started, machine]

theorem step_continues (he : w.evaluators[ev]? = some e) (i : Instruction) (stack : List String)
    (h : ∀ path name arity, i = .call path name arity →
      SettlesOn Ctx (Evaluator.setRemaining w.evaluators ev (some (e.budget - path.length)))) :
    w.Continues ((machine ev e).step i stack w).2 := by
  cases i with
  | push text => exact .refl w
  | call path name arity =>
    have hsettles := h path name arity rfl
    have hresolve := w.continues_resolve e.table name (stack.take arity).reverse
    simp only [step]
    have htable : (machine ev e : Machine Ctx).table = e.table := rfl
    rw [htable]
    rcases hres : w.resolve e.table name (stack.take arity).reverse with ⟨_ | ⟨entry, values⟩, w₁⟩
    · rw [hres] at hresolve
      exact hresolve
    · rw [hres] at hresolve
      have hkeep : w₁.evaluators = w.evaluators := hresolve.evaluators
      rw [← hkeep] at hsettles he
      have hhandle : w₁.Continues ((machine ev e).handle path.length entry values w₁).2 :=
        handle_continues he path.length entry values hsettles
      dsimp only
      rcases hrun : (machine ev e).handle path.length entry values w₁ with ⟨_ | text, w₂⟩ <;>
        · rw [hrun] at hhandle
          exact hresolve.trans hhandle

/-- **Instructions.** A run of instructions continues the world, whether or not it is stopped. -/
theorem run_continues (he : w.evaluators[ev]? = some e) (code : List Instruction)
    (stack : List String)
    (h : ∀ path name arity, .call path name arity ∈ code →
      SettlesOn Ctx (Evaluator.setRemaining w.evaluators ev (some (e.budget - path.length)))) :
    w.Continues ((machine ev e).run code stack w).2 := by
  induction code generalizing stack w with
  | nil => exact .refl w
  | cons i code ih =>
    have hfirst : w.Continues ((machine ev e).step i stack w).2 :=
      step_continues he i stack fun path name arity hi =>
        h path name arity (hi ▸ List.mem_cons_self)
    rw [run]
    rcases hstep : (machine ev e).step i stack w with ⟨halt | stack', w'⟩
    · rw [hstep] at hfirst
      exact hfirst
    · rw [hstep] at hfirst
      have hkeep : w'.evaluators = w.evaluators := hfirst.evaluators
      rw [← hkeep] at he h
      exact hfirst.trans (ih he stack' fun path name arity hmem =>
        h path name arity (List.mem_cons_of_mem i hmem))

end Machine

/-! ### Evaluation -/

namespace World

/-- Where evaluations with less slack continue the world, so do the handlers of a tree that
fits. -/
theorem settlesOn_of_lt {es : List Evaluator} {ev : Nat} {e : Evaluator} {call : Call}
    (h : ∀ es', Evaluator.totalSlack es' < Evaluator.totalSlack es → SettlesOn Ctx es')
    (he : es[ev]? = some e) (hfits : (call.depth : Int) ≤ e.budget) (path : List Nat)
    (name : String) (arity : Nat) (hmem : .call path name arity ∈ call.postOrder) :
    SettlesOn Ctx (Evaluator.setRemaining es ev (some (e.budget - path.length))) := by
  have hlevel := Call.level_le_depth hmem
  exact h _ (totalSlack_setRemaining_lt (by omega) he)

theorem evaluate_tree_continues {w : World Ctx} {ev : Nat} {e : Evaluator}
    (h : ∀ es', Evaluator.totalSlack es' < Evaluator.totalSlack w.evaluators → SettlesOn Ctx es')
    (he : w.evaluators[ev]? = some e) (call : Call) :
    w.Continues (w.evaluate ev (.tree call)).2 := by
  by_cases hfits : (call.depth : Int) ≤ e.budget
  · have hstart : w.Continues (w.record (.attempted ev call.depth true)) :=
      continues_attempt he (iff_of_true rfl hfits)
    rw [evaluate_tree_accepted he hfits]
    refine hstart.trans (Machine.run_continues ?_ call.postOrder [] (settlesOn_of_lt h he hfits))
    exact he
  · rw [evaluate_tree_refused he (by omega)]
    exact continues_attempt he (iff_of_false Bool.false_ne_true hfits)

theorem evaluateEach_continues {ev : Nat} {inputs : List Input} :
    ∀ {w : World Ctx} (last : Answer),
      (∀ input ∈ inputs, ∀ v : World Ctx, v.evaluators = w.evaluators →
        v.Continues (v.evaluate ev input).2) →
      w.Continues (evaluateEach ev last inputs w).2 := by
  induction inputs with
  | nil => exact fun _ _ => .refl _
  | cons input inputs ih =>
    intro w last h
    have hfirst := h input List.mem_cons_self w rfl
    rw [evaluateEach]
    split
    · refine hfirst.trans (ih _ fun other hother v hv => ?_)
      exact h other (List.mem_cons_of_mem input hother) v (hv.trans hfirst.evaluators)
    · exact hfirst

/-- The induction over nested evaluations is on the slack of the evaluators. -/
theorem settlesOn (es : List Evaluator) : SettlesOn Ctx es := by
  induction hn : Evaluator.totalSlack es using Nat.strongRecOn generalizing es with
  | ind n ih =>
    intro w hw ev input
    have hless : ∀ es', Evaluator.totalSlack es' < Evaluator.totalSlack w.evaluators →
        SettlesOn Ctx es' := fun es' hlt => ih _ (by rw [← hn, ← hw]; exact hlt) es' rfl
    cases he : w.evaluators[ev]? with
    | none =>
      rw [evaluate_none he]
      exact .refl w
    | some e =>
      rw [evaluate_eq_each he]
      cases input.trees e.limits with
      | error error => exact w.continues_record ⟨fun _ => rfl, nofun⟩
      | ok calls =>
        refine evaluateEach_continues _ fun tree htree v hv => ?_
        obtain ⟨call, -, rfl⟩ := List.mem_map.1 htree
        rw [← hv] at hless he
        exact evaluate_tree_continues hless he call

/-- **Evaluations settle.** Behind an evaluation every evaluator is as it was, and every handler
that was started has returned. -/
theorem continues_evaluate (w : World Ctx) (ev : Nat) (input : Input) :
    w.Continues (w.evaluate ev input).2 :=
  settlesOn w.evaluators w rfl ev input

theorem continues_each (w : World Ctx) (ev : Nat) (last : Answer) (inputs : List Input) :
    w.Continues (evaluateEach ev last inputs w).2 :=
  evaluateEach_continues last fun input _ v _ => v.continues_evaluate ev input

theorem continues_machine {w : World Ctx} {ev : Nat} {e : Evaluator}
    (he : w.evaluators[ev]? = some e) (code : List Instruction) (stack : List String) :
    w.Continues ((machine ev e).run code stack w).2 :=
  Machine.run_continues he code stack fun _ _ _ _ => settlesOn _

theorem continues_program (w : World Ctx) (t : Nat) (p : Program Ctx) :
    w.Continues (p.run evaluation t w).2 :=
  Program.run_continues (settlesOn _) p

theorem continues_reaches {t : Nat} {a b : Program Ctx × World Ctx} (h : Program.Reaches t a b) :
    a.2.Continues b.2 :=
  h.continues (settlesOn _)

end World

end CommandShell
