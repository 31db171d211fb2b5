import CommandShell.Proofs.ReadingLimits
import CommandShell.Proofs.Record
import Mathlib.Data.List.Forall2
import Mathlib.Data.List.Infix

/-!
# Two runs side by side

Two worlds are in *lockstep* if they have the same tables and the same context, the second one's
evaluators have at least as much room as those of the first, and the same has happened in both
since their runs began. What happened before does not matter: nothing ever looks at the record.

Evaluation keeps worlds in lockstep, and gives the same answer in both, as long as one of two
things holds: the evaluators are equal, or the first run exceeds no limit.

* `act_follows`, `run_follows` — actions and runs of programs;
* `handle_follows`, `Machine.run_follows` — handlers and instructions;
* `World.follows_evaluate` — **what happens in the first world happens in the second**.
-/

namespace CommandShell

variable {Ctx : Type}

/-! ### Exceeded limits -/

/-- Whether an event reports a text that is too long or a nesting that is too deep. -/
def Event.exceedsLimit : Event → Bool
  | unparsed _ e => e.exceedsLimit
  | overlong .. => true
  | attempted _ _ accepted => !accepted
  | _ => false

/-- No limit is exceeded in the record behind its beginning. -/
def World.ClearSince (start : List Event) (w : World Ctx) : Prop :=
  ∀ x ∈ w.events.toList.drop start.length, x.exceedsLimit = false

theorem World.ClearSince.anti {start : List Event} {w w' : World Ctx}
    (h : w'.ClearSince start) (hevents : w.events.toList <+: w'.events.toList) :
    w.ClearSince start :=
  fun x hx => h x ((hevents.drop _).subset hx)

/-! ### Lockstep -/

/-- The second evaluator does what the first one does, and has at least as much room. -/
structure Evaluator.Roomier (e e' : Evaluator) : Prop where
  table : e'.table = e.table
  limits : e.limits.Raised e'.limits
  budget : e.budget ≤ e'.budget

theorem Evaluator.Roomier.refl (e : Evaluator) : e.Roomier e :=
  ⟨rfl, .refl _, Int.le_refl _⟩

/-- Evaluators have more room also while a handler runs that was given more. -/
theorem Evaluator.roomier_setRemaining {es es' : List Evaluator}
    (h : List.Forall₂ Evaluator.Roomier es es') (ev : Nat) {remaining remaining' : Int}
    (hle : remaining ≤ remaining') :
    List.Forall₂ Evaluator.Roomier (setRemaining es ev (some remaining))
      (setRemaining es' ev (some remaining')) := by
  induction h generalizing ev with
  | nil =>
    simp only [setRemaining, List.modify_nil]
    exact .nil
  | cons hfirst hrest ih =>
    cases ev with
    | zero =>
      refine .cons ⟨hfirst.table, hfirst.limits, ?_⟩ hrest
      simp only [budget]
      omega
    | succ ev => exact .cons hfirst (ih ev)

/-- Two worlds whose records began with `start` and `start'` have come the same way since. -/
structure Lockstep (start start' : List Event) (w w' : World Ctx) : Prop where
  tables : w'.tables = w.tables
  context : w'.context = w.context
  evaluators : List.Forall₂ Evaluator.Roomier w.evaluators w'.evaluators
  events : ∃ es, w.events.toList = start ++ es ∧ w'.events.toList = start' ++ es

/-- Equal evaluators have equal partners. -/
theorem partner_eq {w w' : World Ctx} {ev : Nat} {e e' : Evaluator}
    (he : w.evaluators[ev]? = some e) (he' : w'.evaluators[ev]? = some e')
    (hsame : w'.evaluators = w.evaluators) : e' = e := by
  rw [hsame, he] at he'
  exact (Option.some.inj he').symm

/-- The same result, in worlds that are in lockstep. -/
def Alike {α : Type} (start start' : List Event) (x x' : α × World Ctx) : Prop :=
  x'.1 = x.1 ∧ Lockstep start start' x.2 x'.2

theorem Alike.exists_eq {α : Type} {start start' : List Event} {x x' : α × World Ctx}
    (h : Alike start start' x x') :
    ∃ result v v', x = (result, v) ∧ x' = (result, v') ∧ Lockstep start start' v v' :=
  ⟨x.1, x.2, x'.2, rfl, by rw [← h.1], h.2⟩

/-- Nested evaluations keep worlds of these evaluators in lockstep, if the evaluators are equal or
no limit is exceeded. -/
def FollowOn (Ctx : Type) (start start' : List Event) (es es' : List Evaluator) : Prop :=
  ∀ v v' : World Ctx, v.evaluators = es → v'.evaluators = es' → Lockstep start start' v v' →
    ∀ ev input, es' = es ∨ (v.evaluate ev input).2.ClearSince start →
      Alike start start' (v.evaluate ev input) (v'.evaluate ev input)

namespace Lockstep

variable {start start' : List Event} {w w' : World Ctx}

theorem table_eq (h : Lockstep start start' w w') (t : Nat) : w'.table t = w.table t := by
  rw [World.table, World.table, h.tables]

/-- An evaluator of one world has its partner in the other. -/
theorem evaluator_cases (h : Lockstep start start' w w') (ev : Nat) :
    (w.evaluators[ev]? = none ∧ w'.evaluators[ev]? = none) ∨
      ∃ e e', w.evaluators[ev]? = some e ∧ w'.evaluators[ev]? = some e' ∧ e.Roomier e' := by
  have hall := h.evaluators
  generalize w.evaluators = es at hall
  generalize w'.evaluators = es' at hall
  induction hall generalizing ev with
  | nil => exact .inl ⟨rfl, rfl⟩
  | cons hfirst _ ih =>
    cases ev with
    | zero => exact .inr ⟨_, _, rfl, rfl, hfirst⟩
    | succ ev => exact ih ev

theorem record (h : Lockstep start start' w w') (x : Event) :
    Lockstep start start' (w.record x) (w'.record x) := by
  obtain ⟨es, hes, hes'⟩ := h.events
  refine ⟨h.tables, h.context, h.evaluators, es ++ [x], ?_, ?_⟩
  · simp [World.record, hes]
  · simp [World.record, hes']

/-- An event that reports an exceeded limit ends the way on which no limit was exceeded. -/
theorem not_clearSince_record (h : Lockstep start start' w w') {x : Event}
    (hx : x.exceedsLimit = true) : ¬ (w.record x).ClearSince start := by
  obtain ⟨es, hes, -⟩ := h.events
  intro hclear
  have hfree := hclear x (by simp [World.record, hes])
  rw [hx] at hfree
  cases hfree

theorem recordAll (h : Lockstep start start' w w') (xs : List Event) :
    Lockstep start start' (w.recordAll xs) (w'.recordAll xs) := by
  obtain ⟨es, hes, hes'⟩ := h.events
  refine ⟨h.tables, h.context, h.evaluators, es ++ xs, ?_, ?_⟩
  · simp [World.recordAll, hes]
  · simp [World.recordAll, hes']

theorem resolve (h : Lockstep start start' w w') (t : Nat) (name : String) (args : List String) :
    Alike start start' (w.resolve t name args) (w'.resolve t name args) := by
  refine ⟨?_, ?_⟩
  · simp only [World.resolve, h.table_eq]
  · simp only [World.resolve, h.table_eq]
    exact h.recordAll _

theorem register (h : Lockstep start start' w w') (t : Nat) (r : Registration (Handler Ctx)) :
    Alike start start' (w.register t r) (w'.register t r) := by
  unfold World.register
  rw [h.table_eq]
  split
  · exact ⟨rfl, h⟩
  · rename_i entry table _
    have hset : Lockstep start start' (w.setTable t table) (w'.setTable t table) :=
      ⟨by simp only [World.setTable, h.tables], h.context, h.evaluators, h.events⟩
    exact ⟨rfl, hset.record _⟩

/-- A number finds the same evaluator in both worlds. -/
theorem evaluator?_cases (h : Lockstep start start' w w') (number : Int) :
    (w.evaluator? number = none ∧ w'.evaluator? number = none) ∨
      ∃ ev e e', w.evaluator? number = some (ev, e) ∧ w'.evaluator? number = some (ev, e') := by
  unfold World.evaluator?
  rw [← h.evaluators.length_eq]
  generalize (if number < 0 then number + w.evaluators.length else number) = index
  dsimp only
  by_cases hindex : index < 0
  · exact .inl ⟨if_pos hindex, if_pos hindex⟩
  · rw [if_neg hindex, if_neg hindex]
    rcases h.evaluator_cases index.toNat with ⟨hnone, hnone'⟩ | ⟨e, e', he, he', -⟩
    · exact .inl ⟨by rw [hnone]; rfl, by rw [hnone']; rfl⟩
    · exact .inr ⟨index.toNat, e, e', by rw [he]; rfl, by rw [he']; rfl⟩

end Lockstep

open World

/-! ### Programs -/

namespace Program

variable {start start' : List Event} {t : Nat} {w w' : World Ctx}

/-- **Actions.** What a program does in the first world it does in the second. -/
theorem act_follows {p q : Program Ctx} {v : World Ctx} (h : Lockstep start start' w w')
    (hnested : FollowOn Ctx start start' w.evaluators w'.evaluators)
    (hclear : w'.evaluators = w.evaluators ∨ v.ClearSince start)
    (hact : p.act t w = some (q, v)) :
    ∃ v', p.act t w' = some (q, v') ∧ Lockstep start start' v v' := by
  cases p with
  | done text => cases hact
  | fail failure => cases hact
  | read next =>
    cases hact
    refine ⟨w', ?_, h⟩
    rw [act, h.context]
  | write context next =>
    cases hact
    exact ⟨_, rfl, h.tables, rfl, h.evaluators, h.events⟩
  | consult next =>
    cases hact
    refine ⟨w', ?_, h⟩
    rw [act, h.table_eq]
  | lookup name args next =>
    cases hact
    obtain ⟨hresult, hworld⟩ := h.resolve t name args
    refine ⟨_, ?_, hworld⟩
    rw [act, hresult]
  | choose number next =>
    rcases h.evaluator?_cases number with ⟨hnone, hnone'⟩ | ⟨ev, e, e', hfound, hfound'⟩
    · simp only [act, hnone] at hact
      cases hact
      exact ⟨w', by simp only [act, hnone'], h⟩
    · simp only [act, hfound] at hact
      cases hact
      exact ⟨w', by simp only [act, hfound'], h⟩
  | register ev name decider form body next =>
    rcases h.evaluator_cases ev with ⟨hnone, hnone'⟩ | ⟨e, e', he, he', hroomier⟩
    · simp only [act, hnone] at hact
      cases hact
      exact ⟨w', by simp only [act, hnone'], h⟩
    · simp only [act, he] at hact
      cases hact
      obtain ⟨hresult, hworld⟩ :=
        h.register e.table ⟨name, decider, .handler { form, run := body }⟩
      refine ⟨_, ?_, hworld⟩
      simp only [act, he', hroomier.table, hresult]
  | evaluate ev input next =>
    rcases h.evaluator_cases ev with ⟨hnone, hnone'⟩ | ⟨e, e', he, he', -⟩
    · simp only [act, hnone] at hact
      cases hact
      exact ⟨w', by simp only [act, hnone'], h⟩
    · simp only [act, he] at hact
      cases hact
      obtain ⟨hresult, hworld⟩ := hnested w w' rfl rfl h ev input hclear
      refine ⟨_, ?_, hworld⟩
      simp only [act, he', hresult]
  | misread ev length =>
    rcases h.evaluator_cases ev with ⟨hnone, hnone'⟩ | ⟨e, e', he, he', hroomier⟩
    · simp only [act, hnone] at hact
      cases hact
      exact ⟨w', by simp only [act, hnone'], h⟩
    · by_cases hlong : e.limits.maxLength < length
      · simp only [act, he, if_pos hlong] at hact
        cases hact
        rcases hclear with hsame | hclear
        · exact ⟨_, by simp only [act, hsame, he, if_pos hlong], h.record _⟩
        · exact absurd hclear (h.not_clearSince_record rfl)
      · simp only [act, he, if_neg hlong] at hact
        cases hact
        have hfits : ¬ e'.limits.maxLength < length := by
          have := hroomier.limits.maxLength
          omega
        exact ⟨w', by simp only [act, he', if_neg hfits], h⟩

/-- **Programs.** A run of a program gives the same in both worlds, and leaves them in lockstep. -/
theorem run_follows (p : Program Ctx) (w : World Ctx) : ∀ w' : World Ctx,
    Lockstep start start' w w' → FollowOn Ctx start start' w.evaluators w'.evaluators →
      w'.evaluators = w.evaluators ∨ (p.run evaluation t w).2.ClearSince start →
        Alike start start' (p.run evaluation t w) (p.run evaluation t w') := by
  induction p, w using act_induction (t := t) with
  | h p w ih =>
    intro w' h hnested hclear
    cases hact : p.act t w with
    | none =>
      rcases ended_of_act hact with ⟨text, rfl⟩ | ⟨failure, rfl⟩
      · exact ⟨rfl, h⟩
      · exact ⟨rfl, h⟩
    | some next =>
      obtain ⟨q, v⟩ := next
      rw [run_of_act hact] at hclear ⊢
      -- Records only grow, so what the whole run does not exceed its first action does not either.
      have hrest := (v.continues_program t q).isPrefix
      obtain ⟨v', hact', hv⟩ :=
        act_follows h hnested (hclear.imp_right (·.anti hrest)) hact
      have hkeep := (act_continues (settlesOn _) hact).evaluators
      have hkeep' := (act_continues (settlesOn _) hact').evaluators
      rw [← hkeep, ← hkeep'] at hnested hclear
      rw [run_of_act hact']
      exact ih q v hact v' hv hnested hclear

end Program

/-! ### Instructions -/

namespace Machine

variable {start start' : List Event} {w w' : World Ctx} {ev : Nat} {e e' : Evaluator}

/-- While a handler runs, both its evaluators have as much less left. -/
theorem started_lockstep (h : Lockstep start start' w w') (hroomier : e.Roomier e') (level : Nat)
    (entry : Entry (Handler Ctx)) (values : List Value) :
    Lockstep start start' ((machine ev e).started level entry values w)
      ((machine ev e').started level entry values w') := by
  have hevents := (h.record (.invoked ev level entry.name values entry.handler.isBuiltin)).events
  refine ⟨h.tables, h.context, ?_, hevents⟩
  have hbudget := hroomier.budget
  exact Evaluator.roomier_setRemaining h.evaluators ev (by simp only [machine]; omega)

/-- **Handlers.** A handler runs in both worlds in the same way, and its evaluators are put back as
they were in each of them. -/
theorem handle_follows (h : Lockstep start start' w w') (he : w.evaluators[ev]? = some e)
    (he' : w'.evaluators[ev]? = some e') (hroomier : e.Roomier e') (level : Nat)
    (entry : Entry (Handler Ctx)) (values : List Value)
    (hnested : FollowOn Ctx start start'
      (Evaluator.setRemaining w.evaluators ev (some (e.budget - level)))
      (Evaluator.setRemaining w'.evaluators ev (some (e'.budget - level))))
    (hclear : w'.evaluators = w.evaluators ∨
      ((machine ev e).handle level entry values w).2.ClearSince start) :
    Alike start start' ((machine ev e).handle level entry values w)
      ((machine ev e').handle level entry values w') := by
  have hstart : Lockstep start start' ((machine ev e).started level entry values w)
      ((machine ev e').started level entry values w') :=
    started_lockstep h hroomier level entry values
  have hended : ((entry.handler.run values).run evaluation e.table
      ((machine ev e).started level entry values w)).2.events.toList <+:
        ((machine ev e).handle level entry values w).2.events.toList := by
    simp only [handle]
    rw [Array.toList_append]
    exact List.prefix_append _ _
  obtain ⟨hresult, hworld⟩ := Program.run_follows (t := e.table) (entry.handler.run values) _ _
    hstart hnested
    (hclear.imp (fun hsame => by simp only [started, partner_eq he he' hsame, hsame])
      (·.anti hended))
  have hreturned := (hworld.recordAll (failureEvents entry.name
    ((entry.handler.run values).run evaluation e.table
      ((machine ev e).started level entry values w)).1)).record (.returned ev)
  rw [handle_eq, handle_eq, hroomier.table]
  dsimp only
  rw [hresult]
  exact ⟨rfl, hreturned.tables, hreturned.context, h.evaluators, hreturned.events⟩

/-- What a step needs of nested evaluations: those of the handler of its call. -/
theorem step_follows (i : Instruction) (stack : List String) (h : Lockstep start start' w w')
    (he : w.evaluators[ev]? = some e) (he' : w'.evaluators[ev]? = some e')
    (hroomier : e.Roomier e')
    (hnested : ∀ path name arity, i = .call path name arity → FollowOn Ctx start start'
      (Evaluator.setRemaining w.evaluators ev (some (e.budget - path.length)))
      (Evaluator.setRemaining w'.evaluators ev (some (e'.budget - path.length))))
    (hclear : w'.evaluators = w.evaluators ∨
      ((machine ev e).step i stack w).2.ClearSince start) :
    Alike start start' ((machine ev e).step i stack w) ((machine ev e').step i stack w') := by
  cases i with
  | push text => exact ⟨rfl, h⟩
  | call path name arity =>
    have hnested := hnested path name arity rfl
    have hkeep := w.resolve_evaluators e.table name (stack.take arity).reverse
    have hkeep' := w'.resolve_evaluators e.table name (stack.take arity).reverse
    obtain ⟨result, v, v', hres, hres', hworld⟩ :=
      (h.resolve e.table name (stack.take arity).reverse).exists_eq
    have htable : (machine ev e : Machine Ctx).table = e.table := rfl
    have htable' : (machine ev e' : Machine Ctx).table = e.table := hroomier.table
    simp only [step, htable, htable', hres, hres'] at hclear ⊢
    rcases result with error | ⟨entry, values⟩
    · exact ⟨rfl, hworld⟩
    · rw [hres] at hkeep
      rw [hres'] at hkeep'
      dsimp only at hclear hkeep hkeep' ⊢
      rw [← hkeep] at he hnested hclear
      rw [← hkeep'] at he' hnested hclear
      have hhandled : v'.evaluators = v.evaluators ∨
          ((machine ev e).handle path.length entry values v).2.ClearSince start := by
        refine hclear.imp_right fun hclear => ?_
        rcases hrun : (machine ev e).handle path.length entry values v with ⟨_ | _, _⟩ <;>
          · rw [hrun] at hclear
            exact hclear
      obtain ⟨result, u, u', hrun, hrun', hended⟩ :=
        (handle_follows hworld he he' hroomier path.length entry values hnested hhandled).exists_eq
      rw [hrun, hrun']
      cases result <;> exact ⟨rfl, hended⟩

/-- **Instructions.** A run of instructions stops at the same place in both worlds, if it stops. -/
theorem run_follows (code : List Instruction) (stack : List String)
    (h : Lockstep start start' w w') (he : w.evaluators[ev]? = some e)
    (he' : w'.evaluators[ev]? = some e') (hroomier : e.Roomier e')
    (hnested : ∀ path name arity, .call path name arity ∈ code → FollowOn Ctx start start'
      (Evaluator.setRemaining w.evaluators ev (some (e.budget - path.length)))
      (Evaluator.setRemaining w'.evaluators ev (some (e'.budget - path.length))))
    (hclear : w'.evaluators = w.evaluators ∨
      ((machine ev e).run code stack w).2.ClearSince start) :
    Alike start start' ((machine ev e).run code stack w) ((machine ev e').run code stack w') := by
  induction code generalizing stack w w' with
  | nil => exact ⟨rfl, h⟩
  | cons i code ih =>
    have hkeep := (continues_machine he [i] stack).evaluators
    have hkeep' := (continues_machine he' [i] stack).evaluators
    rw [run_singleton] at hkeep hkeep'
    have hfirst : w'.evaluators = w.evaluators ∨
        ((machine ev e).step i stack w).2.ClearSince start := by
      refine hclear.imp_right (·.anti ?_)
      rw [run]
      rcases hstep : (machine ev e).step i stack w with ⟨halt | stack', v⟩
      · exact List.prefix_refl _
      · rw [hstep] at hkeep
        exact (continues_machine (w := v) (hkeep ▸ he) code stack').isPrefix
    obtain ⟨result, v, v', hstep, hstep', hworld⟩ := (step_follows i stack h he he' hroomier
      (fun path name arity hi => hnested path name arity (hi ▸ List.mem_cons_self)) hfirst).exists_eq
    rw [hstep] at hkeep
    rw [hstep'] at hkeep'
    rw [run, hstep] at hclear ⊢
    rw [run, hstep']
    rcases result with halt | stack'
    · exact ⟨rfl, hworld⟩
    · dsimp only at hkeep hkeep' hclear
      rw [← hkeep] at he hnested hclear
      rw [← hkeep'] at he' hnested hclear
      exact ih stack' hworld he he'
        (fun path name arity hmem => hnested path name arity (List.mem_cons_of_mem i hmem)) hclear

end Machine

/-! ### Evaluation -/

namespace World

variable {start start' : List Event} {w w' : World Ctx} {ev : Nat} {e e' : Evaluator}

/-- **Trees.** A tree that is refused exceeds a limit, so both evaluators refuse it or both run
it. -/
theorem evaluate_tree_follows (h : Lockstep start start' w w')
    (hnested : ∀ es es' : List Evaluator,
      Evaluator.totalSlack es < Evaluator.totalSlack w.evaluators → FollowOn Ctx start start' es es')
    (he : w.evaluators[ev]? = some e) (he' : w'.evaluators[ev]? = some e')
    (hroomier : e.Roomier e') (call : Call)
    (hclear : w'.evaluators = w.evaluators ∨
      (w.evaluate ev (.tree call)).2.ClearSince start) :
    Alike start start' (w.evaluate ev (.tree call)) (w'.evaluate ev (.tree call)) := by
  by_cases hfits : (call.depth : Int) ≤ e.budget
  · have hfits' : (call.depth : Int) ≤ e'.budget := Int.le_trans hfits hroomier.budget
    rw [evaluate_tree_accepted he hfits] at hclear ⊢
    rw [evaluate_tree_accepted he' hfits']
    obtain ⟨hresult, hworld⟩ := Machine.run_follows call.postOrder [] (h.record _) he he' hroomier
      (fun path name arity hmem => hnested _ _ (totalSlack_setRemaining_lt
        (Int.le_trans (Int.ofNat_le.2 (Call.level_le_depth hmem)) hfits) he)) hclear
    exact ⟨congrArg Machine.answer hresult, hworld⟩
  · rw [evaluate_tree_refused he (by omega)] at hclear ⊢
    rcases hclear with hsame | hclear
    · obtain rfl := partner_eq he he' hsame
      rw [evaluate_tree_refused he' (by omega)]
      exact ⟨rfl, h.record _⟩
    · exact absurd hclear (h.not_clearSince_record rfl)

theorem evaluateEach_follows {calls : List Call} {last : Answer} (h : Lockstep start start' w w')
    (hnested : ∀ es es' : List Evaluator,
      Evaluator.totalSlack es < Evaluator.totalSlack w.evaluators → FollowOn Ctx start start' es es')
    (he : w.evaluators[ev]? = some e) (he' : w'.evaluators[ev]? = some e')
    (hroomier : e.Roomier e')
    (hclear : w'.evaluators = w.evaluators ∨
      (evaluateEach ev last (calls.map .tree) w).2.ClearSince start) :
    Alike start start' (evaluateEach ev last (calls.map .tree) w)
      (evaluateEach ev last (calls.map .tree) w') := by
  induction calls generalizing w w' last with
  | nil => exact ⟨rfl, h⟩
  | cons call calls ih =>
    have hkeep := w.evaluate_evaluators ev (.tree call)
    have hkeep' := w'.evaluate_evaluators ev (.tree call)
    rw [List.map_cons, evaluateEach] at hclear ⊢
    rw [evaluateEach]
    have hfirst : w'.evaluators = w.evaluators ∨
        (w.evaluate ev (.tree call)).2.ClearSince start := by
      refine hclear.imp_right fun hclear => ?_
      split at hclear
      · exact hclear.anti (continues_each _ ev _ _).isPrefix
      · exact hclear
    obtain ⟨hresult, hworld⟩ := evaluate_tree_follows h hnested he he' hroomier call hfirst
    rw [hresult]
    split
    · rename_i hok
      rw [if_pos hok] at hclear
      rw [← hkeep] at he hnested hclear
      rw [← hkeep'] at he' hclear
      exact ih hworld hnested he he' hclear
    · exact ⟨hresult, hworld⟩

/-- The induction over nested evaluations is on the slack of the evaluators of the first world. -/
theorem followOn (start start' : List Event) (es es' : List Evaluator) :
    FollowOn Ctx start start' es es' := by
  induction hn : Evaluator.totalSlack es using Nat.strongRecOn generalizing es es' with
  | ind n ih =>
    intro w w' hw hw' h ev input hclear
    rw [← hw, ← hw'] at hclear
    have hnested : ∀ es es' : List Evaluator,
        Evaluator.totalSlack es < Evaluator.totalSlack w.evaluators →
          FollowOn Ctx start start' es es' :=
      fun es es' hlt => ih _ (by rw [← hn, ← hw]; exact hlt) es es' rfl
    rcases h.evaluator_cases ev with ⟨hnone, hnone'⟩ | ⟨e, e', he, he', hroomier⟩
    · rw [evaluate_none hnone, evaluate_none hnone']
      exact ⟨rfl, h⟩
    · rw [evaluate_eq_each he] at hclear ⊢
      rw [evaluate_eq_each he']
      have hread : input.trees e'.limits = input.trees e.limits ∨
          ∃ error, input.trees e.limits = .error error ∧ error.exceedsLimit = true :=
        Input.trees_raised hroomier.limits input
      -- Only an exceeded limit could be read differently, and that would be in the record.
      have htrees : input.trees e'.limits = input.trees e.limits := by
        rcases hclear with hsame | hclear
        · rw [partner_eq he he' hsame]
        · refine hread.resolve_right ?_
          rintro ⟨error, herror, hlimit⟩
          rw [herror] at hclear
          exact h.not_clearSince_record (x := .unparsed ev error) hlimit hclear
      rw [htrees]
      cases hcalls : input.trees e.limits with
      | error error => exact ⟨rfl, h.record _⟩
      | ok calls =>
        rw [hcalls] at hclear
        exact evaluateEach_follows h hnested he he' hroomier hclear

/-- **What happens in the first world happens in the second.** -/
theorem follows_evaluate (h : Lockstep start start' w w') (ev : Nat) (input : Input)
    (hclear : w'.evaluators = w.evaluators ∨ (w.evaluate ev input).2.ClearSince start) :
    Alike start start' (w.evaluate ev input) (w'.evaluate ev input) :=
  followOn start start' w.evaluators w'.evaluators w w' rfl rfl h ev input hclear

end World

end CommandShell
