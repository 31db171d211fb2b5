import CommandShell.Proofs.Reentry
import Mathlib.Logic.Relation

/-!
# Programs action by action

The program of a handler is run from its first action to its end. Here the run is taken apart:
`act` performs the first action of a program and gives what is left of it. Nested evaluations are
one action each. Between two actions a program stands at a point of its run that can be named: what
is left of it, and the world it has come to.

* `run_of_act` — an action leads from a run to the run of what is left;
* `act_induction` — what holds of a program if it holds behind its first action holds of all;
* `exists_reaches_end` — a run is a row of actions up to an end of the program.
-/

namespace CommandShell

variable {Ctx : Type}

namespace Program

/-- The first action of a program of a command that was found in table `t`: what is left of the
program, and the world behind the action. A program at its end has none. -/
def act (t : Nat) : Program Ctx → World Ctx → Option (Program Ctx × World Ctx)
  | done _, _ => none
  | fail _, _ => none
  | read next, w => some (next w.context, w)
  | write context next, w => some (next, { w with context })
  | consult next, w => some (next ((w.table t).map (·.form)), w)
  | lookup name args next, w =>
    some (next (((w.resolve t name args).1.map (·.1.signature)).mapError (·.failure)),
      (w.resolve t name args).2)
  | choose number next, w =>
    match w.evaluator? number with
    | none => some (fail (.fault .listIndex), w)
    | some (ev, _) => some (next ev, w)
  | register ev name decider form body next, w =>
    match w.evaluators[ev]? with
    | none => some (fail (.fault .listIndex), w)
    | some e =>
      let (result, w) := w.register e.table ⟨name, decider, .handler { form, run := body }⟩
      some (next (result.map fun _ => ()), w)
  | evaluate ev input next, w =>
    match w.evaluators[ev]? with
    | none => some (fail (.fault .listIndex), w)
    | some _ => some (next (w.evaluate ev input).1, (w.evaluate ev input).2)
  | misread ev length, w =>
    match w.evaluators[ev]? with
    | none => some (fail (.fault .listIndex), w)
    | some e =>
      if e.limits.maxLength < length then
        some (fail (.fault (.wrongKind "can't concat str to bytes")),
          w.record (.overlong ev length))
      else some (fail (.fault (.lacking "int" "isspace")), w)

variable {t : Nat} {p p' : Program Ctx} {w w' : World Ctx}

/-- **One action.** The run of a program goes on with what is left behind its first action. -/
theorem run_of_act (h : p.act t w = some (p', w')) :
    p.run World.evaluation t w = p'.run World.evaluation t w' := by
  cases p with
  | done text => cases h
  | fail failure => cases h
  | read next => cases h; rfl
  | write context next => cases h; rfl
  | consult next => cases h; rfl
  | lookup name args next => cases h; rfl
  | choose number next =>
    simp only [act] at h
    split at h <;> rename_i hfound <;> cases h <;> simp only [run, hfound]
  | register ev name decider form body next =>
    simp only [act] at h
    split at h <;> rename_i hfound <;> cases h <;> simp only [run, hfound]
  | evaluate ev input next =>
    simp only [act] at h
    split at h <;> rename_i hfound <;> cases h <;> simp only [run, hfound, World.evaluation]
  | misread ev length =>
    simp only [act] at h
    split at h <;> rename_i hfound
    · cases h
      simp only [run, hfound]
    · split at h <;> rename_i hlength <;> cases h <;> simp only [run, hfound, hlength, if_true, if_false]

/-- A program without an action is at its end. -/
theorem ended_of_act (h : p.act t w = none) :
    (∃ text, p = done text) ∨ ∃ failure, p = fail failure := by
  cases p with
  | done text => exact .inl ⟨text, rfl⟩
  | fail failure => exact .inr ⟨failure, rfl⟩
  | choose number next =>
    simp only [act] at h
    split at h <;> cases h
  | register ev name decider form body next =>
    simp only [act] at h
    split at h <;> cases h
  | evaluate ev input next =>
    simp only [act] at h
    split at h <;> cases h
  | misread ev length =>
    simp only [act] at h
    split at h
    · cases h
    · split at h <;> cases h
  | _ => cases h

/-- **Induction along a run.** What is left behind an action is a part of the program or one of its
ends, so a property of programs in worlds only has to be shown from behind the first action. -/
theorem act_induction {motive : Program Ctx → World Ctx → Prop}
    (h : ∀ p w, (∀ p' w', p.act t w = some (p', w') → motive p' w') → motive p w)
    (p : Program Ctx) (w : World Ctx) : motive p w := by
  have hfail : ∀ failure w, motive (fail failure) w := fun failure w => h _ w nofun
  induction p generalizing w with
  | done text => exact h _ w nofun
  | fail failure => exact hfail failure w
  | read next ih =>
    refine h _ w fun p' w' hact => ?_
    cases hact
    exact ih _ _
  | write context next ih =>
    refine h _ w fun p' w' hact => ?_
    cases hact
    exact ih _
  | consult next ih =>
    refine h _ w fun p' w' hact => ?_
    cases hact
    exact ih _ _
  | lookup name args next ih =>
    refine h _ w fun p' w' hact => ?_
    cases hact
    exact ih _ _
  | choose number next ih =>
    refine h _ w fun p' w' hact => ?_
    simp only [act] at hact
    split at hact <;> cases hact
    · exact hfail _ _
    · exact ih _ _
  | register ev name decider form body next _ ih =>
    refine h _ w fun p' w' hact => ?_
    simp only [act] at hact
    split at hact <;> cases hact
    · exact hfail _ _
    · exact ih _ _
  | evaluate ev input next ih =>
    refine h _ w fun p' w' hact => ?_
    simp only [act] at hact
    split at hact <;> cases hact
    · exact hfail _ _
    · exact ih _ _
  | misread ev length =>
    refine h _ w fun p' w' hact => ?_
    simp only [act] at hact
    split at hact
    · cases hact
      exact hfail _ _
    · split at hact <;> cases hact <;> exact hfail _ _

/-- A program in a world comes, action by action, to what is left of it in another world. -/
def Reaches (t : Nat) : Program Ctx × World Ctx → Program Ctx × World Ctx → Prop :=
  Relation.ReflTransGen fun a b => a.1.act t a.2 = some b

/-- **Runs end.** A run is a row of actions up to an end of the program, in the world that the run
gives. -/
theorem exists_reaches_end (t : Nat) (p : Program Ctx) (w : World Ctx) :
    ∃ p', Reaches t (p, w) (p', (p.run World.evaluation t w).2) ∧
      ((∃ text, p' = done text ∧ (p.run World.evaluation t w).1 = .ok text) ∨
        ∃ failure, p' = fail failure ∧ (p.run World.evaluation t w).1 = .error failure) := by
  induction p, w using act_induction (t := t) with
  | h p w ih =>
    cases hact : p.act t w with
    | none =>
      refine ⟨p, ?_⟩
      rcases ended_of_act hact with ⟨text, rfl⟩ | ⟨failure, rfl⟩
      · exact ⟨.refl, .inl ⟨text, rfl, rfl⟩⟩
      · exact ⟨.refl, .inr ⟨failure, rfl, rfl⟩⟩
    | some next =>
      obtain ⟨p₁, w₁⟩ := next
      obtain ⟨p', hreach, hend⟩ := ih p₁ w₁ hact
      rw [run_of_act hact]
      exact ⟨p', .head hact hreach, hend⟩

end Program

end CommandShell
