import CommandShell.Proofs.Lockstep

/-!
# Raising the limits

Limits refuse inputs, and do nothing else. A run in which no limit is exceeded, nested evaluations
included, goes the same way under higher limits: a world and the world with raised limits are in
lockstep from the start on.

* `lockstep_withLimits` — raising the limits gives every evaluator more room;
* `evaluate_withLimits` — **a run that exceeds no limit is the same under raised limits**.
-/

namespace CommandShell

namespace World

variable {Ctx : Type}

/-- The world with other limits for its evaluators. -/
def withLimits (w : World Ctx) (limits : Nat → Limits) : World Ctx :=
  { w with evaluators := w.evaluators.mapIdx fun ev e => { e with limits := limits ev } }

/-- A handler that is running keeps the depth it was given. -/
theorem roomier_of_raised {e : Evaluator} {limits : Limits} (h : e.limits.Raised limits) :
    e.Roomier { e with limits } := by
  refine ⟨rfl, h, ?_⟩
  unfold Evaluator.budget
  cases e.remaining with
  | none => exact Int.ofNat_le.2 h.maxDepth
  | some remaining => exact Int.le_refl _

theorem lockstep_withLimits {w : World Ctx} {limits : Nat → Limits}
    (h : ∀ (ev : Nat) (e : Evaluator), w.evaluators[ev]? = some e → e.limits.Raised (limits ev)) :
    Lockstep w.events.toList w.events.toList w (w.withLimits limits) := by
  refine ⟨rfl, rfl, ?_, [], (List.append_nil _).symm, (List.append_nil _).symm⟩
  refine List.forall₂_iff_get.2 ⟨(List.length_mapIdx).symm, fun ev hev hev' => ?_⟩
  simp only [withLimits, List.get_eq_getElem, List.getElem_mapIdx]
  exact roomier_of_raised (h ev w.evaluators[ev] (List.getElem?_eq_getElem hev))

/-- **Raised limits go unnoticed.** If no evaluator ever reports a text that is too long or a
nesting that is too deep while an input is evaluated, not even to a handler that goes on
regardless, then under raised limits the input has the same feedback, the same happens in the same
order, and the context and the tables end up the same. The length of bytes that are given for a
text counts like that of a text. -/
theorem evaluate_withLimits (w : World Ctx) (limits : Nat → Limits)
    (hraised : ∀ (ev : Nat) (e : Evaluator), w.evaluators[ev]? = some e →
      e.limits.Raised (limits ev)) (ev : Nat) (input : Input)
    (hclear : ∀ x ∈ (w.evaluate ev input).2.events.toList.drop w.events.size,
      x.exceedsLimit = false) :
    (w.withLimits limits).evaluate ev input =
      ((w.evaluate ev input).1, (w.evaluate ev input).2.withLimits limits) := by
  have hclear' : (w.evaluate ev input).2.ClearSince w.events.toList := by
    rw [ClearSince, Array.length_toList]
    exact hclear
  obtain ⟨hresult, hworld⟩ :=
    follows_evaluate (lockstep_withLimits hraised) ev input (.inr hclear')
  have hevaluators : ((w.withLimits limits).evaluate ev input).2.evaluators =
      ((w.evaluate ev input).2.withLimits limits).evaluators := by
    rw [evaluate_evaluators, withLimits, withLimits, evaluate_evaluators]
  obtain ⟨es, hes, hes'⟩ := hworld.events
  have hevents : ((w.withLimits limits).evaluate ev input).2.events =
      (w.evaluate ev input).2.events :=
    Array.toList_inj.1 (hes'.trans hes.symm)
  refine Prod.ext hresult ?_
  show World.mk _ _ _ _ = _
  rw [hworld.tables, hevaluators, hworld.context, hevents]
  rfl

/-- `twice` has its evaluator evaluate a nested call, for which the limit just leaves enough. -/
theorem evaluate_withLimits_twice :
    (∀ (ev : Nat) (e : Evaluator), notingWorld.evaluators[ev]? = some e →
      e.limits.Raised { maxDepth := 9, maxLength := 20000 }) ∧
      (∀ x ∈ (notingWorld.evaluate 0 (.line "twice (#a b)")).2.events.toList.drop 0,
        x.exceedsLimit = false) ∧
      (notingWorld.evaluate 0 (.line "twice (#a b)")).2.context = ["noted", "noted"] ∧
      (notingWorld.withLimits fun _ => { maxDepth := 9, maxLength := 20000 }).evaluate 0
          (.line "twice (#a b)") =
        ((notingWorld.evaluate 0 (.line "twice (#a b)")).1,
          (notingWorld.evaluate 0 (.line "twice (#a b)")).2.withLimits
            fun _ => { maxDepth := 9, maxLength := 20000 }) := by
  have hraised : ∀ (ev : Nat) (e : Evaluator), notingWorld.evaluators[ev]? = some e →
      e.limits.Raised { maxDepth := 9, maxLength := 20000 } := by
    intro ev e he
    have hmem : e ∈ notingWorld.evaluators := List.mem_of_getElem? he
    rw [List.mem_singleton.1 hmem]
    exact ⟨by decide, by decide⟩
  have hclear : ∀ x ∈ (notingWorld.evaluate 0 (.line "twice (#a b)")).2.events.toList.drop 0,
      x.exceedsLimit = false := by decide +kernel
  exact ⟨hraised, hclear, by decide +kernel,
    evaluate_withLimits notingWorld _ hraised 0 _ hclear⟩

end World

end CommandShell
