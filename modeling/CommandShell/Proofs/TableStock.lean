import CommandShell.Proofs.MissingCommands

/-!
# What registrations leave in a world

Registrations come from a host or are those of the built-in commands. Whichever of them succeed,
the table holds only entries that some registration has asked for, with its name, its decider and
its handler, and nothing else happens to the world than that the record tells of registrations.

* `Stocks` — from one world to another by registrations out of a list;
* `stocks_register`, `stocks_registerMany`, `stocks_addEvaluator` — **whatever registers, stocks**.
-/

namespace CommandShell

namespace World

variable {Ctx : Type} {rs : List (Registration (Handler Ctx))} {t : Nat} {w w' w'' : World Ctx}

/-- From the first world to the second by registrations in a table that are among `rs`: the new
entries are what they ask for, the context stays, and the record tells of nothing else. -/
structure Stocks (rs : List (Registration (Handler Ctx))) (t : Nat) (w w' : World Ctx) : Prop where
  entries : ∀ e ∈ (w'.table t).entries, e ∈ (w.table t).entries ∨ ∃ r ∈ rs, r.Makes e
  context : w'.context = w.context
  events : ∃ xs, w'.events.toList = w.events.toList ++ xs ∧
    ∀ x ∈ xs, ∃ command shape, x = .registered command shape

theorem Stocks.refl (w : World Ctx) : Stocks rs t w w :=
  ⟨fun _ he => .inl he, rfl, [], (List.append_nil _).symm, List.forall_mem_nil _⟩

theorem Stocks.trans (h : Stocks rs t w w') (h' : Stocks rs t w' w'') : Stocks rs t w w'' := by
  obtain ⟨xs, hxs, hregistered⟩ := h.events
  obtain ⟨ys, hys, hregistered'⟩ := h'.events
  refine ⟨fun e he => ?_, h'.context.trans h.context, xs ++ ys, ?_,
    List.forall_mem_append.2 ⟨hregistered, hregistered'⟩⟩
  · rcases h'.entries e he with hold | hmade
    · exact h.entries e hold
    · exact .inr hmade
  · rw [hys, hxs, List.append_assoc]

/-- **One registration.** -/
theorem stocks_register (w : World Ctx) {r : Registration (Handler Ctx)} (hr : r ∈ rs) :
    Stocks rs t w (w.register t r).2 := by
  have hentries : ∀ e ∈ ((w.register t r).2.table t).entries,
      e ∈ (w.table t).entries ∨ ∃ r ∈ rs, r.Makes e :=
    fun e he => (mem_table_register he).imp_right fun hmakes => ⟨r, hr, hmakes⟩
  rcases w.register_cases t r with ⟨error, hrefused⟩ | ⟨e, -, hadded⟩
  · rw [hrefused]
    exact .refl w
  · rw [hadded] at hentries ⊢
    exact ⟨hentries, rfl, [.registered e.name e.decider.description], Array.toList_push,
      fun x hx => ⟨_, _, List.mem_singleton.1 hx⟩⟩

/-- **Registrations in a row**, up to the first that is refused. -/
theorem stocks_registerMany {new : List (Registration (Handler Ctx))} (hnew : ∀ r ∈ new, r ∈ rs)
    (w : World Ctx) : Stocks rs t w (w.registerMany t new).2 :=
  registerMany_keeps (fun r hr v hv => hv.trans (v.stocks_register (hnew r hr))) (.refl w)

theorem stocks_addMissing {new : List (Registration (Handler Ctx))} (hnew : ∀ r ∈ new, r ∈ rs)
    (w : World Ctx) : Stocks rs t w (w.addMissing t new).2 :=
  addMissing_keeps (fun r hr v hv => hv.trans (v.stocks_register (hnew r hr))) (.refl w)

/-- **The built-in commands**, with the evaluator that has them. -/
theorem stocks_addEvaluator (hnew : ∀ r ∈ Builtin.commands, r ∈ rs) (w : World Ctx)
    (limits : Limits) : Stocks rs t w (w.addEvaluator limits t).2 := by
  have hbuiltins : Stocks rs t w (w.addBuiltins t).2 := stocks_addMissing hnew w
  unfold addEvaluator
  rcases hadded : w.addBuiltins t with ⟨error | entries, w'⟩
  · rw [hadded] at hbuiltins
    exact hbuiltins
  · rw [hadded] at hbuiltins
    obtain ⟨hentries, hcontext, hevents⟩ := hbuiltins
    exact ⟨hentries, hcontext, hevents⟩

theorem evaluators_addEvaluator (ht : t < w.tables.length) (limits : Limits) :
    (w.addEvaluator limits t).2.evaluators = w.evaluators ++ [{ limits, table := t }] := by
  have hkeep : (w.addBuiltins t).2.evaluators = w.evaluators :=
    (registers_addMissing t Builtin.commands w).evaluators
  rw [addEvaluator_eq ht, hkeep]

end World

end CommandShell
