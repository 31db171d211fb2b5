import CommandShell.Proofs.Registry
import Mathlib.Data.List.Forall2

/-!
# Commands that a table lacks

An evaluator adds the built-in commands to its table, of which the table may hold some names and
shapes already. A look at the shapes of the table decides which commands are added, and each
registration looks at them again. The two agree on every table: exactly what is missing is added,
and no registration is refused.

* `Table.lacks` — what is missing in a table;
* `addMissing_eq`, `addBuiltins_eq` — **what is missing is added**, and nothing is refused;
* `addEvaluator_eq` — so an evaluator can be made on every table.
-/

namespace CommandShell

variable {Ctx H : Type}

/-! ### What is missing in a table -/

namespace Table

/-- Whether a table has no entry of the name and shape of an entry. -/
def lacks (t : Table H) (e : Entry H) : Bool := !t.hasShape e.name e.decider.description

variable {t : Table H} {e : Entry H}

theorem lacks_iff : t.lacks e = true ↔
    ∀ old ∈ t.entries, old.name = e.name → old.decider.description ≠ e.decider.description := by
  simp [lacks, hasShape, entriesOf]

/-- An entry more makes its own name and shape present, and no other. -/
theorem lacks_add {new : Entry H} : (t.add new).lacks e = true ↔
    t.lacks e = true ∧ (new.name = e.name → new.decider.description ≠ e.decider.description) := by
  rw [lacks_iff, lacks_iff, add, List.forall_mem_append, List.forall_mem_singleton]

/-- What is present stays present. -/
theorem lacks_of_grown {grown : Table H} {more : List (Entry H)}
    (h : grown.entries = t.entries ++ more) (hlacks : grown.lacks e = true) : t.lacks e = true := by
  rw [lacks_iff, h, List.forall_mem_append] at hlacks
  exact lacks_iff.2 hlacks.1

/-- A registration of what is missing is accepted, under a plain name. -/
theorem checkEntry_of_lacks {r : Registration H} (hmakes : r.Makes e)
    (hplain : isPlainWord e.name = true) (h : t.lacks e = true) : t.checkEntry r = .ok e := by
  obtain ⟨given, decider, handler⟩ := r
  obtain ⟨hname, hdecider, hhandler⟩ := hmakes
  dsimp only at hname hdecider hhandler
  subst hname hhandler
  have hfree : t.hasShape e.name e.decider.description = false := by
    simpa [lacks] using h
  simp only [checkEntry, checkName, hplain, hdecider, bind, Except.bind]
  change (if t.hasShape e.name e.decider.description = true then _ else _) = _
  rw [hfree]
  rfl

end Table

namespace Builtin

/-- The look at the shapes of a table tells what is missing. -/
theorem isTaken_eq {t : Table (Handler Ctx)} {r : Registration (Handler Ctx)}
    {e : Entry (Handler Ctx)} (h : r.Makes e) : isTaken t r = !t.lacks e := by
  rw [isTaken, h.name, h.decider, Table.lacks, Bool.not_not]

end Builtin

/-! ### The built-in entries -/

/-- The entry that a registration asks for, if its parts can be used. -/
def Registration.entry? (r : Registration H) : Option (Entry H) :=
  match r.name, r.decider.toDecider, r.handler with
  | .text name, .ok decider, .handler handler => some ⟨name, decider, handler⟩
  | _, _, _ => none

namespace Builtin

/-- The entries of the built-in commands, in the order in which they are added. -/
def entries : List (Entry (Handler Ctx)) := commands.filterMap Registration.entry?

theorem commands_make_entries :
    List.Forall₂ Registration.Makes (commands : List (Registration (Handler Ctx))) entries :=
  .cons ⟨rfl, rfl, rfl⟩ <| .cons ⟨rfl, rfl, rfl⟩ <| .cons ⟨rfl, rfl, rfl⟩ <|
    .cons ⟨rfl, rfl, rfl⟩ <| .cons ⟨rfl, rfl, rfl⟩ <| .cons ⟨rfl, rfl, rfl⟩ .nil

/-- The names and shapes of the built-in commands. -/
def shapes : List (String × String) :=
  [("#", "<text> ..."), ("?", ""), ("?", "<regex>"), ("autocomplete", ""),
    ("autocomplete", "<string>"), ("autocomplete", "<command> <argument> ...")]

theorem shapes_entries :
    (entries : List (Entry (Handler Ctx))).map (fun e => (e.name, e.decider.description)) =
      shapes :=
  rfl

/-- What holds of the names and shapes holds of the entries. -/
theorem forall_entries {P : String × String → Prop} (h : ∀ shape ∈ shapes, P shape)
    {e : Entry (Handler Ctx)} (he : e ∈ entries) : P (e.name, e.decider.description) := by
  refine h _ ?_
  have hmem := List.mem_map_of_mem (f := fun e => (e.name, e.decider.description)) he
  rwa [shapes_entries] at hmem

theorem isPlainWord_of_mem_entries {e : Entry (Handler Ctx)} (h : e ∈ entries) :
    isPlainWord e.name = true :=
  forall_entries (P := fun shape => isPlainWord shape.1 = true) (by decide +kernel) h

theorem name_of_mem_entries {e : Entry (Handler Ctx)} (h : e ∈ entries) :
    e.name ∈ ["#", "?", "autocomplete"] :=
  forall_entries (P := fun shape => shape.1 ∈ ["#", "?", "autocomplete"]) (by decide) h

/-- No two of them have the same name and shape. -/
theorem entries_differ : (entries : List (Entry (Handler Ctx))).Pairwise fun a b =>
    a.name = b.name → a.decider.description ≠ b.decider.description := by
  have hnodup : ((entries : List (Entry (Handler Ctx))).map
      fun e => (e.name, e.decider.description)).Nodup := by
    rw [shapes_entries]
    decide
  refine (List.pairwise_map.1 hnodup).imp fun hne hname hshape => hne ?_
  rw [hname, hshape]

end Builtin

namespace World

/-! ### Adding what is missing -/

variable {t : Nat} {w : World Ctx}

/-- A registration of what is missing succeeds. -/
theorem register_of_lacks (ht : t < w.tables.length) {r : Registration (Handler Ctx)}
    {e : Entry (Handler Ctx)} (hmakes : r.Makes e) (hplain : isPlainWord e.name = true)
    (h : (w.table t).lacks e = true) :
    ∃ w', w.register t r = (.ok e, w') ∧ w'.table t = (w.table t).add e ∧
      t < w'.tables.length := by
  have hentry := Table.checkEntry_of_lacks hmakes hplain h
  rcases w.register_cases t r with ⟨error, hrefused⟩ | ⟨e', hentry', hadded⟩
  · rw [register, Table.register, hentry] at hrefused
    cases hrefused
  · rw [hentry] at hentry'
    cases hentry'
    refine ⟨_, hadded, table_setTable_self ht _, ?_⟩
    simpa [setTable, record] using ht

/-- **What is missing is added.** Of commands under plain names, no two of the same name and shape,
those that a table lacks are added, in order, and none is refused. -/
theorem addMissing_eq {rs : List (Registration (Handler Ctx))} {es : List (Entry (Handler Ctx))}
    (hmake : List.Forall₂ Registration.Makes rs es) (hplain : ∀ e ∈ es, isPlainWord e.name = true)
    (hdiffer : es.Pairwise fun a b =>
      a.name = b.name → a.decider.description ≠ b.decider.description)
    (ht : t < w.tables.length) : (w.addMissing t rs).1 = .ok (es.filter (w.table t).lacks) := by
  induction hmake generalizing w with
  | nil => rfl
  | @cons r e rs es hmakes _ ih =>
    obtain ⟨hplain, hplains⟩ := List.forall_mem_cons.1 hplain
    obtain ⟨hothers, hdiffer⟩ := List.pairwise_cons.1 hdiffer
    rw [addMissing, Builtin.isTaken_eq hmakes]
    cases hlacks : (w.table t).lacks e with
    | false =>
      rw [List.filter_cons_of_neg (by simp [hlacks])]
      exact ih hplains hdiffer ht
    | true =>
      obtain ⟨w', hregister, htable, ht'⟩ := register_of_lacks ht hmakes hplain hlacks
      have hadded := ih hplains hdiffer ht'
      -- The new entry takes no shape of the commands that follow.
      have hsame : es.filter (w'.table t).lacks = es.filter (w.table t).lacks := by
        refine List.filter_congr fun other hother => ?_
        rw [htable, Bool.eq_iff_iff, Table.lacks_add]
        exact and_iff_left (hothers other hother)
      rw [hsame] at hadded
      rw [hregister, List.filter_cons_of_pos hlacks]
      dsimp only
      rcases hmissing : w'.addMissing t rs with ⟨error | entries, w''⟩
      · rw [hmissing] at hadded
        cases hadded
      · rw [hmissing] at hadded
        exact congrArg (fun added => Except.ok (e :: added)) (Except.ok.inj hadded)

/-- **The built-in commands** that are missing are added, and none is refused. -/
theorem addBuiltins_eq (ht : t < w.tables.length) :
    (w.addBuiltins t).1 = .ok (Builtin.entries.filter (w.table t).lacks) :=
  addMissing_eq Builtin.commands_make_entries (fun _ he => Builtin.isPlainWord_of_mem_entries he)
    Builtin.entries_differ ht

/-- So an evaluator can be made on every table. -/
theorem addEvaluator_eq (ht : t < w.tables.length) (limits : Limits) :
    w.addEvaluator limits t =
      (.ok (w.addBuiltins t).2.evaluators.length,
        { (w.addBuiltins t).2 with
          evaluators := (w.addBuiltins t).2.evaluators ++ [{ limits, table := t }] }) := by
  have hadded := addBuiltins_eq ht
  unfold addEvaluator
  rcases hbuiltins : w.addBuiltins t with ⟨error | entries, w'⟩
  · rw [hbuiltins] at hadded
    cases hadded
  · rfl

end World

end CommandShell
