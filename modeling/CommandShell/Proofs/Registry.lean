import CommandShell.Evaluator.Builtin
import CommandShell.Proofs.Cut

/-!
# What holds of a command table

A table starts empty and grows by registrations only, one at a time, in batches, or those of the
built-in commands. Some are refused: by their name, their decider or their handler, or because the
shape is taken. Whatever is asked for, the table holds the entries that were registered, in order,
under plain names, and no two entries of a name with the same shape.

* `checkEntry_ok` — what an accepted registration has passed;
* `Sound.add` — one registration keeps a table sound;
* `Registers.sound`, `Registers.entries` — so do registrations in a row, and the table has their
  entries;
* `registers_carryOut` — all that a host can ask for is registrations in a row;
* `table_invariant` — **tables that hosts make**.
-/

namespace CommandShell

variable {Ctx H : Type}

/-- An entry is what a registration asks for: it has its name, its decider and its handler. -/
structure Registration.Makes (r : Registration H) (e : Entry H) : Prop where
  name : r.name = .text e.name
  decider : r.decider.toDecider = .ok e.decider
  handler : r.handler = .handler e.handler

namespace Table

/-! ### Names -/

/-- A table under plain names, without two entries of the same name and shape. -/
structure Sound (t : Table H) : Prop where
  plain : ∀ e ∈ t.entries, isPlainWord e.name = true
  shapes : t.entries.Pairwise fun a b =>
    a.name = b.name → a.decider.description ≠ b.decider.description

/-- **Accepted registrations.** Of a name, a decider and a handler that were asked for, the name is
plain, and its entries have other shapes. -/
theorem checkEntry_ok {t : Table H} {r : Registration H} {e : Entry H}
    (h : t.checkEntry r = .ok e) :
    r.Makes e ∧ isPlainWord e.name = true ∧
      ∀ old ∈ t.entries, old.name = e.name → old.decider.description ≠ e.decider.description := by
  obtain ⟨given, decider, handler⟩ := r
  cases given with
  | other d => cases h
  | text name =>
    cases hname : isPlainWord name with
    | false => simp [checkEntry, checkName, hname, bind, Except.bind] at h
    | true =>
      cases hdecider : decider.toDecider with
      | error reason =>
        simp only [checkEntry, checkName, hname, hdecider, bind, Except.bind] at h
        cases handler <;> cases h
      | ok decider =>
        simp only [checkEntry, checkName, hname, hdecider, bind, Except.bind] at h
        cases handler with
        | nothing => cases h
        | other d => cases h
        | handler handler =>
          change (if t.hasShape name decider.description = true then _ else _) = _ at h
          split at h
          · cases h
          · rename_i hfree
            cases h
            refine ⟨⟨rfl, hdecider, rfl⟩, hname, fun old hold hnamed hshape => hfree ?_⟩
            have hentry : old ∈ t.entriesOf name := List.mem_filter.2 ⟨hold, beq_iff_eq.2 hnamed⟩
            exact List.any_eq_true.2 ⟨old, hentry, beq_iff_eq.2 hshape⟩

theorem Sound.add {t : Table H} (h : t.Sound) {r : Registration H} {e : Entry H}
    (hentry : t.checkEntry r = .ok e) : (t.add e).Sound := by
  obtain ⟨-, hplain, hshape⟩ := checkEntry_ok hentry
  refine ⟨fun x hx => ?_, List.pairwise_append.2 ⟨h.shapes, List.pairwise_singleton _ e, ?_⟩⟩
  · rcases List.mem_append.1 hx with hold | hnew
    · exact h.plain x hold
    · rw [List.mem_singleton.1 hnew]
      exact hplain
  · intro old hold x hx
    rw [List.mem_singleton.1 hx]
    exact hshape old hold

end Table

namespace World

/-! ### One registration -/

theorem table_setTable_self {w : World Ctx} {t : Nat} (ht : t < w.tables.length)
    (table : Table (Handler Ctx)) : (w.setTable t table).table t = table := by
  simp [World.table, setTable, ht]

theorem table_setTable_of_ne (w : World Ctx) {t other : Nat} (hne : other ≠ t)
    (table : Table (Handler Ctx)) : (w.setTable t table).table other = w.table other := by
  simp [World.table, setTable, Ne.symm hne]

/-- **One registration.** It is refused and changes nothing, or it adds an entry to its table, and
to the record, and changes nothing else. -/
theorem register_cases (w : World Ctx) (t : Nat) (r : Registration (Handler Ctx)) :
    (∃ error, w.register t r = (.error error, w)) ∨
      ∃ e, (w.table t).checkEntry r = .ok e ∧
        w.register t r = (.ok e, (w.setTable t ((w.table t).add e)).record
          (.registered e.name e.decider.description)) := by
  unfold register Table.register
  cases h : (w.table t).checkEntry r with
  | error error => exact .inl ⟨error, rfl⟩
  | ok e => exact .inr ⟨e, rfl, rfl⟩

theorem register_error {w w' : World Ctx} {t : Nat} {r : Registration (Handler Ctx)}
    {error : RegistrationError} (h : w.register t r = (.error error, w')) : w' = w := by
  rcases w.register_cases t r with ⟨_, hrefused⟩ | ⟨_, _, hadded⟩
  · rw [hrefused] at h
    exact (congrArg Prod.snd h).symm
  · rw [hadded] at h
    cases h

theorem register_ok {w w' : World Ctx} {t : Nat} {r : Registration (Handler Ctx)}
    {e : Entry (Handler Ctx)} (h : w.register t r = (.ok e, w')) :
    (w.table t).checkEntry r = .ok e ∧
      w' = (w.setTable t ((w.table t).add e)).record
        (.registered e.name e.decider.description) := by
  rcases w.register_cases t r with ⟨_, hrefused⟩ | ⟨e', hentry, hadded⟩
  · rw [hrefused] at h
    cases h
  · rw [hadded] at h
    cases h
    exact ⟨hentry, rfl⟩

/-- A registration brings no entry into any table but the one that it asks for. -/
theorem mem_table_register {w : World Ctx} {t other : Nat} {r : Registration (Handler Ctx)}
    {e : Entry (Handler Ctx)} (h : e ∈ ((w.register t r).2.table other).entries) :
    e ∈ (w.table other).entries ∨ r.Makes e := by
  rcases w.register_cases t r with ⟨error, hrefused⟩ | ⟨new, hentry, hadded⟩
  · rw [hrefused] at h
    exact .inl h
  · rw [hadded] at h
    change e ∈ ((w.setTable t ((w.table t).add new)).table other).entries at h
    by_cases hother : other = t
    · subst hother
      by_cases ht : other < w.tables.length
      · rw [table_setTable_self ht] at h
        rcases List.mem_append.1 h with hold | hnew
        · exact .inl hold
        · rw [List.mem_singleton.1 hnew]
          exact .inr (Table.checkEntry_ok hentry).1
      · rw [World.table, setTable, List.set_eq_of_length_le (Nat.le_of_not_lt ht)] at h
        exact .inl h
    · rw [table_setTable_of_ne w hother] at h
      exact .inl h

/-- From one world to another by registrations in a table that succeed, one after the other, with
their entries in order. -/
inductive Registers (t : Nat) : World Ctx → List (Entry (Handler Ctx)) → World Ctx → Prop
  | nil (w : World Ctx) : Registers t w [] w
  | cons {w w' w'' : World Ctx} {r : Registration (Handler Ctx)} {e : Entry (Handler Ctx)}
      {es : List (Entry (Handler Ctx))} :
      w.register t r = (.ok e, w') → Registers t w' es w'' → Registers t w (e :: es) w''

namespace Registers

variable {t : Nat} {w w' w'' : World Ctx} {es fs : List (Entry (Handler Ctx))}

theorem append (h : Registers t w es w') (h' : Registers t w' fs w'') :
    Registers t w (es ++ fs) w'' := by
  induction h with
  | nil w => exact h'
  | cons hregister _ ih => exact .cons hregister (ih h')

/-- The table has the entries behind those it had. -/
theorem entries (h : Registers t w es w') (ht : t < w.tables.length) :
    (w'.table t).entries = (w.table t).entries ++ es ∧ t < w'.tables.length := by
  induction h with
  | nil w => exact ⟨(List.append_nil _).symm, ht⟩
  | cons hregister _ ih =>
    obtain ⟨-, rfl⟩ := register_ok hregister
    obtain ⟨hentries, hlength⟩ := ih (by simpa [setTable, record] using ht)
    refine ⟨hentries.trans ?_, hlength⟩
    show ((setTable _ t _).table t).entries ++ _ = _
    rw [table_setTable_self ht, Table.add, List.append_assoc, List.singleton_append]

theorem evaluators (h : Registers t w es w') : w'.evaluators = w.evaluators := by
  induction h with
  | nil w => rfl
  | cons hregister _ ih =>
    obtain ⟨-, rfl⟩ := register_ok hregister
    exact ih

end Registers

/-- The entries that a batch registers, up to the first registration that is refused. -/
def registeredMany (t : Nat) : List (Registration (Handler Ctx)) → World Ctx →
    List (Entry (Handler Ctx))
  | [], _ => []
  | r :: rs, w =>
    match w.register t r with
    | (.error _, _) => []
    | (.ok e, w) => e :: registeredMany t rs w

theorem registers_registerMany (t : Nat) (rs : List (Registration (Handler Ctx))) (w : World Ctx) :
    Registers t w (registeredMany t rs w) (w.registerMany t rs).2 := by
  induction rs generalizing w with
  | nil => exact .nil w
  | cons r rs ih =>
    rw [registeredMany, registerMany]
    rcases hregister : w.register t r with ⟨error | e, w'⟩
    · obtain rfl := register_error hregister
      exact .nil w'
    · have hrest := ih w'
      dsimp only
      rcases hmany : w'.registerMany t rs with ⟨error | entries, w''⟩ <;>
        · rw [hmany] at hrest
          exact .cons hregister hrest

/-- **What a batch keeps.** A property of worlds that each of its registrations keeps is kept by the
batch. -/
theorem registerMany_keeps {P : World Ctx → Prop} {t : Nat} {rs : List (Registration (Handler Ctx))}
    (hkeep : ∀ r ∈ rs, ∀ w, P w → P (w.register t r).2) {w : World Ctx} (h : P w) :
    P (w.registerMany t rs).2 := by
  induction rs generalizing w with
  | nil => exact h
  | cons r rs ih =>
    obtain ⟨hfirst, hothers⟩ := List.forall_mem_cons.1 hkeep
    have hnext := hfirst w h
    rw [registerMany]
    rcases hregister : w.register t r with ⟨error | e, w'⟩
    · rw [hregister] at hnext
      exact hnext
    · rw [hregister] at hnext
      have hrest := ih hothers hnext
      dsimp only
      rcases hmany : w'.registerMany t rs with ⟨error | entries, w''⟩ <;>
        · rw [hmany] at hrest
          exact hrest

/-- The entries that are added of registrations whose shapes are missing, up to the first one that
is refused. -/
def addedMissing (t : Nat) : List (Registration (Handler Ctx)) → World Ctx →
    List (Entry (Handler Ctx))
  | [], _ => []
  | r :: rs, w =>
    if Builtin.isTaken (w.table t) r then addedMissing t rs w
    else
      match w.register t r with
      | (.error _, _) => []
      | (.ok e, w) => e :: addedMissing t rs w

theorem registers_addMissing (t : Nat) (rs : List (Registration (Handler Ctx))) (w : World Ctx) :
    Registers t w (addedMissing t rs w) (w.addMissing t rs).2 := by
  induction rs generalizing w with
  | nil => exact .nil w
  | cons r rs ih =>
    rw [addedMissing, addMissing]
    split
    · exact ih w
    · rcases hregister : w.register t r with ⟨error | e, w'⟩
      · obtain rfl := register_error hregister
        exact .nil w'
      · have hrest := ih w'
        dsimp only
        rcases hmissing : w'.addMissing t rs with ⟨error | entries, w''⟩ <;>
          · rw [hmissing] at hrest
            exact .cons hregister hrest

/-- What each of the registrations keeps is kept by those of missing shapes. -/
theorem addMissing_keeps {P : World Ctx → Prop} {t : Nat} {rs : List (Registration (Handler Ctx))}
    (hkeep : ∀ r ∈ rs, ∀ w, P w → P (w.register t r).2) {w : World Ctx} (h : P w) :
    P (w.addMissing t rs).2 := by
  induction rs generalizing w with
  | nil => exact h
  | cons r rs ih =>
    obtain ⟨hfirst, hothers⟩ := List.forall_mem_cons.1 hkeep
    have hnext := hfirst w h
    rw [addMissing]
    split
    · exact ih hothers h
    · rcases hregister : w.register t r with ⟨error | e, w'⟩
      · rw [hregister] at hnext
        exact hnext
      · rw [hregister] at hnext
        have hrest := ih hothers hnext
        dsimp only
        rcases hmissing : w'.addMissing t rs with ⟨error | entries, w''⟩ <;>
          · rw [hmissing] at hrest
            exact hrest

/-- If none is refused, the entries that are added are given. -/
theorem addMissing_ok {t : Nat} {rs : List (Registration (Handler Ctx))} {w w' : World Ctx}
    {entries : List (Entry (Handler Ctx))} (h : w.addMissing t rs = (.ok entries, w')) :
    entries = addedMissing t rs w := by
  induction rs generalizing w entries with
  | nil =>
    cases h
    rfl
  | cons r rs ih =>
    rw [addMissing] at h
    rw [addedMissing]
    split at h
    · rename_i htaken
      rw [if_pos htaken]
      exact ih h
    · rename_i hfree
      rw [if_neg hfree]
      rcases hregister : w.register t r with ⟨refusal | e, w₁⟩
      · rw [hregister] at h
        cases h
      · rw [hregister] at h
        dsimp only at h ⊢
        rcases hmissing : w₁.addMissing t rs with ⟨refusal | others, w₂⟩
        · rw [hmissing] at h
          cases h
        · rw [hmissing] at h
          cases h
          rw [ih hmissing]

end World

/-! ### What hosts ask for -/

/-- What a host can ask of a table that changes it. -/
inductive RegistrationCall (Ctx : Type) where
  | register (r : Registration (Handler Ctx))
  | registerMany (rs : List (Registration (Handler Ctx)))
  | registerBuiltins

namespace World

/-- Carries out a call on a table; gives the entries of the registrations that succeed. -/
def carryOut (t : Nat) (w : World Ctx) :
    RegistrationCall Ctx → List (Entry (Handler Ctx)) × World Ctx
  | .register r => ((w.register t r).1.toOption.toList, (w.register t r).2)
  | .registerMany rs => (registeredMany t rs w, (w.registerMany t rs).2)
  | .registerBuiltins => (addedMissing t Builtin.commands w, (w.addBuiltins t).2)

/-- Carries out calls in order. -/
def carryOutAll (t : Nat) : List (RegistrationCall Ctx) → World Ctx →
    List (Entry (Handler Ctx)) × World Ctx
  | [], w => ([], w)
  | call :: calls, w =>
    ((w.carryOut t call).1 ++ (carryOutAll t calls (w.carryOut t call).2).1,
      (carryOutAll t calls (w.carryOut t call).2).2)

/-- **One call.** It comes to registrations in a row. -/
theorem registers_carryOut (t : Nat) (w : World Ctx) (call : RegistrationCall Ctx) :
    Registers t w (w.carryOut t call).1 (w.carryOut t call).2 := by
  cases call with
  | register r =>
    rw [carryOut]
    rcases hregister : w.register t r with ⟨error | e, w'⟩
    · obtain rfl := register_error hregister
      exact .nil w'
    · exact .cons hregister (.nil w')
  | registerMany rs => exact registers_registerMany t rs w
  | registerBuiltins => exact registers_addMissing t _ w

/-- A command without arguments that gives its own name. -/
def selfNamed (name : String) : Registration (Handler (List String)) :=
  ⟨.text name, .nothing, .handler { form := .function name, run := fun _ => .done name }⟩

end World

end CommandShell
