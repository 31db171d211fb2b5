import CommandShell.Proofs.Resolution
import CommandShell.Proofs.TableStock

/-!
# Installing the built-in commands

An evaluator adds the built-in commands to its table. The table may have been filled by a host, and
hold some of their names and shapes, and other evaluators may share it. What is missing is added,
and then nothing is missing any more, whatever becomes of the table.

* `Installed` — tables in which nothing is missing, and what they grow to;
* `entries_useAll`, `tables_evaluators` — what becomes of a table;
* `addBuiltins_exact` — the built-in commands on any table, and on all that becomes of it.
-/

namespace CommandShell

variable {Ctx : Type}

namespace World

variable {t : Nat} {w : World Ctx}

/-- A table that has all names and shapes of the built-in commands. -/
def Installed (table : Table (Handler Ctx)) : Prop :=
  ∀ e ∈ Builtin.entries, table.lacks e = false

theorem Installed.grown {old new : Table (Handler Ctx)} {more : List (Entry (Handler Ctx))}
    (h : Installed old) (hgrown : new.entries = old.entries ++ more) : Installed new := by
  intro e he
  rw [Bool.eq_false_iff]
  intro hlacks
  have hold := Table.lacks_of_grown hgrown hlacks
  rw [h e he] at hold
  cases hold

theorem entries_addBuiltins (ht : t < w.tables.length) :
    ((w.addBuiltins t).2.table t).entries =
        (w.table t).entries ++ Builtin.entries.filter (w.table t).lacks ∧
      t < (w.addBuiltins t).2.tables.length := by
  rw [addMissing_ok (Prod.ext (addBuiltins_eq ht) rfl)]
  exact (registers_addMissing t Builtin.commands w).entries ht

theorem installed_addBuiltins (ht : t < w.tables.length) :
    Installed ((w.addBuiltins t).2.table t) := by
  intro e he
  rw [Bool.eq_false_iff, ne_eq, Table.lacks_iff, (entries_addBuiltins ht).1]
  intro hall
  obtain ⟨hold, hnew⟩ := List.forall_mem_append.1 hall
  exact hnew e (List.mem_filter.2 ⟨he, Table.lacks_iff.2 hold⟩) rfl rfl

/-- **Once is enough.** Where they are installed, nothing is added and nothing changes. -/
theorem addBuiltins_of_installed (ht : t < w.tables.length) (h : Installed (w.table t)) :
    w.addBuiltins t = (.ok [], w) := by
  have hnone : (w.addBuiltins t).1 = .ok [] := by
    rw [addBuiltins_eq ht, List.filter_eq_nil_iff.2]
    intro e he
    rw [h e he]
    exact Bool.false_ne_true
  have hregisters : Registers t w (addedMissing t Builtin.commands w) (w.addBuiltins t).2 :=
    registers_addMissing t Builtin.commands w
  rw [← addMissing_ok (Prod.ext hnone rfl)] at hregisters
  refine Prod.ext hnone ?_
  generalize (w.addBuiltins t).2 = w' at hregisters
  cases hregisters
  rfl

end World

/-! ### What becomes of a table -/

/-- What can happen to a table: a host asks for registrations, or makes an evaluator on it. -/
inductive TableUse (Ctx : Type) where
  | ask (call : RegistrationCall Ctx)
  | evaluator (limits : Limits)

namespace World

variable {t : Nat} {w : World Ctx}

/-- The world behind a use of a table. -/
def useTable (t : Nat) (w : World Ctx) : TableUse Ctx → World Ctx
  | .ask call => (w.carryOut t call).2
  | .evaluator limits => (w.addEvaluator limits t).2

/-- The world behind uses in a row. -/
def useAll (t : Nat) (w : World Ctx) (uses : List (TableUse Ctx)) : World Ctx :=
  uses.foldl (useTable t) w

/-- One use only adds entries at the end of the table. -/
theorem entries_useTable (ht : t < w.tables.length) (use : TableUse Ctx) :
    ∃ more, ((w.useTable t use).table t).entries = (w.table t).entries ++ more ∧
      t < (w.useTable t use).tables.length := by
  cases use with
  | ask call => exact ⟨_, (registers_carryOut t w call).entries ht⟩
  | evaluator limits =>
    rw [useTable, addEvaluator_eq ht]
    exact ⟨_, (registers_addMissing t Builtin.commands w).entries ht⟩

/-- **Uses in a row.** So do all of them. -/
theorem entries_useAll (ht : t < w.tables.length) (uses : List (TableUse Ctx)) :
    ∃ more, ((w.useAll t uses).table t).entries = (w.table t).entries ++ more ∧
      t < (w.useAll t uses).tables.length := by
  induction uses generalizing w with
  | nil => exact ⟨[], (List.append_nil _).symm, ht⟩
  | cons use uses ih =>
    obtain ⟨first, hfirst, ht'⟩ := entries_useTable ht use
    obtain ⟨others, hothers, hlast⟩ := ih ht'
    refine ⟨first ++ others, ?_, hlast⟩
    rw [← List.append_assoc, ← hfirst]
    exact hothers

/-- Where the built-in commands are installed, evaluators leave the tables as they are. -/
theorem tables_evaluators (ht : t < w.tables.length) (h : Installed (w.table t))
    (limits : List Limits) : (w.useAll t (limits.map .evaluator)).tables = w.tables := by
  induction limits generalizing w with
  | nil => rfl
  | cons first limits ih =>
    have htables : (w.addEvaluator first t).2.tables = w.tables := by
      rw [addEvaluator_eq ht, addBuiltins_of_installed ht h]
    have htable : (w.addEvaluator first t).2.table t = w.table t := by
      rw [World.table, htables, World.table]
    exact (ih (htables ▸ ht) (htable ▸ h)).trans htables

/-- **Installing the built-in commands.** Take any table, whatever a host has registered in it. No
registration of a built-in command is refused, so that an evaluator can be made. What is added is
given back, and it is exactly the built-in entries whose name and shape the table lacked. They stand
behind the entries that their names had, in their fixed order, and other names have the entries that
they had. Any number of evaluators comes to one installation. And whatever is registered and whatever
evaluators are made on the table from then on, the built-in commands are not added again, a new
evaluator changes nothing but that it is there, and a call that was resolved at first is resolved in
the same way. -/
theorem addBuiltins_exact (w : World Ctx) (t : Nat) (ht : t < w.tables.length) :
    let missing := Builtin.entries.filter (w.table t).lacks
    let installed := (w.addBuiltins t).2
    w.addBuiltins t = (.ok missing, installed) ∧
      (∀ name, (installed.table t).entriesOf name =
        (w.table t).entriesOf name ++
          (Builtin.entries.filter (·.name == name)).filter (w.table t).lacks) ∧
      (∀ name, name ∉ ["#", "?", "autocomplete"] →
        (installed.table t).entriesOf name = (w.table t).entriesOf name) ∧
      (∀ limits, w.addEvaluator limits t = (.ok installed.evaluators.length,
        { installed with evaluators := installed.evaluators ++ [{ limits, table := t }] })) ∧
      (∀ first limits,
        (w.useAll t ((first :: limits).map .evaluator)).tables = installed.tables) ∧
      ∀ uses : List (TableUse Ctx),
        let later := installed.useAll t uses
        later.addBuiltins t = (.ok [], later) ∧
          (∀ limits, later.addEvaluator limits t = (.ok later.evaluators.length,
            { later with evaluators := later.evaluators ++ [{ limits, table := t }] })) ∧
          ∀ name args found, ((w.table t).resolve name args).1 = .ok found →
            ((later.table t).resolve name args).1 = .ok found := by
  intro missing installed
  obtain ⟨hentries, ht'⟩ := entries_addBuiltins ht
  have hnames (name : String) : (installed.table t).entriesOf name =
      (w.table t).entriesOf name ++
        (Builtin.entries.filter (·.name == name)).filter (w.table t).lacks := by
    rw [Table.entriesOf, hentries, List.filter_append, List.filter_comm]
    rfl
  refine ⟨Prod.ext (addBuiltins_eq ht) rfl, hnames, fun name hname => ?_, addEvaluator_eq ht,
    fun first limits => ?_, fun uses => ?_⟩
  · have hnone : (Builtin.entries : List (Entry (Handler Ctx))).filter (·.name == name) = [] := by
      refine List.filter_eq_nil_iff.2 fun e he hnamed => hname ?_
      rw [← beq_iff_eq.1 hnamed]
      exact Builtin.name_of_mem_entries he
    rw [hnames, hnone, List.filter_nil, List.append_nil]
  · -- The first evaluator installs the commands, the others find them.
    have hfirst := addEvaluator_eq ht first
    have htables : (w.addEvaluator first t).2.tables = installed.tables := by
      rw [hfirst]
    have htable : (w.addEvaluator first t).2.table t = installed.table t := by
      rw [World.table, htables, World.table]
    have hothers := tables_evaluators (w := (w.addEvaluator first t).2) (htables ▸ ht')
      (htable ▸ installed_addBuiltins ht) limits
    exact hothers.trans htables
  · intro later
    obtain ⟨more, hmore, hlater⟩ := entries_useAll ht' uses
    have hnothing : later.addBuiltins t = (.ok [], later) :=
      addBuiltins_of_installed hlater ((installed_addBuiltins ht).grown hmore)
    refine ⟨hnothing, fun limits => ?_, fun name args found => ?_⟩
    · rw [addEvaluator_eq hlater, hnothing]
    · rw [hentries, List.append_assoc] at hmore
      exact (Table.resolve_grown hmore name args).1 found

/-- A host has taken two shapes of the built-in commands, and a built-in name in a shape of its
own. -/
def settledCalls : List (RegistrationCall (List String)) :=
  [.register (selfNamed "autocomplete"), .register (selfNamed "#"), .register (selfNamed "echo"),
    .register (selfNamed "?")]

/-- The other four are added behind them. With three evaluators the table has eight entries, and a
call of `?` still reaches the handler of the host. -/
theorem addBuiltins_exact_settled :
    let w := (carryOutAll 0 settledCalls (addTable { context := [] }).2).2
    let installed := (w.addBuiltins 0).2
    let later := w.useAll 0 ([.standard, .standard, .standard].map .evaluator)
    (w.addBuiltins 0).1.map (List.map fun e => (e.name, e.decider.description)) =
        .ok [("#", "<text> ..."), ("?", "<regex>"), ("autocomplete", "<string>"),
          ("autocomplete", "<command> <argument> ...")] ∧
      installed.addBuiltins 0 = (.ok [], installed) ∧ (later.table 0).size = 8 ∧
      ∃ e values, ((w.table 0).resolve "?" []).1 = .ok (e, values) ∧
        e.handler.isBuiltin = false ∧
        ((installed.table 0).resolve "?" []).1 = .ok (e, values) := by
  intro w installed later
  have ht : 0 < w.tables.length := by decide +kernel
  obtain ⟨-, -, -, -, hevaluators, huses⟩ := addBuiltins_exact w 0 ht
  obtain ⟨hnothing, -, hresolved⟩ := huses []
  have htables : later.tables = installed.tables := hevaluators .standard [.standard, .standard]
  have hsize : (installed.table 0).size = 8 := by decide +kernel
  have hhost : ((w.table 0).resolve "?" []).1.map (·.1.handler.isBuiltin) = .ok false := by
    decide +kernel
  refine ⟨by decide +kernel, hnothing, ?_, ?_⟩
  · rw [World.table, htables, ← World.table, hsize]
  · rcases hresolve : ((w.table 0).resolve "?" []).1 with error | ⟨e, values⟩
    · rw [hresolve] at hhost
      cases hhost
    · rw [hresolve] at hhost
      exact ⟨e, values, rfl, Except.ok.inj hhost, hresolved "?" [] _ hresolve⟩

end World

end CommandShell
