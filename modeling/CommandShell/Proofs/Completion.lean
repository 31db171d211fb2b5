import CommandShell.Proofs.CutPoints
import CommandShell.Proofs.Resolution
import CommandShell.Proofs.Session
import CommandShell.Proofs.TableStock

/-!
# Completing an invocation

`autocomplete` with the name of a command and arguments for it resolves a call of this command, as
the call itself would be resolved, and gives the signature of the entry that it finds. What the call
would do then is not done: no handler runs but that of `autocomplete`. If the call finds no entry,
`autocomplete` gives the help of its candidates, or the error of the call if there is none.

* `evaluate_flat` — a call with literal arguments is resolved, and its handler is run;
* `resolve_completion` — of the three entries of `autocomplete`, the last one is found;
* `run_completeInvocation` — its handler resolves the call and runs nothing;
* `evaluate_completion` — the two put together;
* `completion_agrees` — **completing an invocation and calling it**.
-/

namespace CommandShell

variable {Ctx : Type}

/-! ### Calls with literal arguments -/

/-- A call whose arguments are all literal. -/
def Call.flat (name : String) (args : List String) : Call := ⟨name, args.map .literal⟩

theorem Call.depth_flat (name : String) (args : List String) : (flat name args).depth = 0 := by
  show Arg.heights (args.map .literal) = 0
  induction args with
  | nil => rfl
  | cons arg args ih => rw [List.map_cons, Arg.heights, ih, Arg.height, Nat.max_self]

/-- Literal arguments are their own texts. -/
theorem Arg.evaluateAll_literals (reenter : Reentry Ctx) (ev t : Nat) (budget : Int) (level : Nat)
    (args : List String) (w : World Ctx) :
    Arg.evaluateAll reenter ev t budget level (args.map .literal) w = (.ok args, w) := by
  induction args with
  | nil => rfl
  | cons arg args ih => simp only [List.map_cons, Arg.evaluateAll, Arg.evaluate, ih]

/-- The answer of a handler that was run for the root of a tree: its text, or that of its failure. -/
def Machine.reply : Except Failure String → Answer
  | .ok text => .ok text
  | .error failure => (Halt.raised failure).answer

namespace World

variable {w : World Ctx} {ev : Nat} {e : Evaluator}

/-- The world in which a call with literal arguments has been resolved: it is recorded that the call
was taken, and which deciders gave no decision. -/
def resolved (w : World Ctx) (ev t : Nat) (name : String) (args : List String) : World Ctx :=
  (w.record (.attempted ev 0 true)).recordAll ((w.table t).resolve name args).2

/-- **Calls with literal arguments.** At top level, such a call is resolved, and the handler that it
finds is run. -/
theorem evaluate_flat (he : w.evaluators[ev]? = some e) (htop : e.remaining = none)
    (name : String) (args : List String) :
    w.evaluate ev (.tree (.flat name args)) =
      match ((w.table e.table).resolve name args).1 with
      | .error reason => ((Halt.unresolved reason).answer, w.resolved ev e.table name args)
      | .ok (entry, values) =>
        (Machine.reply
          ((machine ev e).handle 0 entry values (w.resolved ev e.table name args)).1,
          ((machine ev e).handle 0 entry values (w.resolved ev e.table name args)).2) := by
  have hroom : 0 ≤ e.budget := by
    rw [Evaluator.budget, htop]
    exact Int.natCast_nonneg _
  have hfits : ((Call.flat name args).depth : Int) ≤ e.budget := by
    rwa [Call.depth_flat]
  have hguard : ¬ e.budget - (0 : Nat) < 0 := by omega
  have hresolve : (w.record (.attempted ev 0 true)).resolve e.table name args =
      (((w.table e.table).resolve name args).1, w.resolved ev e.table name args) := rfl
  rw [evaluate_tree_eq he hfits, Call.depth_flat]
  simp only [Call.toArg, Call.flat, Arg.evaluate, if_neg hguard, Arg.evaluateAll_literals, perform,
    hresolve]
  rcases ((w.table e.table).resolve name args).1 with reason | ⟨entry, values⟩
  · exact congrArg (·, _) (Halt.unresolved reason).answer_abort
  · have hinvoke := Machine.invoke_eq_handle (keeps_machine ev e) 0 entry values
      (w.resolved ev e.table name args)
    change invoke evaluation ev e.table e.budget 0 entry values _ = _ at hinvoke
    dsimp only
    rw [hinvoke]
    rcases (machine ev e).handle 0 entry values (w.resolved ev e.table name args) with
      ⟨failure | text, w'⟩
    · exact congrArg (·, w') (Halt.raised failure).answer_abort
    · rfl

end World

/-! ### The entries of `autocomplete` -/

namespace Builtin

/-- The built-in commands of a name. -/
def commandsOf (name : String) : List (Registration (Handler Ctx)) :=
  commands.filter fun r =>
    match r.name with
    | .text given => given == name
    | .other _ => false

/-- The entries of a name begin with the built-in ones. -/
def Lead (t : Table (Handler Ctx)) (name : String) : Prop :=
  ∃ first rest, t.entriesOf name = first ++ rest ∧
    List.Forall₂ Registration.Makes (commandsOf name) first

theorem commandsOf_autocomplete :
    (commandsOf "autocomplete" : List (Registration (Handler Ctx))) =
      [command "autocomplete" .nothing "complete_all" completeAll,
        command "autocomplete" (.predicate .anyText) "complete" complete,
        command "autocomplete" (.decider .invocation) "complete_invocation"
          completeInvocation] := by
  simp [commandsOf, commands, command]

end Builtin

namespace Signature

variable {args : List String} {values : List Value}

theorem length_of_accept_nil (h : decide ⟨[]⟩ args = .accept values) : args.length = 0 := by
  obtain ⟨cut, own, hcuts, hend, -⟩ :=
    exists_cuts_of_accept (fun p hp => absurd hp List.not_mem_nil) h
  exact hend.symm.trans hcuts.start

theorem length_of_accept_one {description : String} {read : String → Except Refusal Value}
    (h : decide ⟨[.predicate (.one description read)]⟩ args = .accept values) :
    args.length = 1 := by
  have hcounts : ∀ p, .predicate p ∈ [Part.predicate (.one description read)] → p.Counts := by
    intro p hp
    cases List.mem_singleton.1 hp
    exact Predicate.counts_one description read
  obtain ⟨cut, own, hcuts, hend, -⟩ := exists_cuts_of_accept hcounts h
  cases hcuts.step 0 _ rfl with
  | predicate hconsume =>
    have hcount : cut (0 + 1) - cut 0 = 1 := Int.ofNat.inj (Predicate.count_one hconsume).1
    rw [hcuts.start, Nat.sub_zero] at hcount
    exact hend.symm.trans hcount

end Signature

/-- The last of them is found: with two arguments or more, the others deny. -/
theorem Table.resolve_completion {t : Table (Handler Ctx)} (h : Builtin.Lead t "autocomplete")
    {args : List String} (hlength : 2 ≤ args.length) :
    ∃ entry : Entry (Handler Ctx),
      (t.resolve "autocomplete" args).1 = .ok (entry, args.map .text) ∧
      entry.name = "autocomplete" ∧ entry.handler.isBuiltin = true ∧
      entry.handler.run = Builtin.completeInvocation := by
  obtain ⟨first, rest, hentries, hmakes⟩ := h
  rw [Builtin.commandsOf_autocomplete] at hmakes
  rcases hmakes with _ | ⟨hall, _ | ⟨hone, _ | ⟨hlast, _ | _⟩⟩⟩
  rename_i eall eone elast
  have hhandler := GivenHandler.handler.inj hlast.handler
  refine ⟨elast, resolve_eq_ok_iff.2 ⟨[eall, eone], rest, hentries, ?_, ?_⟩,
    (GivenName.text.inj hlast.name).symm, by rw [← hhandler], by rw [← hhandler]⟩
  · refine List.forall_mem_cons.2 ⟨?_, List.forall_mem_singleton.2 ?_⟩
    · have hplain : eall.decider.IsPlain := by
        rw [← Except.ok.inj hall.decider]
        exact Signature.plain_signature nofun
      refine Declines.passes ⟨(hplain args).1, fun values haccept => ?_⟩
      rw [← Except.ok.inj hall.decider] at haccept
      have hnone := Signature.length_of_accept_nil haccept
      omega
    · have hplain : eone.decider.IsPlain := by
        rw [← Except.ok.inj hone.decider]
        refine Signature.plain_signature fun p hp => ?_
        cases List.mem_singleton.1 hp
        exact Predicate.plain_one nofun
      refine Declines.passes ⟨(hplain args).1, fun values haccept => ?_⟩
      rw [← Except.ok.inj hone.decider] at haccept
      have hsingle := Signature.length_of_accept_one haccept
      omega
  · rw [← Except.ok.inj hlast.decider]
    exact if_neg (Nat.not_lt.2 hlength)

/-- What is made of the failure of a call: the help of its candidates, if it is the error that there
is no entry and they have some. -/
def Builtin.completedFailure : Failure → Failure
  | .shell (.noMatch error) =>
    if error.help.isEmpty then .shell (.noMatch error)
    else .help ("\n".intercalate error.help)
  | failure => failure

/-- What is made of a call: the signature of the entry that it is resolved to, or its failure. -/
def Builtin.completed :
    Except Unresolved (Entry (Handler Ctx) × List Value) → Except Failure String
  | .ok (entry, _) => .ok entry.signature
  | .error reason => .error (completedFailure reason.failure)

/-- **The handler.** It resolves the call in the table that `autocomplete` was found in, and
ends. -/
theorem Builtin.run_completeInvocation (reenter : Reentry Ctx) (t : Nat) (name : String)
    (args : List String) (w : World Ctx) :
    (completeInvocation ((name :: args).map .text)).run reenter t w =
      (completed ((w.table t).resolve name args).1,
        w.recordAll ((w.table t).resolve name args).2) := by
  simp only [completeInvocation, Program.withText, Program.withValue, List.map_cons,
    List.getElem?_cons_zero, List.drop_succ_cons, List.drop_zero, Value.texts_map_text,
    Program.run, World.resolve]
  rcases ((w.table t).resolve name args).1 with reason | ⟨entry, values⟩
  · simp only [Except.map, Except.mapError, completed]
    generalize reason.failure = failure
    cases failure with
    | shell e =>
      cases e with
      | noMatch error =>
        dsimp only [completedFailure]
        split <;> rfl
      | _ => rfl
    | _ => rfl
  · rfl

/-! ### Completing and calling -/

/-- A handler that starts is no plain event. -/
theorem Event.IsPlain.isInvocation {x : Event} (h : x.IsPlain) : x.isInvocation = false := by
  cases x with
  | invoked ev level command values isBuiltin => cases h.1 []
  | _ => rfl

namespace World

variable {w : World Ctx} {ev : Nat} {e : Evaluator}

theorem invocations_recordAll (w : World Ctx) {es : List Event} (h : ∀ x ∈ es, x.IsPlain) :
    (w.recordAll es).invocations = w.invocations := by
  have hnone : es.filter Event.isInvocation = [] :=
    List.filter_eq_nil_iff.2 fun x hx => Bool.eq_false_iff.1 (h x hx).isInvocation
  simp [invocations, recordAll, hnone]

theorem invocations_started (w : World Ctx) (level : Nat) (entry : Entry (Handler Ctx))
    (values : List Value) :
    ((machine ev e).started level entry values w).invocations =
      w.invocations ++ [.invoked ev level entry.name values entry.handler.isBuiltin] := by
  simp [invocations, Machine.started, machine, Event.isInvocation]

/-- The second world differs from the first in its record only, and the handlers that were run in
between have these events. -/
structure Ran (w w' : World Ctx) (handlers : List Event) : Prop where
  context : w'.context = w.context
  tables : w'.tables = w.tables
  evaluators : w'.evaluators = w.evaluators
  invocations : w'.invocations = w.invocations ++ handlers

/-- No handler is run to resolve a call. -/
theorem ran_resolved (w : World Ctx) (ev t : Nat) (name : String) (args : List String) :
    w.Ran (w.resolved ev t name args) [] := by
  refine ⟨rfl, rfl, rfl, ?_⟩
  rw [resolved, invocations_recordAll _ fun x hx => isPlain_of_mem_resolve hx,
    invocations_record w rfl, List.append_nil]

/-- **Completing.** The handler of `autocomplete` is run, and it runs nothing itself. -/
theorem evaluate_completion (he : w.evaluators[ev]? = some e) (htop : e.remaining = none)
    (hlead : Builtin.Lead (w.table e.table) "autocomplete") (name : String) {args : List String}
    (hargs : args ≠ []) :
    ∃ w', w.evaluate ev (.tree (.flat "autocomplete" (name :: args))) =
        (Machine.reply (Builtin.completed ((w.table e.table).resolve name args).1), w') ∧
      w.Ran w' [.invoked ev 0 "autocomplete" ((name :: args).map .text) true] := by
  have hlength : 2 ≤ (name :: args).length :=
    Nat.succ_le_succ (List.length_pos_iff.2 hargs)
  obtain ⟨entry, hfound, hname, hbuiltin, hrun⟩ := Table.resolve_completion hlead hlength
  have hresolved := w.ran_resolved ev e.table "autocomplete" (name :: args)
  rw [evaluate_flat he htop, hfound]
  generalize w.resolved ev e.table "autocomplete" (name :: args) = start at hresolved ⊢
  have htable : ((machine ev e).started 0 entry ((name :: args).map .text) start).table e.table =
      w.table e.table := by
    simp only [table, Machine.started, hresolved.tables]
  have hended := Builtin.run_completeInvocation evaluation e.table name args
    ((machine ev e).started 0 entry ((name :: args).map .text) start)
  rw [← hrun, htable] at hended
  dsimp only
  rw [Machine.handle_eq, hended]
  refine ⟨_, rfl, hresolved.context, hresolved.tables, hresolved.evaluators, ?_⟩
  change (record (recordAll (recordAll _ _) _) _).invocations = _
  rw [invocations_record _ rfl,
    invocations_recordAll _ fun x hx => Machine.isPlain_of_mem_failureEvents hx,
    invocations_recordAll _ fun x hx => isPlain_of_mem_resolve hx, invocations_started, hname,
    hbuiltin, hresolved.invocations, List.append_nil]

/-- **Completing agrees with calling.** Take an evaluator at top level whose entries of
`autocomplete` begin with the built-in ones, a name, and arguments for it, at least one. To have
`autocomplete` complete the invocation changes nothing, and no handler runs but its own. If a call
of the name with the arguments is resolved, the feedback is the signature of the entry that it is
resolved to, and the call itself runs the handler of this entry. If it is not, the feedback is the
help of its candidates, in the order of their registration, and if they have none, the error that
the call itself ends with. A failure that is raised because they cannot be told of ends the call, and
is reported by `autocomplete` as one of its handler. -/
theorem completion_agrees (w : World Ctx) (ev : Nat) (e : Evaluator)
    (he : w.evaluators[ev]? = some e) (htop : e.remaining = none)
    (hlead : Builtin.Lead (w.table e.table) "autocomplete") (name : String) (args : List String)
    (hargs : args ≠ []) :
    let completing := w.evaluate ev (.tree (.flat "autocomplete" (name :: args)))
    let calling := w.evaluate ev (.tree (.flat name args))
    let result := ((w.table e.table).resolve name args).1
    let help := ((w.table e.table).entriesOf name).filterMap fun x =>
      (x.decider.decide args).helpText?
    w.Ran completing.2 [.invoked ev 0 "autocomplete" ((name :: args).map .text) true] ∧
    (∀ entry values, result = .ok (entry, values) →
      completing.1 = .ok entry.signature ∧
      ∃ start, w.Ran start [] ∧
        calling = (Machine.reply ((machine ev e).handle 0 entry values start).1,
          ((machine ev e).handle 0 entry values start).2)) ∧
    (∀ error, result = .error (.noMatch error) →
      (help ≠ [] → completing.1 = .help ("\n".intercalate help)) ∧
      (help = [] → completing.1 = .err .noMatch error.message ∧ calling.1 = completing.1)) ∧
    (∀ failure, result = .error (.raised failure) →
      completing.1 = Machine.reply (.error (Builtin.completedFailure failure)) ∧
      calling.1 = failure.answer) := by
  intro completing calling result help
  obtain ⟨w', hcompleting, hran⟩ := evaluate_completion he htop hlead name hargs
  have hcalling : calling = _ := evaluate_flat he htop name args
  have hfeedback : completing.1 =
      Machine.reply (Builtin.completed ((w.table e.table).resolve name args).1) :=
    congrArg Prod.fst hcompleting
  refine ⟨?_, fun entry values hresult => ?_, fun error hresult => ?_, fun failure hresult => ?_⟩
  · show w.Ran (w.evaluate ev (.tree (.flat "autocomplete" (name :: args)))).2 _
    rw [hcompleting]
    exact hran
  · change ((w.table e.table).resolve name args).1 = _ at hresult
    rw [hresult] at hcalling hfeedback
    exact ⟨hfeedback, _, w.ran_resolved ev e.table name args, hcalling⟩
  · change ((w.table e.table).resolve name args).1 = _ at hresult
    have hhelp : error.help = help := (Table.reports_of_resolve hresult).help
    rw [hresult] at hcalling hfeedback
    simp only [Builtin.completed, Unresolved.failure, Builtin.completedFailure, hhelp] at hfeedback
    refine ⟨fun hsome => ?_, fun hnone => ?_⟩
    · rwa [if_neg (mt List.isEmpty_iff.1 hsome)] at hfeedback
    · rw [if_pos (List.isEmpty_iff.2 hnone)] at hfeedback
      exact ⟨hfeedback, (congrArg Prod.fst hcalling).trans hfeedback.symm⟩
  · change ((w.table e.table).resolve name args).1 = _ at hresult
    rw [hresult] at hcalling hfeedback
    exact ⟨hfeedback, congrArg Prod.fst hcalling⟩

/-- A command that would leave a note that it was run. -/
def leavingNote (name : String) (p : Predicate) : Registration (Handler (List String)) :=
  ⟨.text name, .predicate p,
    .handler { form := .function name, run := fun _ => .write [name] (.done "") }⟩

/-- A predicate that tells how it is meant, whatever it is given. -/
def usage (description : String) : Predicate :=
  .one description fun _ => .error (.denied ("usage: move " ++ description) true)

/-- A new evaluator, and a host that has registered `neg` and two shapes of `move` with it. -/
def completingWorld : World (List String) :=
  (((addTable { context := [] }).2.addEvaluator .standard 0).2.registerMany 0
    [leavingNote "neg" .anyInt32, leavingNote "move" (usage "<place>"),
      leavingNote "move" (usage "<east> <north>")]).2

/-- An invocation that is accepted has its signature, one that is denied with help has the help of
both shapes, and one that is denied without help has the error of the call. -/
theorem completion_agrees_moving :
    let complete := fun name args =>
      completingWorld.evaluate 0 (.tree (.flat "autocomplete" (name :: args)))
    Builtin.Lead (completingWorld.table 0) "autocomplete" ∧
      (complete "neg" ["12"]).1 = .ok "neg <i32>" ∧ (complete "neg" ["12"]).2.context = [] ∧
      (complete "move" ["x"]).1 = .help "usage: move <place>\nusage: move <east> <north>" ∧
      (complete "neg" ["x"]).1 = (completingWorld.evaluate 0 (.tree (.flat "neg" ["x"]))).1 := by
  intro complete
  have he : completingWorld.evaluators[0]? = some { table := 0 } := by decide +kernel
  have hlead : Builtin.Lead (completingWorld.table 0) "autocomplete" :=
    ⟨((completingWorld.table 0).entriesOf "autocomplete").take 3,
      ((completingWorld.table 0).entriesOf "autocomplete").drop 3,
      (List.take_append_drop _ _).symm,
      .cons ⟨rfl, rfl, rfl⟩ (.cons ⟨rfl, rfl, rfl⟩ (.cons ⟨rfl, rfl, rfl⟩ .nil))⟩
  have hagrees := fun name args => completion_agrees completingWorld 0 _ he rfl hlead name args
  obtain ⟨hran, hok, -⟩ := hagrees "neg" ["12"] (by decide)
  obtain ⟨-, -, hhelp, -⟩ := hagrees "move" ["x"] (by decide)
  obtain ⟨-, -, herror, -⟩ := hagrees "neg" ["x"] (by decide)
  refine ⟨hlead, ?_, hran.context, ?_, ?_⟩
  · have hsignature : ((completingWorld.table 0).resolve "neg" ["12"]).1.map (·.1.signature) =
        .ok "neg <i32>" := by decide +kernel
    rcases hresult : ((completingWorld.table 0).resolve "neg" ["12"]).1 with error | ⟨entry, values⟩
    · rw [hresult] at hsignature
      cases hsignature
    · rw [hresult] at hsignature
      exact (hok entry values hresult).1.trans (congrArg Answer.ok (Except.ok.inj hsignature))
  · have hdenied : ((completingWorld.table 0).resolve "move" ["x"]).1.map (·.1.signature) =
        .error (.noMatch {
          command := "move"
          summary := "1 argument"
          reasons := ["Expected <place> but got denied: usage: move <place>",
            "Expected <east> <north> but got denied: usage: move <east> <north>"]
          help := ["usage: move <place>", "usage: move <east> <north>"] }) := by
      decide +kernel
    have htexts : (((completingWorld.table 0).entriesOf "move").filterMap fun x =>
        (x.decider.decide ["x"]).helpText?) =
          ["usage: move <place>", "usage: move <east> <north>"] := by decide +kernel
    rcases hresult : ((completingWorld.table 0).resolve "move" ["x"]).1 with reason | found
    · rw [hresult] at hdenied
      obtain rfl := Except.error.inj hdenied
      have hfeedback := (hhelp _ hresult).1
      rw [htexts] at hfeedback
      exact hfeedback (by decide)
    · rw [hresult] at hdenied
      cases hdenied
  · have hdenied : ((completingWorld.table 0).resolve "neg" ["x"]).1.map (·.1.signature) =
        .error (.noMatch {
          command := "neg"
          summary := "1 argument"
          reasons := ["Expected <i32> but got: x"]
          help := [] }) := by
      decide +kernel
    rcases hresult : ((completingWorld.table 0).resolve "neg" ["x"]).1 with reason | found
    · rw [hresult] at hdenied
      obtain rfl := Except.error.inj hdenied
      exact ((herror _ hresult).2 (by decide +kernel)).2.symm
    · rw [hresult] at hdenied
      cases hdenied

end World

end CommandShell
