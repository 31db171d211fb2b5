import CommandShell.Demo
import CommandShell.Proofs.GrantedValues
import CommandShell.Proofs.TableStock
import Mathlib.Data.Nat.Digits.Defs

/-!
# How the demonstration commands conduct themselves

The handlers of the demonstration commands, and those of the built-in commands beside them, are
written for the values that their deciders grant. With these values they do what their names say
and no more: only `log level` with a byte changes the level, `log level` alone gives it, only `fail`
and `?` fail on their own account, only `?` fails unexpectedly, and none asks for help.

* `Conduct` — what may be seen of a handler that has run;
* `conducts_add`, `conducts_setLevel`, `conducts_completeInvocation` and their like — one lemma for
  each handler, for the values it is granted;
* `proper_builtin`, `proper_commands` — one case for each registration: what its decider grants is
  what its handler needs;
* `conduct_of_resolve` — **every entry of the table conducts itself**.
-/

namespace CommandShell.Demo

open Number

/-- The registrations of the table of a world that has the commands. -/
def registrations : List (Registration (Handler State)) := Builtin.commands ++ commands

/-- Every entry of the table is what one of the registrations asks for. -/
def Stocked (w : World State) : Prop :=
  ∀ e ∈ (w.table 0).entries, ∃ r ∈ registrations, r.Makes e

/-! ### Conduct -/

/-- The level that an invocation sets, if it is one of `log` with a number. -/
def levelSet? (command : String) : List Value → Option Int
  | [.int n] => if command = "log" then some n else none
  | _ => none

/-- The ways in which a command may fail. -/
def MayFail (command : String) : Failure → Prop
  | .command _ => command = "fail" ∨ command = "?"
  | .fault _ => command = "?"
  | .shell e => ∃ error, e = .noMatch error
  | _ => False

/-- A handler that succeeds does not fail. -/
theorem mayFail_of_ok (command text : String) :
    ∀ failure, (Except.ok text : Except Failure String) = .error failure →
      MayFail command failure := by
  intro failure h
  cases h

/-- What may be seen of a handler that was invoked with values in the first world and has ended
with a result in the second: it changes nothing but the level, and this only to the byte it was
given; where it asks for the level, it gives it; and it fails as its command may. -/
structure Conduct (command : String) (values : List Value) (w : World State)
    (result : Except Failure String) (w' : World State) : Prop where
  tables : w'.tables = w.tables
  events : ∃ es, w'.events.toList = w.events.toList ++ es ∧ ∀ x ∈ es, x.OfDecider
  level : w'.context.level = (levelSet? command values).getD w.context.level
  byte : ∀ n, levelSet? command values = some n → 0 ≤ n ∧ n ≤ 255
  query : command = "log" → values = [] → result = .ok (integerText w.context.level)
  failure : ∀ failure, result = .error failure → MayFail command failure

/-- A handler of a command other than `log`, after which the world is as it was but for what
deciders got wrong. -/
theorem Conduct.of_recordAll {command : String} (hcommand : command ≠ "log") (values : List Value)
    (w : World State) {es : List Event} (hes : ∀ x ∈ es, x.OfDecider)
    {result : Except Failure String}
    (h : ∀ failure, result = .error failure → MayFail command failure) :
    Conduct command values w result (w.recordAll es) := by
  have hset : levelSet? command values = none := by
    unfold levelSet?
    split
    · exact if_neg hcommand
    · rfl
  exact ⟨rfl, ⟨es, by simp [World.recordAll], hes⟩, by rw [hset]; rfl, by rw [hset]; nofun,
    fun hlog => absurd hlog hcommand, h⟩

theorem Conduct.of_ne_log {command : String} (hcommand : command ≠ "log") (values : List Value)
    (w : World State) {result : Except Failure String}
    (h : ∀ failure, result = .error failure → MayFail command failure) :
    Conduct command values w result w := by
  have hsame : w.recordAll [] = w := by simp [World.recordAll]
  have hconduct : Conduct command values w result (w.recordAll []) :=
    .of_recordAll hcommand values w (List.forall_mem_nil _) h
  rwa [hsame] at hconduct

/-! ### Values -/

theorem joined_map_text (separator : String) (args : List String) :
    Value.joined separator (args.map .text) = .ok (separator.intercalate args) := by
  rw [Value.joined, Value.texts_map_text]
  rfl

/-- The sum of integers of 32 bits is a whole number that grows by at most `2 ^ 31` with each. -/
theorem sum_int32 {values : List Value} (h : ∀ value ∈ values, Predicate.IsInt32 value)
    (total : Int) :
    ∃ n, Value.sum (.whole total) values = .ok (.whole n) ∧
      n.natAbs ≤ total.natAbs + 2 ^ 31 * values.length := by
  induction values generalizing total with
  | nil => exact ⟨total, rfl, by simp⟩
  | cons value values ih =>
    obtain ⟨⟨n, rfl, hmin, hmax⟩, hrest⟩ := List.forall_mem_cons.1 h
    obtain ⟨m, hsum, hm⟩ := ih hrest (total + n)
    refine ⟨m, hsum, hm.trans ?_⟩
    rw [Predicate.minInt32] at hmin
    rw [Predicate.maxInt32] at hmax
    rw [List.length_cons]
    omega

/-- A whole number of at most sixteen digits has a text. -/
theorem text_of_natAbs_lt {n : Int} (h : n.natAbs < 10 ^ 16) :
    (Amount.whole n).text = .ok (integerText n) := by
  have hdigits := Nat.toDigits_length 10 n.natAbs 16 (by decide) h
  have hmost : 16 ≤ maxDigits := by decide
  exact if_neg (Nat.not_lt.2 (hdigits.trans hmost))

/-! ### Handlers -/

/-- A program of a command conducts itself with values, wherever no decider gives help. -/
def Conducts (command : String) (values : List Value) (p : Program State) : Prop :=
  ∀ (reenter : Reentry State) (w : World State),
    (∀ e ∈ (w.table 0).entries, e.decider.IsPlain) →
      Conduct command values w (p.run reenter 0 w).1 (p.run reenter 0 w).2

section

variable {command : String} {values : List Value}

theorem Conducts.done (hcommand : command ≠ "log") (text : String) :
    Conducts command values (.done text) :=
  fun _ w _ => .of_ne_log hcommand values w (mayFail_of_ok command text)

theorem Conducts.fail (hcommand : command ≠ "log") {failure : Failure}
    (h : MayFail command failure) : Conducts command values (.fail failure) := by
  intro _ w _
  refine .of_ne_log hcommand values w fun failure' hfailure => ?_
  cases hfailure
  exact h

theorem Conducts.consult {next : Table HandlerForm → Program State}
    (h : ∀ table, Conducts command values (next table)) :
    Conducts command values (.consult next) :=
  fun reenter w hw => h _ reenter w hw

/-- Texts in a row. -/
theorem conducts_joined (hcommand : command ≠ "log") (args : List String) :
    Conducts command (args.map .text) (.ofResult (Value.joined " " (args.map .text))) := by
  rw [joined_map_text]
  exact .done hcommand _

end

theorem conducts_add {values : List Value} (h : ∀ value ∈ values, Predicate.IsInt32 value)
    (hlength : values.length ≤ 1000000) : Conducts "add" values (add values) := by
  obtain ⟨n, hsum, hn⟩ := sum_int32 h 0
  -- A million times `2 ^ 31` has sixteen digits.
  have htext : (Amount.whole n).text = .ok (integerText n) := by
    refine text_of_natAbs_lt (hn.trans_lt ?_)
    rw [Int.natAbs_zero]
    omega
  have hdone : add values = .done (integerText n) := by
    rw [add, hsum]
    show Program.ofResult ((Amount.whole n).text.mapError Fault.arithmetic) = _
    rw [htext]
    rfl
  rw [hdone]
  exact .done (by decide) _

/-- **Setting the level.** -/
theorem conducts_setLevel {n : Int} (hmin : 0 ≤ n) (hmax : n ≤ 255) :
    Conducts "log" [.int n] (setLevel [.int n]) := by
  intro reenter w _
  refine ⟨rfl, ⟨[], (List.append_nil _).symm, List.forall_mem_nil _⟩, rfl, fun m hm => ?_,
    fun _ hvalues => ?_, mayFail_of_ok "log" ""⟩
  · cases hm
    exact ⟨hmin, hmax⟩
  · cases hvalues

/-- **Asking for the level.** -/
theorem conducts_getLevel : Conducts "log" [] (getLevel []) := by
  intro reenter w _
  refine ⟨rfl, ⟨[], (List.append_nil _).symm, List.forall_mem_nil _⟩, rfl, fun n hn => ?_,
    fun _ _ => rfl, mayFail_of_ok "log" _⟩
  cases hn

theorem conducts_negate {n : Int} (hmin : Predicate.minInt32 ≤ n) (hmax : n ≤ Predicate.maxInt32) :
    Conducts "neg" [.int n] (negate [.int n]) := by
  have htext : (Amount.whole (-n)).text = .ok (integerText (-n)) := by
    rw [Predicate.minInt32] at hmin
    rw [Predicate.maxInt32] at hmax
    exact text_of_natAbs_lt (by omega)
  have hdone : negate [.int n] = .done (integerText (-n)) := by
    show Program.ofResult ((Amount.whole (-n)).text.mapError Fault.arithmetic) = _
    rw [htext]
    rfl
  rw [hdone]
  exact .done (by decide) _

theorem conducts_fail (args : List String) :
    Conducts "fail" (args.map .text) (fail (args.map .text)) := by
  rw [fail, joined_map_text]
  exact .fail (by decide) (.inl rfl)

theorem conducts_query (pattern : String) :
    Conducts "?" [.text pattern] (Builtin.query [.text pattern]) := by
  refine .consult fun table => ?_
  split
  · exact .done (by decide) _
  · split
    · exact .fail (by decide) rfl
    · exact .fail (by decide) (.inr rfl)

/-- **Looking a call up.** The table is only asked; a call that is not resolved is passed on as
such, since there is no help to give. -/
theorem conducts_completeInvocation {args : List String} (h : args ≠ []) :
    Conducts "autocomplete" (args.map .text) (Builtin.completeInvocation (args.map .text)) := by
  obtain ⟨name, args, rfl⟩ := List.exists_cons_of_ne_nil h
  intro reenter w hw
  have hevents : ∀ x ∈ ((w.table 0).resolve name args).2, x.OfDecider :=
    fun x hx => Table.ofDecider_of_mem_resolve hx
  -- The values are texts, so nothing is left of the program but to look the call up.
  simp only [Builtin.completeInvocation, Program.withText, Program.withValue, List.map_cons,
    List.getElem?_cons_zero, List.drop_succ_cons, List.drop_zero, Value.texts_map_text,
    Program.run]
  cases hresult : (w.resolve 0 name args).1 with
  | ok found => exact .of_recordAll (by decide) _ w hevents (mayFail_of_ok "autocomplete" _)
  | error reason =>
    obtain ⟨e, rfl, hhelp⟩ := Table.help_of_resolve hw hresult
    simp only [Except.map, Except.mapError, Unresolved.failure, hhelp, List.isEmpty_nil, if_true]
    refine .of_recordAll (by decide) _ w hevents fun failure hfailure => ?_
    cases hfailure
    exact ⟨e, rfl⟩

/-! ### Entries -/

/-- A registration makes entries that give no help and conduct themselves with the values that they
grant to so many arguments. -/
def Proper (r : Registration (Handler State)) : Prop :=
  ∀ e, r.Makes e → e.decider.IsPlain ∧ ∀ args values, args.length ≤ 1000000 →
    e.decider.decide args = .accept values → Conducts e.name values (e.handler.run values)

theorem Proper.intro {name : String} {given : GivenDecider} {d : Decider} {h : Handler State}
    (hgiven : given.toDecider = .ok d) (hplain : d.IsPlain)
    (hrun : ∀ args values, args.length ≤ 1000000 → d.decide args = .accept values →
      Conducts name values (h.run values)) :
    Proper ⟨.text name, given, .handler h⟩ := by
  rintro ⟨name', d', h'⟩ ⟨hname, hdecider, hhandler⟩
  cases hname
  cases hhandler
  cases hgiven.symm.trans hdecider
  exact ⟨hplain, hrun⟩

/-- A command without arguments. -/
theorem Proper.nothing {name : String} {h : Handler State} (hrun : Conducts name [] (h.run [])) :
    Proper ⟨.text name, .nothing, .handler h⟩ := by
  refine .intro rfl (Signature.plain_signature nofun) fun args values _ haccept => ?_
  rw [Signature.accept_empty haccept]
  exact hrun

/-- A command whose arguments are those of a predicate. -/
theorem Proper.predicate {name : String} {p : Predicate} {h : Handler State} (hp : p.IsPlain)
    (hrun : ∀ args count values, args.length ≤ 1000000 → p.consume args = .ok (count, values) →
      Conducts name values (h.run values)) :
    Proper ⟨.text name, .predicate p, .handler h⟩ := by
  refine .intro rfl (Signature.plain_signature fun q hq => ?_) fun args values hargs haccept => ?_
  · cases List.mem_singleton.1 hq
    exact hp
  · obtain ⟨count, hconsume⟩ := Signature.accept_predicate haccept
    exact hrun args count values hargs hconsume

/-- The built-in commands. -/
theorem proper_builtin : ∀ r ∈ (Builtin.commands : List (Registration (Handler State))),
    Proper r := by
  intro r hr
  simp only [Builtin.commands, List.mem_cons, List.not_mem_nil, or_false] at hr
  rcases hr with rfl | rfl | rfl | rfl | rfl | rfl
  · refine .intro rfl Decider.plain_anyTexts fun args values _ haccept => ?_
    cases haccept
    exact conducts_joined (by decide) args
  · exact .nothing (.consult fun table => .done (by decide) _)
  · refine .predicate (Predicate.plain_one nofun) fun args count values _ hconsume => ?_
    obtain ⟨pattern, _, hread, rfl⟩ := Predicate.consume_one hconsume
    cases hread
    exact conducts_query pattern
  · exact .nothing (.consult fun table => .done (by decide) _)
  · refine .predicate (Predicate.plain_one nofun) fun args count values _ hconsume => ?_
    obtain ⟨start, _, hread, rfl⟩ := Predicate.consume_one hconsume
    cases hread
    exact .consult fun table => .done (by decide) _
  · refine .intro rfl Decider.plain_invocation fun args values _ haccept => ?_
    obtain ⟨rfl, hlength⟩ := Decider.accept_invocation haccept
    exact conducts_completeInvocation (List.ne_nil_of_length_pos (by omega))

/-- The demonstration commands. -/
theorem proper_commands : ∀ r ∈ commands, Proper r := by
  intro r hr
  simp only [commands, List.mem_cons, List.not_mem_nil, or_false] at hr
  rcases hr with rfl | rfl | rfl | rfl | rfl | rfl | rfl | rfl
  · exact .nothing (conducts_joined (by decide) [])
  · refine .predicate Predicate.plain_manyTexts fun args count values _ hconsume => ?_
    rw [Predicate.consume_manyTexts hconsume]
    exact conducts_joined (by decide) args
  · refine .predicate Predicate.plain_manyInt32 fun args count values hlength hconsume => ?_
    obtain ⟨hvalues, hints⟩ := Predicate.consume_manyInt32 hconsume
    exact conducts_add hints (hvalues.trans hlength)
  · refine .intro rfl (Signature.plain_signature fun q hq => ?_) fun args values _ haccept => ?_
    · simp only [List.mem_cons, reduceCtorEq, List.not_mem_nil, or_false, false_or] at hq
      cases hq
      exact Predicate.plain_integerIn _ _ _ _
    · obtain ⟨rest, count, hconsume⟩ := Signature.accept_keyword_predicate haccept
      obtain ⟨n, rfl, hmin, hmax⟩ := Predicate.consume_integerIn hconsume
      exact conducts_setLevel hmin hmax
  · refine .intro rfl (Signature.plain_signature fun q hq => ?_) fun args values _ haccept => ?_
    · cases List.mem_singleton.1 hq
    · rw [Signature.accept_keyword haccept]
      exact conducts_getLevel
  · refine .predicate (Predicate.plain_integerIn _ _ _ _) fun args count values _ hconsume => ?_
    obtain ⟨n, rfl, hmin, hmax⟩ := Predicate.consume_integerIn hconsume
    exact conducts_negate hmin hmax
  · exact .nothing (conducts_fail [])
  · refine .predicate Predicate.plain_manyTexts fun args count values _ hconsume => ?_
    rw [Predicate.consume_manyTexts hconsume]
    exact conducts_fail args

theorem proper_registrations : ∀ r ∈ registrations, Proper r :=
  List.forall_mem_append.2 ⟨proper_builtin, proper_commands⟩

/-- Deciders in a table of these registrations are plain. -/
theorem Stocked.plain {w : World State} (hw : Stocked w) :
    ∀ e ∈ (w.table 0).entries, e.decider.IsPlain := by
  intro e he
  obtain ⟨r, hr, hmakes⟩ := hw e he
  exact (proper_registrations r hr e hmakes).1

/-- **Every entry conducts itself.** A call that is resolved in a table of these registrations, with
no more than a million arguments, runs a handler that conducts itself. -/
theorem conduct_of_resolve {w : World State} (hw : Stocked w) {name : String}
    {args : List String} (hlength : args.length ≤ 1000000) {e : Entry (Handler State)}
    {values : List Value} (h : (w.resolve 0 name args).1 = .ok (e, values))
    (reenter : Reentry State) (w' : World State) (hw' : w'.tables = w.tables) :
    e.name = name ∧
      Conduct name values w' ((e.handler.run values).run reenter 0 w').1
        ((e.handler.run values).run reenter 0 w').2 := by
  obtain ⟨hentry, rfl, haccept⟩ := Table.accept_of_resolve h
  have htable : w'.table 0 = w.table 0 := by rw [World.table, World.table, hw']
  obtain ⟨r, hr, hmakes⟩ := hw e hentry
  refine ⟨rfl, (proper_registrations r hr e hmakes).2 args values hlength haccept reenter w' ?_⟩
  rw [htable]
  exact hw.plain

end CommandShell.Demo
