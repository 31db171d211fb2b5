import CommandShell.Proofs.DemoConduct
import CommandShell.Proofs.ErrorOrder
import CommandShell.Proofs.Record
import CommandShell.Proofs.Script

/-!
# Sessions of the demonstration commands

A session evaluates lines one after the other in one world. Whatever the lines are, and whatever
their calls are nested in, the level is a byte, namely the one that was set last: the record of the
world tells which invocations there were, also those of lines that failed later on. So the command
that asks for the level has the last byte that was set as its answer.

The lines are not all read, and calls in them may find no entry; but a handler fails only if its
command is `fail` or `?`, and no line is answered with help.

* `arity_le_of_parse` — a call of a line has no more arguments than the line may have characters;
* `Steady` — what holds of the world of a session between any two calls;
* `handled_of_resolve`, `proceeds_step`, `proceeds_run` — one handler, one call, a row of calls;
* `proceeds_evaluate`, `steady_after` — one line, and a row of lines;
* `level_kept_in_session` — **the level in a session**.
-/

namespace CommandShell

/-! ### Calls of a line -/

/-- The arguments in a text, and those of every call in it, are no more than its characters. -/
theorem ArgText.arity_le_length {depth : Nat} {afterWord : Bool} {cs : List Char} {args : List Arg}
    (h : ArgText depth afterWord cs args) :
    args.length ≤ cs.length ∧ ∀ path i p name k,
      .call p name k ∈ Arg.postOrderAll path i args → k ≤ cs.length := by
  induction h with
  | nil => exact ⟨Nat.le_refl 0, nofun⟩
  | word hsep hafter hword hrest ih =>
    have hpos := List.length_pos_of_ne_nil hword.nonempty
    simp only [List.length_cons, List.length_append]
    refine ⟨by omega, fun path i p name k hmem => ?_⟩
    rw [Arg.postOrderAll, Arg.postOrder] at hmem
    have hk := ih.2 path (i + 1) p name k (by simpa using hmem)
    omega
  | call hsep hbefore hword hmarker hinside hafter hrest ihinside ihrest =>
    simp only [List.length_cons, List.length_append]
    refine ⟨by omega, fun path i p name k hmem => ?_⟩
    rw [Arg.postOrderAll, Arg.postOrder] at hmem
    rcases List.mem_append.1 hmem with hmem | hmem
    · rcases List.mem_append.1 hmem with hmem | hmem
      · have hk := ihinside.2 _ _ p name k hmem
        omega
      · cases List.mem_singleton.1 hmem
        omega
    · have hk := ihrest.2 path (i + 1) p name k hmem
      omega
  | literal hsep hbalanced hrest ih =>
    simp only [List.length_cons, List.length_append]
    refine ⟨by omega, fun path i p name k hmem => ?_⟩
    rw [Arg.postOrderAll, Arg.postOrder] at hmem
    have hk := ih.2 path (i + 1) p name k (by simpa using hmem)
    omega

/-- A call of a line has no more arguments than the line may have characters. -/
theorem arity_le_of_parse {text : String} {limits : Limits} {call : Call}
    (h : parse text limits = .ok call) {path : List Nat} {name : String} {arity : Nat}
    (hmem : .call path name arity ∈ call.postOrder) : arity ≤ limits.maxLength := by
  obtain ⟨hlength, -, hline⟩ := lineText_of_parse h
  refine Nat.le_trans ?_ hlength
  rw [← String.length_toList]
  generalize text.toList = cs at hline
  obtain ⟨hbefore, hname, hargs, hafter⟩ := hline
  obtain ⟨hroot, hbelow⟩ := hargs.arity_le_length
  simp only [List.length_append]
  rw [Call.postOrder, Call.toArg, Arg.postOrder] at hmem
  rcases List.mem_append.1 hmem with hmem | hmem
  · have hk := hbelow _ _ path name arity hmem
    omega
  · cases List.mem_singleton.1 hmem
    dsimp only
    omega

namespace Demo

open Number

/-! ### The level in the record -/

/-- The level that an event sets, if it is an invocation that does so. -/
def levelSetBy? : Event → Option Int
  | .invoked _ _ command values _ => levelSet? command values
  | _ => none

/-- The level that was set last among events, or zero. -/
def lastLevel (events : List Event) : Int := (events.filterMap levelSetBy?).getLast?.getD 0

theorem lastLevel_append_of_none {events es : List Event} (h : ∀ x ∈ es, levelSetBy? x = none) :
    lastLevel (events ++ es) = lastLevel events := by
  rw [lastLevel, List.filterMap_append, List.filterMap_eq_nil_iff.2 h, List.append_nil]
  rfl

theorem lastLevel_append_singleton (events : List Event) (x : Event) :
    lastLevel (events ++ [x]) = (levelSetBy? x).getD (lastLevel events) := by
  rw [lastLevel, List.filterMap_append]
  cases h : levelSetBy? x with
  | none => simp [h, lastLevel]
  | some n => simp [h]

/-- The command whose handler failed, if an event is of such a failure. -/
def failedCommand? : Event → Option String
  | .failed command _ => some command
  | .crashed command => some command
  | _ => none

/-- The level is a byte, and the one that was set last. -/
structure LevelKept (w : World State) : Prop where
  nonneg : 0 ≤ w.context.level
  le : w.context.level ≤ 255
  last : w.context.level = lastLevel w.events.toList

/-- What holds of the world of a session between any two calls. -/
structure Steady (w : World State) : Prop where
  stocked : Stocked w
  kept : LevelKept w
  crashed : ∀ command, .crashed command ∈ w.events.toList → command = "?"

/-- Feedback that is no help and that blames a handler only if events end with the failure of one
of `fail` or `?`. -/
structure Blames (es : List Event) (feedback : Feedback) : Prop where
  noHelp : feedback.kind ≠ .help
  handler : feedback.error = some .handlerFailed → ∃ front x, es = front ++ [x, .returned 0] ∧
    (failedCommand? x = some "fail" ∨ failedCommand? x = some "?")

/-- From one world to another with some answer: what holds of a session still holds, and the answer is
feedback that is no help and blames the right handlers. -/
structure Proceeds (w : World State) (answer : Answer) (w' : World State) : Prop where
  steady : Steady w'
  events : ∃ es feedback, w'.events.toList = w.events.toList ++ es ∧ answer = .feedback feedback ∧
    Blames es feedback

theorem Proceeds.trans {w w' w'' : World State} {answer answer' : Answer}
    (h : Proceeds w answer w') (h' : Proceeds w' answer' w'') : Proceeds w answer' w'' := by
  obtain ⟨es, -, hes, -⟩ := h.events
  obtain ⟨fs, feedback, hfs, hanswer, hhelp, hblames⟩ := h'.events
  refine ⟨h'.steady, es ++ fs, feedback, by rw [hfs, hes, List.append_assoc], hanswer, hhelp,
    fun herror => ?_⟩
  obtain ⟨front, x, rfl, hx⟩ := hblames herror
  exact ⟨es ++ front, x, by rw [List.append_assoc], hx⟩

theorem LevelKept.of_append {w w' : World State} (h : LevelKept w)
    (hcontext : w'.context = w.context) {es : List Event}
    (hevents : w'.events.toList = w.events.toList ++ es)
    (hes : ∀ x ∈ es, levelSetBy? x = none) : LevelKept w' := by
  refine ⟨?_, ?_, ?_⟩
  · rw [hcontext]
    exact h.nonneg
  · rw [hcontext]
    exact h.le
  · rw [hcontext, hevents, lastLevel_append_of_none hes]
    exact h.last

/-- An invocation keeps the level, or it sets a byte and the level with it. -/
theorem LevelKept.of_invoked {w w' : World State} (h : LevelKept w) {command : String}
    {values : List Value} {level : Nat} {isBuiltin : Bool} {rest : List Event}
    (hbyte : ∀ n, levelSet? command values = some n → 0 ≤ n ∧ n ≤ 255)
    (hlevel : w'.context.level = (levelSet? command values).getD w.context.level)
    (hevents : w'.events.toList =
      w.events.toList ++ .invoked 0 level command values isBuiltin :: rest)
    (hrest : ∀ x ∈ rest, levelSetBy? x = none) : LevelKept w' := by
  have hlast : lastLevel w'.events.toList =
      (levelSet? command values).getD (lastLevel w.events.toList) := by
    rw [hevents, List.append_cons, lastLevel_append_of_none hrest, lastLevel_append_singleton]
    rfl
  have hrange : 0 ≤ w'.context.level ∧ w'.context.level ≤ 255 := by
    rw [hlevel]
    cases hset : levelSet? command values with
    | none => exact ⟨h.nonneg, h.le⟩
    | some n => exact hbyte n hset
  refine ⟨hrange.1, hrange.2, ?_⟩
  rw [hlevel, hlast, h.last]

theorem Steady.of_append {w w' : World State} (h : Steady w) (htables : w'.tables = w.tables)
    {es : List Event} (hevents : w'.events.toList = w.events.toList ++ es)
    (hcrashed : ∀ command, .crashed command ∈ es → command = "?") (hkept : LevelKept w') :
    Steady w' := by
  refine ⟨fun e he => ?_, hkept, fun command hmem => ?_⟩
  · rw [World.table, htables] at he
    exact h.stocked e he
  · rw [hevents] at hmem
    rcases List.mem_append.1 hmem with hmem | hmem
    · exact h.crashed command hmem
    · exact hcrashed command hmem

/-- **Records.** Events that are neither invocations nor failures leave a session as it is. -/
theorem proceeds_of_silent {w w' : World State} (h : Steady w) {es : List Event}
    (hevents : w'.events.toList = w.events.toList ++ es) (htables : w'.tables = w.tables)
    (hcontext : w'.context = w.context)
    (hes : ∀ x ∈ es, levelSetBy? x = none ∧ failedCommand? x = none) {feedback : Feedback}
    (hfeedback : Blames es feedback) : Proceeds w (.feedback feedback) w' := by
  refine ⟨h.of_append htables hevents (fun command hmem => ?_)
    (h.kept.of_append hcontext hevents fun x hx => (hes x hx).1), es, feedback, hevents, rfl,
    hfeedback⟩
  cases (hes _ hmem).2

theorem silent_of_ofDecider {x : Event} (h : x.OfDecider) :
    levelSetBy? x = none ∧ failedCommand? x = none := by
  obtain ⟨command, shape, error, rfl⟩ := h
  exact ⟨rfl, rfl⟩

/-- Feedback of success blames nobody. -/
theorem blames_ok (es : List Event) (text : String) : Blames es (.ok text) := ⟨nofun, nofun⟩

/-- An error that is not that of a handler blames nobody. -/
theorem blames_ofError (es : List Event) {e : ShellError} (h : e.kind ≠ .handlerFailed) :
    Blames es (.ofError e) := by
  refine ⟨fun hkind => ?_, fun herror => absurd (Option.some.inj herror) h⟩
  cases hkind

theorem blames_noMatch (es : List Event) (error : NoMatch) :
    Blames es (.ofError (.noMatch error)) := by
  refine blames_ofError es fun hkind => ?_
  cases hkind

/-! ### One handler -/

/-- A failure that a command may have is answered by feedback that is no help and is blamed on the
command that failed. -/
theorem blames_raised {command : String} {failure : Failure} (h : MayFail command failure)
    (front : List Event) :
    ∃ feedback, (Halt.raised failure).answer = .feedback feedback ∧
      Blames (front ++ (Machine.failureEvents command (.error failure) ++ [.returned 0]))
        feedback := by
  cases failure with
  | command message =>
    refine ⟨_, rfl, nofun, fun _ => ⟨front, .failed command message, rfl, ?_⟩⟩
    exact h.imp (congrArg some) (congrArg some)
  | shell e =>
    obtain ⟨error, rfl⟩ := h
    exact ⟨_, rfl, blames_noMatch _ error⟩
  | fault f =>
    exact ⟨_, rfl, nofun, fun _ => ⟨front, .crashed command, rfl, .inr (congrArg some h)⟩⟩
  | _ => exact h.elim

/-- What is recorded behind the invocation of a handler: what deciders got wrong, how it failed, and
that it returned. -/
def aftermath (command : String) (es : List Event) (result : Except Failure String) : List Event :=
  es ++ (Machine.failureEvents command result ++ [.returned 0])

/-- It sets no level, and tells of a crash only if the command may have one. -/
theorem aftermath_spec {command : String} {es : List Event} (hes : ∀ x ∈ es, x.OfDecider)
    {result : Except Failure String}
    (h : ∀ failure, result = .error failure → MayFail command failure) :
    ∀ x ∈ aftermath command es result, levelSetBy? x = none ∧ ∀ c, x = .crashed c → c = "?" := by
  intro x hx
  rcases List.mem_append.1 hx with hx | hx
  · obtain ⟨_, _, _, rfl⟩ := hes x hx
    exact ⟨rfl, nofun⟩
  rcases List.mem_append.1 hx with hx | hx
  · unfold Machine.failureEvents at hx
    split at hx
    · rw [List.mem_singleton.1 hx]
      exact ⟨rfl, nofun⟩
    · rw [List.mem_singleton.1 hx]
      refine ⟨rfl, fun c hc => ?_⟩
      cases hc
      exact h _ rfl
    · exact (h _ rfl).elim
    · cases hx
  · rw [List.mem_singleton.1 hx]
    exact ⟨rfl, nofun⟩

/-- The second world is the first one behind a handler that was invoked with values, with what is
recorded of its result. -/
structure Handled (command : String) (values : List Value) (w : World State)
    (result : Except Failure String) (w' : World State) : Prop where
  steady : Steady w'
  query : command = "log" → values = [] → result = .ok (integerText (lastLevel w.events.toList))
  events : ∃ es, w'.events.toList = w.events.toList ++ es ∧
    ∀ failure, result = .error failure →
      ∃ feedback, (Halt.raised failure).answer = .feedback feedback ∧ Blames es feedback

/-- A handler that conducts itself keeps what holds of a session: it starts in a world in which its
invocation is recorded, and when it has ended, its failure and its return are recorded. -/
theorem handled_of_conduct {w start ended w' : World State} (hw : Steady w) {command : String}
    {values : List Value} {result : Except Failure String} {level : Nat} {isBuiltin : Bool}
    (hstart : start.tables = w.tables ∧ start.context = w.context ∧
      start.events.toList = w.events.toList ++ [.invoked 0 level command values isBuiltin])
    (hconduct : Conduct command values start result ended)
    (hend : w'.tables = ended.tables ∧ w'.context = ended.context ∧ w'.events.toList =
      ended.events.toList ++ (Machine.failureEvents command result ++ [.returned 0])) :
    Handled command values w result w' := by
  obtain ⟨es, hes, hsilent⟩ := hconduct.events
  have hrest := aftermath_spec hsilent hconduct.failure
  have hevents : w'.events.toList = w.events.toList ++
      .invoked 0 level command values isBuiltin :: aftermath command es result := by
    rw [hend.2.2, hes, hstart.2.2, aftermath]
    simp
  have hlevel : w'.context.level = (levelSet? command values).getD w.context.level := by
    rw [hend.2.1, hconduct.level, hstart.2.1]
  have hkept : LevelKept w' :=
    hw.kept.of_invoked hconduct.byte hlevel hevents fun x hx => (hrest x hx).1
  refine ⟨hw.of_append ?_ hevents (fun c hmem => ?_) hkept, fun hlog hvalues => ?_,
    _, hevents, fun failure hraised => ?_⟩
  · rw [hend.1, hconduct.tables, hstart.1]
  · rcases List.mem_cons.1 hmem with hmem | hmem
    · cases hmem
    · exact (hrest _ hmem).2 c rfl
  · rw [← hw.kept.last, ← hstart.2.1]
    exact hconduct.query hlog hvalues
  · subst hraised
    exact blames_raised (hconduct.failure failure rfl) (_ :: es)

/-! ### Calls -/

/-- The evaluator of a session when no handler runs. -/
def evaluator (limits : Limits) : Evaluator := { limits, table := 0 }

/-- The machine that runs the lines of a session. -/
def machine (limits : Limits) : Machine State := World.machine 0 (evaluator limits)

theorem events_resolve (w : World State) (name : String) (args : List String) :
    (w.resolve 0 name args).2.events.toList =
      w.events.toList ++ ((w.table 0).resolve name args).2 := by
  simp [World.resolve, World.recordAll]

theorem lastLevel_resolve (w : World State) (name : String) (args : List String) :
    lastLevel (w.resolve 0 name args).2.events.toList = lastLevel w.events.toList := by
  rw [events_resolve]
  exact lastLevel_append_of_none fun x hx =>
    (silent_of_ofDecider (Table.ofDecider_of_mem_resolve hx)).1

theorem proceeds_resolve {w : World State} (hw : Steady w) (name : String) (args : List String)
    (feedback : Feedback) (h : ∀ es, Blames es feedback) :
    Proceeds w (.feedback feedback) (w.resolve 0 name args).2 :=
  proceeds_of_silent hw (events_resolve w name args) rfl rfl
    (fun _ hx => silent_of_ofDecider (Table.ofDecider_of_mem_resolve hx)) (h _)

theorem length_args_le {stack : List String} {arity n : Nat} (h : arity ≤ n) :
    (stack.take arity).reverse.length ≤ n := by
  rw [List.length_reverse, List.length_take]
  omega

/-- **One handler.** A call that is resolved runs a handler that keeps what holds of a session. -/
theorem handled_of_resolve (limits : Limits) {w w' : World State} (hw : Steady w) {name : String}
    {args : List String} (hlength : args.length ≤ 1000000) {e : Entry (Handler State)}
    {values : List Value} (h : w.resolve 0 name args = (.ok (e, values), w')) (level : Nat) :
    Handled name values w' ((machine limits).handle level e values w').1
      ((machine limits).handle level e values w').2 := by
  have hw' : Steady w' := by
    have hresolve := (proceeds_resolve hw name args (.ok "") fun es => blames_ok es "").steady
    rwa [h] at hresolve
  have htables : w'.tables = w.tables := congrArg (·.2.tables) h.symm
  let start := (machine limits).started level e values w'
  obtain ⟨rfl, hconduct⟩ := conduct_of_resolve hw.stocked hlength (congrArg Prod.fst h)
    World.evaluation start htables
  have hstart : start.tables = w'.tables ∧ start.context = w'.context ∧ start.events.toList =
      w'.events.toList ++ [.invoked 0 level e.name values e.handler.isBuiltin] :=
    ⟨rfl, rfl, Array.toList_push⟩
  rw [machine, Machine.handle_eq]
  refine handled_of_conduct hw' hstart hconduct ⟨rfl, rfl, ?_⟩
  simp [World.record, World.recordAll, start, machine, evaluator]

/-- **One call.** -/
theorem proceeds_step (limits : Limits) {w : World State} (hw : Steady w) {i : Instruction}
    (hi : ∀ path name arity, i = .call path name arity → arity ≤ 1000000) (stack : List String) :
    Proceeds w (Machine.answer ((machine limits).step i stack w).1)
      ((machine limits).step i stack w).2 := by
  cases i with
  | push text => exact ⟨hw, [], _, (List.append_nil _).symm, rfl, blames_ok [] text⟩
  | call path name arity =>
    have hlength : (stack.take arity).reverse.length ≤ 1000000 :=
      length_args_le (hi path name arity rfl)
    have htable : (machine limits).table = 0 := rfl
    simp only [Machine.step, htable]
    rcases hresolve : w.resolve 0 name (stack.take arity).reverse with ⟨reason | ⟨e, values⟩, w'⟩
    · obtain ⟨error, rfl, -⟩ :=
        Table.help_of_resolve hw.stocked.plain (congrArg Prod.fst hresolve)
      have hrefused := proceeds_resolve hw name (stack.take arity).reverse
        (.ofError (.noMatch error)) fun es => blames_noMatch es error
      rw [hresolve] at hrefused
      exact hrefused
    · have hstart := proceeds_resolve hw name (stack.take arity).reverse (.ok "") fun es =>
        blames_ok es ""
      rw [hresolve] at hstart
      have hhandled := handled_of_resolve limits hw hlength hresolve path.length
      refine hstart.trans ?_
      dsimp only
      rcases hhandle : (machine limits).handle path.length e values w' with ⟨failure | text, w''⟩
      · rw [hhandle] at hhandled
        obtain ⟨es, hes, hblames⟩ := hhandled.events
        obtain ⟨feedback, hanswer, hfeedback⟩ := hblames failure rfl
        exact ⟨hhandled.steady, es, feedback, hes, hanswer, hfeedback⟩
      · rw [hhandle] at hhandled
        obtain ⟨es, hes, -⟩ := hhandled.events
        exact ⟨hhandled.steady, es, _, hes, rfl, blames_ok es _⟩

/-- **Calls in a row.** -/
theorem proceeds_run (limits : Limits) {code : List Instruction}
    (hcode : ∀ path name arity, .call path name arity ∈ code → arity ≤ 1000000) :
    ∀ {w : World State} (_ : Steady w) (stack : List String),
      Proceeds w (Machine.answer ((machine limits).run code stack w).1)
        ((machine limits).run code stack w).2 := by
  induction code with
  | nil => exact fun hw stack => ⟨hw, [], _, (List.append_nil _).symm, rfl, blames_ok [] _⟩
  | cons i code ih =>
    intro w hw stack
    have hfirst := proceeds_step limits hw (i := i)
      (fun path name arity hi => hcode path name arity (hi ▸ List.mem_cons_self)) stack
    rw [Machine.run]
    rcases hstep : (machine limits).step i stack w with ⟨halt | stack', w'⟩
    · rw [hstep] at hfirst
      exact hfirst
    · rw [hstep] at hfirst
      refine hfirst.trans (ih (fun path name arity hmem => ?_) hfirst.steady stack')
      exact hcode path name arity (List.mem_cons_of_mem i hmem)

/-! ### Lines -/

theorem proceeds_record {w : World State} (hw : Steady w) {x : Event}
    (hx : levelSetBy? x = none ∧ failedCommand? x = none) {feedback : Feedback}
    (h : Blames [x] feedback) : Proceeds w (.feedback feedback) (w.record x) := by
  have hevents : (w.record x).events.toList = w.events.toList ++ [x] := Array.toList_push
  refine proceeds_of_silent hw hevents rfl rfl (fun y hy => ?_) h
  rw [List.mem_singleton.1 hy]
  exact hx

/-- A line that parses is within the depth of the evaluator, so that the machine runs it. -/
theorem evaluate_eq_run {limits : Limits} {w : World State}
    (he : w.evaluators[0]? = some (evaluator limits)) {line : String} {call : Call}
    (h : parse line limits = .ok call) :
    evaluate w line =
      (Machine.answer ((machine limits).run call.postOrder []
          (w.record (.attempted 0 call.depth true))).1,
        ((machine limits).run call.postOrder []
          (w.record (.attempted 0 call.depth true))).2) := by
  have hfits : (call.depth : Int) ≤ (evaluator limits).budget :=
    Int.ofNat_le.2 (lineText_of_parse h).2.1
  rw [evaluate, World.evaluate_line_eq he h]
  exact World.evaluate_tree_accepted he hfits

/-- **One line.** -/
theorem proceeds_evaluate {limits : Limits} (hlimits : limits.maxLength ≤ 1000000)
    {w : World State} (hw : Steady w) (he : w.evaluators[0]? = some (evaluator limits))
    (line : String) : Proceeds w (evaluate w line).1 (evaluate w line).2 := by
  cases hparse : parse line limits with
  | error error =>
    have hrefused : evaluate w line =
        (.ofError (.parse error), w.record (.unparsed 0 error)) := by
      have hline : parse line (evaluator limits).limits = .error error := hparse
      rw [evaluate, World.evaluate_eq_each he, Input.trees, hline]
      rfl
    rw [hrefused]
    exact proceeds_record hw ⟨rfl, rfl⟩
      (blames_ofError _ (e := .parse error) (kind_of_parse_ne_handlerFailed hparse))
  | ok call =>
    rw [evaluate_eq_run he hparse]
    have hstart : Proceeds w (.ok "") (w.record (.attempted 0 call.depth true)) :=
      proceeds_record hw ⟨rfl, rfl⟩ (blames_ok _ _)
    refine hstart.trans (proceeds_run limits (fun path name arity hmem => ?_) hstart.steady [])
    exact (arity_le_of_parse hparse hmem).trans hlimits

/-! ### Sessions -/

theorem world_eq (limits : Limits) :
    world limits = (((World.addTable { context := ({} : State) }).2.addEvaluator
      limits 0).2.registerMany 0 commands).2 := rfl

theorem stocks_world (limits : Limits) :
    World.Stocks registrations 0 (World.addTable { context := ({} : State) }).2 (world limits) := by
  rw [world_eq]
  refine World.Stocks.trans ?_ (World.stocks_registerMany ?_ _)
  · exact World.stocks_addEvaluator (fun r hr => List.mem_append_left commands hr) _ limits
  · exact fun r hr => List.mem_append_right Builtin.commands hr

theorem evaluator_world (limits : Limits) :
    (world limits).evaluators[0]? = some (evaluator limits) := by
  have hevaluators : (world limits).evaluators = [] ++ [evaluator limits] := by
    rw [world_eq]
    exact (World.registers_registerMany 0 commands _).evaluators.trans
      (World.evaluators_addEvaluator Nat.one_pos limits)
  rw [hevaluators]
  rfl

/-- The world at the start of a session. -/
theorem steady_world (limits : Limits) : Steady (world limits) := by
  obtain ⟨hentries, hcontext, xs, hxs, hregistered⟩ := stocks_world limits
  have hevents : (world limits).events.toList = [] ++ xs := hxs
  refine ⟨fun e he => ?_, ⟨?_, ?_, ?_⟩, fun command hmem => ?_⟩
  · exact (hentries e he).resolve_left nofun
  · rw [hcontext]
    decide
  · rw [hcontext]
    decide
  · rw [hcontext, hevents, lastLevel_append_of_none fun x hx => ?_]
    · rfl
    · obtain ⟨command, shape, rfl⟩ := hregistered x hx
      rfl
  · rw [hevents] at hmem
    obtain ⟨_, _, hx⟩ := hregistered _ hmem
    cases hx

/-- The world of a session behind lines. -/
def after (limits : Limits) (lines : List String) : World State :=
  lines.foldl (fun w line => (evaluate w line).2) (world limits)

/-- **Lines in a row.** -/
theorem steady_after {limits : Limits} (hlimits : limits.maxLength ≤ 1000000)
    (lines : List String) :
    Steady (after limits lines) ∧
      (after limits lines).evaluators[0]? = some (evaluator limits) := by
  have hsteady := steady_world limits
  have he := evaluator_world limits
  unfold after
  generalize world limits = w at hsteady he
  induction lines generalizing w with
  | nil => exact ⟨hsteady, he⟩
  | cons line lines ih =>
    refine ih _ (proceeds_evaluate hlimits hsteady he line).steady ?_
    show (w.evaluate 0 (.line line)).2.evaluators[0]? = _
    rw [World.evaluate_evaluators]
    exact he

/-- A point between two calls of a line that is evaluated behind others. Of the instructions that
the line comes to by `evaluate_eq_run`, those in front of the point have left texts on the stack,
and the world; `code` is still to be run. -/
inductive Between (limits : Limits) (lines : List String) (line : String) :
    List String → List Instruction → World State → Prop
  | intro {call : Call} {front code : List Instruction} {stack : List String} {w : World State} :
      parse line limits = .ok call → call.postOrder = front ++ code →
      (machine limits).run front []
        ((after limits lines).record (.attempted 0 call.depth true)) = (.ok stack, w) →
      Between limits lines line stack code w

theorem Between.steady {limits : Limits} (hlimits : limits.maxLength ≤ 1000000)
    {lines : List String} {line : String} {stack : List String} {code : List Instruction}
    {w : World State} (h : Between limits lines line stack code w) :
    Steady w ∧ ∀ path name arity, .call path name arity ∈ code → arity ≤ 1000000 := by
  obtain @⟨call, front, _, _, _, hparse, hcode, hrun⟩ := h
  have harity : ∀ path name arity, .call path name arity ∈ front ++ code → arity ≤ 1000000 := by
    intro path name arity hmem
    rw [← hcode] at hmem
    exact (arity_le_of_parse hparse hmem).trans hlimits
  have hstart := proceeds_record (steady_after hlimits lines).1 ⟨rfl, rfl⟩
    (blames_ok [.attempted 0 call.depth true] "")
  have hfront := proceeds_run limits
    (fun path name arity hmem => harity path name arity (List.mem_append_left _ hmem))
    hstart.steady []
  rw [hrun] at hfront
  exact ⟨hfront.steady, fun path name arity hmem =>
    harity path name arity (List.mem_append_right _ hmem)⟩

/-- **The level in a session.** Take any lines, evaluated one after the other under limits by which
a line has no more than a million characters. Behind them the level is a byte, and the one that was
set last, or zero; and no handler has failed unexpectedly but those of `?`. The level is also kept
between any two calls of one more line, where a call that asks for it has the text of the byte that
was set last as its output. And that line is answered by feedback, not with help, and with the
failure of a handler only if the last thing to happen is that one of `fail` or `?` fails and
returns. -/
theorem level_kept_in_session (limits : Limits) (hlimits : limits.maxLength ≤ 1000000)
    (lines : List String) :
    LevelKept (after limits lines) ∧
      (∀ command, .crashed command ∈ (after limits lines).events.toList → command = "?") ∧
      ∀ line,
        (∀ stack code w, Between limits lines line stack code w →
          LevelKept w ∧ ∀ path arity rest e w', code = .call path "log" arity :: rest →
            w.resolve 0 "log" (stack.take arity).reverse = (.ok (e, []), w') →
              ((machine limits).handle path.length e [] w').1 =
                .ok (integerText (lastLevel w.events.toList))) ∧
        ∃ es feedback, (after limits (lines ++ [line])).events.toList =
            (after limits lines).events.toList ++ es ∧
          (evaluate (after limits lines) line).1 = .feedback feedback ∧ Blames es feedback := by
  obtain ⟨hsteady, he⟩ := steady_after hlimits lines
  refine ⟨hsteady.kept, hsteady.crashed, fun line => ⟨fun stack code w hbetween => ?_, ?_⟩⟩
  · obtain ⟨hw, harity⟩ := hbetween.steady hlimits
    refine ⟨hw.kept, fun path arity rest e w' hcode hresolve => ?_⟩
    have hlength : (stack.take arity).reverse.length ≤ 1000000 :=
      length_args_le (harity path "log" arity (hcode ▸ List.mem_cons_self))
    have hlast := lastLevel_resolve w "log" (stack.take arity).reverse
    rw [hresolve] at hlast
    rw [← hlast]
    exact (handled_of_resolve limits hw hlength hresolve path.length).query rfl rfl
  · rw [after, List.foldl_append]
    exact (proceeds_evaluate hlimits hsteady he line).events

/-- Two lines that fail: one sets no level, since its number is no byte, the other sets it first. -/
def failingLines : List String :=
  ["log level 300", "echo (log level (add 4 5)) (fail (log level))"]

/-- Behind the lines above, the level is the sum that a call inside the second one has set, and a
call that asks for it inside another line gets its text. -/
theorem level_kept_in_session_failing :
    Limits.standard.maxLength ≤ 1000000 ∧
      LevelKept (after .standard failingLines) ∧
      (after .standard failingLines).context.level = 9 ∧
      ∃ code w e w', Between .standard failingLines "neg (log level)" ["level"] code w ∧
        w.resolve 0 "log" ["level"] = (.ok (e, []), w') ∧
        ((machine .standard).handle 1 e [] w').1 = .ok "9" := by
  have hlimits : Limits.standard.maxLength ≤ 1000000 := by decide
  obtain ⟨hkept, -, hline⟩ := level_kept_in_session .standard hlimits failingLines
  have hlevel : (after .standard failingLines).context.level = 9 := by decide +kernel
  have hparse : parse "neg (log level)" .standard =
      .ok ⟨"neg", [.call "log" [.literal "level"]]⟩ := by decide +kernel
  let w := (after .standard failingLines).record (.attempted 0 1 true)
  have hpushed : (machine .standard).run [.push "level"] [] w = (.ok ["level"], w) := rfl
  have hbetween : Between .standard failingLines "neg (log level)" ["level"]
      [.call [0] "log" 1, .call [] "neg" 1] w := .intro hparse rfl hpushed
  obtain ⟨hw, hquery⟩ := (hline "neg (log level)").1 _ _ _ hbetween
  have hvalues : (w.resolve 0 "log" ["level"]).1.toOption.map (·.2) = some [] := by decide +kernel
  rcases hresolve : w.resolve 0 "log" ["level"] with ⟨error | ⟨e, values⟩, w'⟩
  · rw [hresolve] at hvalues
    cases hvalues
  · rw [hresolve] at hvalues
    cases hvalues
    have htext := hquery [0] 1 [.call [] "neg" 1] e w' rfl hresolve
    rw [← hw.last] at htext
    have hsame : w.context = (after .standard failingLines).context := rfl
    have hnine : integerText w.context.level = "9" := by
      rw [hsame, hlevel]
      decide
    rw [hnine] at htext
    exact ⟨hlimits, hkept, hlevel, _, w, e, w', hbetween, hresolve, htext⟩

end Demo

end CommandShell
