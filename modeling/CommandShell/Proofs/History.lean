import CommandShell.Proofs.Lockstep
import CommandShell.Proofs.Outspoken

/-!
# Histories of an evaluator

A host asks an evaluator one thing after the other: to register commands, and to evaluate inputs,
each with a context of its own. Whatever an evaluation ran into on the way, a parse error, a failing
handler or one deep inside nested evaluations, the evaluator is as it was before. What remains of a
history is the tables and the record, and nothing looks at the record.

An input is answered by feedback as long as the commands are outspoken. A failure without a text is
not answered: what asking for the text raises leaves the evaluation.

* `evaluate_eq_first`, `evaluate_alike` — evaluation with a record is evaluation without one;
* `after_evaluators`, `after_outspoken` — what a history leaves as it is;
* `answer_independent_of_history` — **an evaluator keeps no state of its own**;
* `answer_raised` — evaluations that end without feedback.
-/

namespace CommandShell

variable {Ctx : Type}

namespace World

/-! ### Records -/

/-- The world without its record. -/
def unrecorded (w : World Ctx) : World Ctx := { w with events := #[] }

/-- The world with a record in front of its own. -/
def behind (w : World Ctx) (events : Array Event) : World Ctx :=
  { w with events := events ++ w.events }

/-- **The first evaluation.** An evaluation does what it would do in a world in which nothing has
happened yet. -/
theorem evaluate_eq_first (w : World Ctx) (ev : Nat) (input : Input) :
    w.evaluate ev input =
      ((w.unrecorded.evaluate ev input).1, (w.unrecorded.evaluate ev input).2.behind w.events) := by
  have hstart : Lockstep [] w.events.toList w.unrecorded w :=
    ⟨rfl, rfl, List.forall₂_same.2 fun e _ => .refl e, [], rfl, (List.append_nil _).symm⟩
  obtain ⟨hresult, hworld⟩ := follows_evaluate hstart ev input (.inl rfl)
  obtain ⟨es, hes, hes'⟩ := hworld.events
  have hevaluators : (w.evaluate ev input).2.evaluators =
      (w.unrecorded.evaluate ev input).2.evaluators := by
    rw [evaluate_evaluators, evaluate_evaluators]
    rfl
  have hevents : (w.evaluate ev input).2.events =
      w.events ++ (w.unrecorded.evaluate ev input).2.events := by
    refine Array.toList_inj.1 ?_
    rw [hes', Array.toList_append, hes, List.nil_append]
  refine Prod.ext hresult ?_
  show World.mk _ _ _ _ = _
  rw [hworld.tables, hevaluators, hworld.context, hevents]
  rfl

/-- **Worlds alike.** Two worlds that differ only in their records give the same answer, and what
becomes of them differs in nothing else either. -/
theorem evaluate_alike {w w' : World Ctx} (htables : w'.tables = w.tables)
    (hevaluators : w'.evaluators = w.evaluators) (hcontext : w'.context = w.context) (ev : Nat)
    (input : Input) :
    ∃ (answer : Answer) (v : World Ctx), w.evaluate ev input = (answer, v.behind w.events) ∧
      w'.evaluate ev input = (answer, v.behind w'.events) := by
  have hsame : w'.unrecorded = w.unrecorded := by
    show World.mk _ _ _ _ = _
    rw [htables, hevaluators, hcontext]
    rfl
  refine ⟨_, _, evaluate_eq_first w ev input, ?_⟩
  rw [evaluate_eq_first w', hsame]

end World

/-! ### Requests -/

/-- What a host asks of an evaluator. -/
inductive Request (Ctx : Type) where
  | register (r : Registration (Handler Ctx))
  | registerMany (rs : List (Registration (Handler Ctx)))
  /-- To evaluate an input with a context. -/
  | evaluate (input : Input) (context : Ctx)

/-- A request that brings no commands but outspoken ones. -/
def Request.IsOutspoken : Request Ctx → Prop
  | register r => r.IsOutspoken
  | registerMany rs => ∀ r ∈ rs, r.IsOutspoken
  | evaluate .. => True

/-- What a host is answered. -/
inductive Reply (Ctx : Type) where
  | entry (result : Except RegistrationError (Entry (Handler Ctx)))
  | entries (result : Except RegistrationError (List (Entry (Handler Ctx))))
  | answer (a : Answer)

namespace World

/-- An evaluator answers a request; it registers commands in table `t`. -/
def answer (ev t : Nat) (w : World Ctx) : Request Ctx → Reply Ctx × World Ctx
  | .register r => (.entry (w.register t r).1, (w.register t r).2)
  | .registerMany rs => (.entries (w.registerMany t rs).1, (w.registerMany t rs).2)
  | .evaluate input context =>
    (.answer (({ w with context } : World Ctx).evaluate ev input).1,
      (({ w with context } : World Ctx).evaluate ev input).2)

/-- The world behind a row of requests. -/
def after (ev t : Nat) (w : World Ctx) (history : List (Request Ctx)) : World Ctx :=
  history.foldl (fun w request => (w.answer ev t request).2) w

/-- **One request.** It leaves the evaluators as they are. -/
theorem answer_evaluators (ev t : Nat) (w : World Ctx) (request : Request Ctx) :
    (w.answer ev t request).2.evaluators = w.evaluators := by
  cases request with
  | register r => exact w.register_evaluators t r
  | registerMany rs => exact (registers_registerMany t rs w).evaluators
  | evaluate input context => exact evaluate_evaluators _ ev input

/-- **Histories.** So does every row of requests. -/
theorem after_evaluators (ev t : Nat) (w : World Ctx) (history : List (Request Ctx)) :
    (w.after ev t history).evaluators = w.evaluators := by
  induction history generalizing w with
  | nil => rfl
  | cons request history ih => exact (ih _).trans (w.answer_evaluators ev t request)

theorem answer_outspoken {w : World Ctx} (h : w.IsOutspoken) (ev t : Nat) {request : Request Ctx}
    (hrequest : request.IsOutspoken) : (w.answer ev t request).2.IsOutspoken := by
  cases request with
  | register r => exact h.register t hrequest
  | registerMany rs => exact registerMany_keeps (fun r hr w hw => hw.register t (hrequest r hr)) h
  | evaluate input context =>
    have hstart : ({ w with context } : World Ctx).IsOutspoken := h.of_tables rfl
    exact (hstart.evaluate ev input).2

/-- **Outspoken histories** leave an outspoken world. -/
theorem after_outspoken {w : World Ctx} (h : w.IsOutspoken) (ev t : Nat)
    {history : List (Request Ctx)} (hhistory : ∀ request ∈ history, request.IsOutspoken) :
    (w.after ev t history).IsOutspoken := by
  induction history generalizing w with
  | nil => exact h
  | cons request history ih =>
    obtain ⟨hfirst, hrest⟩ := List.forall_mem_cons.1 hhistory
    exact ih (answer_outspoken h ev t hfirst) hrest

/-- **Evaluators keep no state of their own.** Behind every history that began at rest, no evaluator
has a depth left over from a handler, and evaluation of an input with a context leaves the evaluators
at rest again, and is the evaluation by which a world with the same tables would have begun. It is
answered by feedback if the commands are outspoken that were there at first and those that were
registered since. So two histories with the same evaluators that end in the same tables are followed
by the same answer, the same events, the same context and the same tables. -/
theorem answer_independent_of_history (ev t : Nat) (w w' : World Ctx) (hrest : w.AtRest)
    (hevaluators : w'.evaluators = w.evaluators) (history history' : List (Request Ctx))
    (input : Input) (context : Ctx) :
    let now := w.after ev t history
    let now' := w'.after ev t history'
    let first : World Ctx := { tables := now.tables, evaluators := w.evaluators, context }
    let result := first.evaluate ev input
    now.AtRest ∧ result.2.AtRest ∧
      (w.IsOutspoken → (∀ request ∈ history, request.IsOutspoken) →
        ∃ feedback, result.1 = .feedback feedback) ∧
      now.answer ev t (.evaluate input context) =
        (.answer result.1, result.2.behind now.events) ∧
      (now'.tables = now.tables →
        now'.answer ev t (.evaluate input context) =
          (.answer result.1, result.2.behind now'.events)) := by
  intro now now' first result
  have hnow : now.evaluators = w.evaluators := w.after_evaluators ev t history
  have hnow' : now'.evaluators = w.evaluators :=
    (w'.after_evaluators ev t history').trans hevaluators
  have hresult : result.2.evaluators = w.evaluators := first.evaluate_evaluators ev input
  have hfirst : ({ now with context } : World Ctx).unrecorded = first := by
    show World.mk _ now.evaluators _ _ = _
    rw [hnow]
  refine ⟨?_, ?_, fun hw hhistory => ?_, ?_, fun htables => ?_⟩
  · rw [AtRest, hnow]
    exact hrest
  · rw [AtRest, hresult]
    exact hrest
  · have hspoken : first.IsOutspoken := (after_outspoken hw ev t hhistory).of_tables rfl
    exact (hspoken.evaluate ev input).1
  · rw [answer, evaluate_eq_first, hfirst]
  · have hfirst' : ({ now' with context } : World Ctx).unrecorded = first := by
      show World.mk now'.tables now'.evaluators _ _ = _
      rw [hnow', htables]
    rw [answer, evaluate_eq_first, hfirst']

/-- A command that fails unexpectedly. -/
def freshCommand : Registration (Handler (List String)) :=
  ⟨.text "fresh", .nothing, .handler
    { form := .function "fresh", run := fun _ => .fail (.fault (.raised "OSError" "gone")) }⟩

/-- A history with a command that a handler registers, a parse error, a fault, nested evaluations
and a refused registration. -/
def troubledHistory : List (Request (List String)) :=
  [.evaluate (.tree ⟨"grow", []⟩) [], .evaluate (.line "note (") ["x"],
    .evaluate (.tree ⟨"note", [.call "fresh" []]⟩) [], .evaluate (.tree ⟨"twice", []⟩) [],
    .registerMany [freshCommand]]

theorem outspoken_noting {name : String} {run : List Value → Program (List String)}
    (h : ∀ values, (run values).IsOutspoken) : (noting name run).IsOutspoken :=
  ⟨fun _ => trivial, h⟩

theorem outspoken_freshCommand : freshCommand.IsOutspoken := by
  refine ⟨fun d hd => GivenDecider.outspoken_nothing hd, fun handler hhandler values => ?_⟩
  cases hhandler
  trivial

theorem outspoken_notingWorld : notingWorld.IsOutspoken := by
  rintro (_ | t) e he
  · simp only [World.table, notingWorld, List.getElem?_cons_zero, Option.getD_some, List.mem_cons,
      List.not_mem_nil, or_false] at he
    rcases he with rfl | rfl | rfl
    · exact outspoken_noting fun values _ => Program.outspoken_ofResult _
    · exact outspoken_noting fun _ _ => trivial
    · exact outspoken_noting fun _ => ⟨fun d hd => GivenDecider.outspoken_nothing hd,
        fun _ => trivial, fun _ => trivial⟩
  · cases he

/-- That history, of outspoken commands, is followed by what follows the registration alone. -/
theorem answer_independent_of_history_troubled :
    notingWorld.AtRest ∧ notingWorld.IsOutspoken ∧
      (∀ request ∈ troubledHistory, request.IsOutspoken) ∧
      (notingWorld.after 0 0 [.register freshCommand]).tables =
        (notingWorld.after 0 0 troubledHistory).tables ∧
      ∃ w' : World (List String),
        (notingWorld.after 0 0 troubledHistory).answer 0 0 (.evaluate (.line "note (fresh)") []) =
          (.answer (.err .handlerFailed "OSError: gone"),
            w'.behind (notingWorld.after 0 0 troubledHistory).events) ∧
        (notingWorld.after 0 0 [.register freshCommand]).answer 0 0
            (.evaluate (.line "note (fresh)") []) =
          (.answer (.err .handlerFailed "OSError: gone"),
            w'.behind (notingWorld.after 0 0 [.register freshCommand]).events) := by
  have hrest : notingWorld.AtRest := by decide
  have htables : (notingWorld.after 0 0 [.register freshCommand]).tables =
      (notingWorld.after 0 0 troubledHistory).tables := by with_unfolding_all rfl
  have hfeedback : (({ tables := (notingWorld.after 0 0 troubledHistory).tables
                       evaluators := notingWorld.evaluators
                       context := [] } : World (List String)).evaluate 0
        (.line "note (fresh)")).1 = .err .handlerFailed "OSError: gone" := by decide +kernel
  have hspoken : ∀ request ∈ troubledHistory, request.IsOutspoken := by
    simp only [troubledHistory, List.forall_mem_cons]
    refine ⟨trivial, trivial, trivial, trivial, ?_, List.forall_mem_nil _⟩
    exact List.forall_mem_singleton.2 outspoken_freshCommand
  obtain ⟨-, -, -, hnow, hnow'⟩ := answer_independent_of_history 0 0 notingWorld notingWorld hrest rfl
    troubledHistory [.register freshCommand] (.line "note (fresh)") []
  rw [hfeedback] at hnow hnow'
  exact ⟨hrest, outspoken_notingWorld, hspoken, htables, _, hnow, hnow' htables⟩

/-- Commands without a text for their failures: the handler of `look` reports a failure that has no
message, and the decider of `pick` denies for a number. -/
def muteCommands : List (Registration (Handler (List String))) :=
  [⟨.text "look", .nothing, .handler
      { form := .function "look"
        run := fun _ => .fail (.muteCommand (.fault (.lacking "NotFound" "message"))) }⟩,
    ⟨.text "pick", .decider (.ofFunction "<pick>" fun _ => .unfit "int"), .handler
      { form := .function "pick", run := fun _ => .done "picked" }⟩]

/-- **Evaluations without feedback.** With these commands, a line that calls one of them is not
answered by feedback; the attempt to tell of the failure raises another one. -/
theorem answer_raised :
    let w := notingWorld.after 0 0 [.registerMany muteCommands]
    (w.evaluate 0 (.line "look")).1 = .raised (.fault (.lacking "NotFound" "message")) ∧
      (w.evaluate 0 (.line "note (pick)")).1 = .raised (.fault (.noTextAt 0 "int")) ∧
      ¬ ∀ input, ∃ feedback, (w.evaluate 0 input).1 = .feedback feedback := by
  intro w
  have hlook : (w.evaluate 0 (.line "look")).1 =
      .raised (.fault (.lacking "NotFound" "message")) := by decide +kernel
  refine ⟨hlook, by decide +kernel, fun hall => ?_⟩
  obtain ⟨feedback, hfeedback⟩ := hall (.line "look")
  rw [hlook] at hfeedback
  cases hfeedback

end World

end CommandShell
