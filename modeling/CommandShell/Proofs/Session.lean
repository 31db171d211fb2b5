import CommandShell.Proofs.Decoding
import CommandShell.Proofs.FramedStatement
import CommandShell.Proofs.History

/-!
# Sessions over a stream and over a connection

A shell reads characters, a connection reads bytes, and each reads them in chunks of its own. Both
frame what they read in the same way, so what they do depends on the frames of the whole text only.
As long as no statement is too long, a connection keeps in step with a shell, frame by frame. At the
first that is too long they part: the shell reports it and goes on, and the connection is closed. A
failure that evaluation raises stops both of them.

* `handle_of_failure` — a shell that has stopped answers no more;
* `foldl_process_eq` — a shell handles the frames of its whole stream;
* `answer_cases`, `handleAll_cases` — a connection on one frame, and on a row of frames;
* `serveFrom_cases` — a connection handles the frames of all that is delivered, up to the first
  that is too long, unless it is stopped before;
* `connection_keeps_session` — **a connection and a shell give the same session**.
-/

namespace CommandShell

variable {Ctx : Type}

/-! ### What is compared -/

/-- Whether a handler starts. -/
def Event.isInvocation : Event → Bool
  | .invoked .. => true
  | _ => false

/-- The handlers that were run, in order, with the commands and values they were run for. -/
def World.invocations (w : World Ctx) : List Event := w.events.toList.filter Event.isInvocation

theorem World.invocations_record (w : World Ctx) {x : Event} (h : x.isInvocation = false) :
    (w.record x).invocations = w.invocations := by
  simp [invocations, record, h]

theorem World.invocations_behind (w : World Ctx) (events : Array Event) :
    (w.behind events).invocations = events.toList.filter Event.isInvocation ++ w.invocations := by
  simp [invocations, behind]

/-- Whether a frame reports a statement that is too long. -/
def StreamFrame.isOverflow : StreamFrame → Bool
  | .error (.tooLong _) => true
  | _ => false

theorem StreamFrame.eq_tooLong {frame : StreamFrame} (h : frame.isOverflow = true) :
    ∃ maximum, frame = .error (.tooLong maximum) := by
  cases frame with
  | statement text => cases h
  | error e =>
    cases e with
    | unbalanced => cases h
    | tooLong maximum => exact ⟨maximum, rfl⟩

/-- What a shell has written, response by response. -/
def Shell.writes (s : Shell Ctx) : List String := s.responses.toList.map fun f => f.render ++ "\n"

/-- A connection has the same context as a shell, on the same tables and evaluators, and the same
handlers were run for it. -/
structure Connection.SameState (c : Connection Ctx) (w : World Ctx) (s : Shell Ctx) : Prop where
  context : c.context = s.world.context
  tables : w.tables = s.world.tables
  evaluators : w.evaluators = s.world.evaluators
  invocations : w.invocations = s.world.invocations

/-- An open connection, which does not break, has also written what a shell has that goes on. -/
structure Connection.InStep (c : Connection Ctx) (w : World Ctx) (s : Shell Ctx) : Prop
    extends c.SameState w s where
  isOpen : c.closing = none
  unsent : c.unsent = none
  writes : c.writes.toList = s.writes
  goes : s.failure = none

/-- A connection was closed by the failure that has stopped a shell, and has written the same. -/
structure Connection.Stopped (c : Connection Ctx) (s : Shell Ctx) : Prop where
  closing : ∃ failure, s.failure = some failure ∧ c.closing = some (.ofFailure failure)
  writes : c.writes.toList = s.writes

/-- A connection was closed at a statement that is too long, and has written that its buffer is full
behind what a shell has written that goes on. -/
structure Connection.Overflowed (c : Connection Ctx) (s : Shell Ctx) : Prop where
  goes : s.failure = none
  closing : c.closing = some .overflowed
  writes : c.writes.toList = s.writes ++ [Connection.overflowLine ++ "\n"]

/-- The frames that wait make no difference. -/
theorem Connection.InStep.withQueue {c : Connection Ctx} {w : World Ctx} {s : Shell Ctx}
    (h : c.InStep w s) (queue : List StreamFrame) :
    ({ c with queue } : Connection Ctx).InStep w s :=
  ⟨⟨h.context, h.tables, h.evaluators, h.invocations⟩, h.isOpen, h.unsent, h.writes, h.goes⟩

namespace Shell

theorem writes_respond (s : Shell Ctx) (f : Feedback) :
    (s.respond f).writes = s.writes ++ [f.render ++ "\n"] := by
  simp [writes, respond]

/-! ### One frame -/

section

variable {s : Shell Ctx}

/-- A shell that has stopped answers no more. -/
theorem handle_of_failure {failure : Failure} (h : s.failure = some failure)
    (frame : StreamFrame) : s.handle frame = s := by
  simp only [handle, h]

theorem foldl_handle_of_failure {failure : Failure} (h : s.failure = some failure)
    (frames : List StreamFrame) : frames.foldl handle s = s := by
  induction frames with
  | nil => rfl
  | cons frame frames ih => rw [List.foldl_cons, handle_of_failure h, ih]

theorem handle_statement (h : s.failure = none) (text : String) :
    s.handle (.statement text) = s.evaluate text := by
  simp only [handle, h]

theorem handle_error (h : s.failure = none) (e : FrameError) :
    s.handle (.error e) =
      ({ s with world := s.world.record (.inputDiscarded e.feedback.text) } : Shell Ctx).respond
        e.feedback := by
  simp only [handle, h]

/-- A statement is answered by feedback, or it stops the shell. -/
theorem evaluate_cases (s : Shell Ctx) (text : String) :
    (∃ f world, s.world.evaluate s.evaluator (.line text) = (.feedback f, world) ∧
        s.evaluate text = ({ s with world, count := s.count + 1 } : Shell Ctx).respond f) ∨
      ∃ failure world, s.world.evaluate s.evaluator (.line text) = (.raised failure, world) ∧
        s.evaluate text = { s with world, failure := some failure } := by
  unfold evaluate
  rcases s.world.evaluate s.evaluator (.line text) with ⟨f | failure, world⟩
  · exact .inl ⟨f, world, rfl, rfl⟩
  · exact .inr ⟨failure, world, rfl, rfl⟩

end

/-- **One frame.** It changes nothing if the shell has stopped; otherwise there is a response, or
the shell stops. -/
theorem handle_cases (s : Shell Ctx) (frame : StreamFrame) :
    (∃ failure, s.failure = some failure ∧ s.handle frame = s) ∨
      (∃ f world count, s.failure = none ∧
        s.handle frame = ({ s with world, count } : Shell Ctx).respond f) ∨
      ∃ failure world, s.failure = none ∧
        s.handle frame = { s with world, failure := some failure } := by
  rcases Option.eq_none_or_eq_some s.failure with hgoes | ⟨failure, hgoes⟩
  · refine .inr ?_
    cases frame with
    | statement text =>
      rw [handle_statement hgoes]
      rcases s.evaluate_cases text with ⟨f, world, -, heq⟩ | ⟨failure, world, -, heq⟩
      · exact .inl ⟨f, world, _, hgoes, heq⟩
      · exact .inr ⟨failure, world, hgoes, heq⟩
    | error e => exact .inl ⟨e.feedback, _, s.count, hgoes, handle_error hgoes e⟩
  · exact .inl ⟨failure, hgoes, handle_of_failure hgoes frame⟩

/-- Responses stay where they are. -/
theorem exists_responses_foldl (s : Shell Ctx) (frames : List StreamFrame) :
    ∃ after, (frames.foldl handle s).responses.toList = s.responses.toList ++ after := by
  induction frames generalizing s with
  | nil => exact ⟨[], (List.append_nil _).symm⟩
  | cons frame frames ih =>
    obtain ⟨after, hafter⟩ := ih (s.handle frame)
    obtain ⟨new, hnew⟩ : ∃ new, (s.handle frame).responses.toList = s.responses.toList ++ new := by
      rcases s.handle_cases frame with ⟨_, -, heq⟩ | ⟨f, _, _, -, heq⟩ | ⟨_, _, -, heq⟩
      · exact ⟨[], by rw [heq, List.append_nil]⟩
      · exact ⟨[f], by rw [heq]; exact Array.toList_push⟩
      · exact ⟨[], by rw [heq, List.append_nil]⟩
    exact ⟨new ++ after, by rw [List.foldl_cons, hafter, hnew, List.append_assoc]⟩

/-- A shell that goes on answers a framing error first. -/
theorem exists_responses_foldl_error {s : Shell Ctx} (h : s.failure = none) (e : FrameError)
    (frames : List StreamFrame) :
    ∃ after, ((.error e :: frames).foldl handle s).responses.toList =
      s.responses.toList ++ e.feedback :: after := by
  obtain ⟨after, hafter⟩ := (s.handle (.error e)).exists_responses_foldl frames
  refine ⟨after, ?_⟩
  rw [List.foldl_cons, hafter, handle_error h]
  simp [respond]

theorem handle_evaluator (s : Shell Ctx) (frame : StreamFrame) :
    (s.handle frame).evaluator = s.evaluator := by
  rcases s.handle_cases frame with ⟨_, -, heq⟩ | ⟨_, _, _, -, heq⟩ | ⟨_, _, -, heq⟩
  · exact congrArg evaluator heq
  · exact (congrArg evaluator heq).trans rfl
  · exact (congrArg evaluator heq).trans rfl

theorem foldl_handle_evaluator (s : Shell Ctx) (frames : List StreamFrame) :
    (frames.foldl handle s).evaluator = s.evaluator := by
  induction frames generalizing s with
  | nil => rfl
  | cons frame frames ih => exact (ih _).trans (s.handle_evaluator frame)

/-- **Shells with outspoken commands** never stop. -/
theorem foldl_handle_outspoken {s : Shell Ctx} (h : s.world.IsOutspoken) (hgoes : s.failure = none)
    (frames : List StreamFrame) : (frames.foldl handle s).failure = none := by
  induction frames generalizing s with
  | nil => exact hgoes
  | cons frame frames ih =>
    have hnext : (s.handle frame).world.IsOutspoken ∧ (s.handle frame).failure = none := by
      cases frame with
      | statement text =>
        obtain ⟨⟨f, hanswer⟩, hworld⟩ := h.evaluate s.evaluator (.line text)
        rw [handle_statement hgoes]
        rcases s.evaluate_cases text with ⟨f', world, heval, heq⟩ | ⟨failure, world, heval, -⟩
        · rw [heval] at hworld
          rw [heq]
          exact ⟨hworld, hgoes⟩
        · rw [heval] at hanswer
          cases hanswer
      | error e =>
        rw [handle_error hgoes]
        exact ⟨h.of_tables rfl, hgoes⟩
    exact ih hnext.1 hnext.2

/-! ### A shell on a whole stream -/

/-- Handling a frame has nothing to do with the state of framing. -/
theorem handle_withFramer (s : Shell Ctx) (framer : Framer) (frame : StreamFrame) :
    ({ s with framer } : Shell Ctx).handle frame = { s.handle frame with framer } := by
  rcases Option.eq_none_or_eq_some s.failure with hgoes | ⟨failure, hgoes⟩
  · have hgoes' : ({ s with framer } : Shell Ctx).failure = none := hgoes
    cases frame with
    | statement text =>
      rw [handle_statement hgoes, handle_statement hgoes', evaluate, evaluate]
      rcases s.world.evaluate s.evaluator (.line text) with ⟨f | failure, world⟩ <;> rfl
    | error e =>
      rw [handle_error hgoes, handle_error hgoes']
      rfl
  · have hgoes' : ({ s with framer } : Shell Ctx).failure = some failure := hgoes
    rw [handle_of_failure hgoes, handle_of_failure hgoes']

theorem foldl_handle_withFramer (s : Shell Ctx) (framer : Framer) (frames : List StreamFrame) :
    frames.foldl handle { s with framer } = { frames.foldl handle s with framer } := by
  induction frames generalizing s with
  | nil => rfl
  | cons frame frames ih => rw [List.foldl_cons, handle_withFramer, ih, List.foldl_cons]

/-- **Streams.** A shell that reads a stream in chunks handles the frames of all of them. -/
theorem foldl_process_eq (s : Shell Ctx) (chunks : List String) :
    chunks.foldl process s =
      { (s.framer.feedEach chunks).2.foldl handle s with
        framer := (s.framer.feedEach chunks).1 } := by
  induction chunks generalizing s with
  | nil =>
    show s = { s with framer := s.framer }
    rfl
  | cons chunk chunks ih =>
    rw [List.foldl_cons, ih]
    simp only [process, Framer.feedEach, foldl_handle_withFramer, List.foldl_append]

/-- The statement that is left at the end of a stream, if it is to be evaluated. -/
def unfinished (s : Shell Ctx) : Option String :=
  if s.failure.isSome || Text.allBlank s.framer.pending || s.framer.overflowed
      || s.framer.discarding then none
  else some s.framer.pending

theorem unfinished_of_failure {s : Shell Ctx} {failure : Failure} (h : s.failure = some failure) :
    s.unfinished = none := by
  simp [unfinished, h]

theorem responses_evaluate (s : Shell Ctx) (text : String) :
    (s.evaluate text).responses.toList = s.responses.toList ++
      (s.world.evaluate s.evaluator (.line text)).1.feedback?.toList := by
  rcases s.evaluate_cases text with ⟨f, world, heval, heq⟩ | ⟨failure, world, heval, heq⟩
  · rw [heq, heval]
    exact Array.toList_push
  · rw [heq, heval]
    exact (List.append_nil _).symm

/-- The end of a stream adds the response to the statement that is left, if there is one. -/
theorem responses_finish (s : Shell Ctx) :
    s.finish.responses.toList = s.responses.toList ++
      (s.unfinished.bind fun rest =>
        (s.world.evaluate s.evaluator (.line rest)).1.feedback?).toList := by
  have hfinish : s.finish.responses = s.flush.responses := by
    unfold finish
    dsimp only
    split <;> rfl
  rw [hfinish]
  unfold flush unfinished
  dsimp only
  cases hgoes : s.failure with
  | some failure =>
    rw [handle_of_failure hgoes]
    simp
  | none =>
    rw [handle_statement hgoes]
    simp only [Option.isSome_none, Bool.false_or]
    split
    · simp
    · exact s.responses_evaluate _

end Shell

namespace Framer

/-- A framer reports its own limit. -/
theorem maximum_of_tooLong {f : Framer} {cs : List Char} {maximum : Int}
    (h : .error (.tooLong maximum) ∈ (f.run cs).2) : maximum = f.maximum := by
  induction cs generalizing f with
  | nil => cases h
  | cons c cs ih =>
    have hkept : (f.step c).1.maximum = f.maximum ∧
        ((f.step c).2 = some (.error (.tooLong maximum)) → maximum = f.maximum) := by
      cases hadvice : (f.splitter.feed c).2 with
      | ready =>
        rw [step_of_ready hadvice]
        refine ⟨rfl, fun hframe => ?_⟩
        dsimp only at hframe
        split at hframe <;> cases hframe
      | discard =>
        rw [step_of_discard hadvice]
        refine ⟨rfl, fun hframe => ?_⟩
        dsimp only at hframe
        split at hframe <;> cases hframe
      | unready =>
        rw [step_of_unready hadvice]
        split
        · exact ⟨rfl, fun hframe => by cases hframe⟩
        · split
          · exact ⟨rfl, fun hframe => by cases hframe; rfl⟩
          · exact ⟨rfl, fun hframe => by cases hframe⟩
    rw [run] at h
    rcases List.mem_append.1 h with hfirst | hrest
    · exact hkept.2 (Option.mem_toList.1 hfirst)
    · exact (ih hrest).trans hkept.1

end Framer

namespace Connection

/-! ### Frames -/

theorem write_of_unsent {c : Connection Ctx} (h : c.unsent = none) (line : String) (w : World Ctx) :
    c.write line w = ({ c with writes := c.writes.push (line ++ "\n") }, w) := by
  simp [write, h]

/-- A failure closes a connection, and no more than that is noted. -/
theorem abandon_eq (c : Connection Ctx) (failure : Failure) (w : World Ctx) :
    ∃ v, c.abandon failure w = (c.close (.ofFailure failure), v) ∧ v.tables = w.tables ∧
      v.evaluators = w.evaluators ∧ v.invocations = w.invocations := by
  unfold abandon
  split
  · rename_i reason hreason
    rw [hreason]
    exact ⟨_, rfl, rfl, rfl, w.invocations_record rfl⟩
  · exact ⟨w, rfl, rfl, rfl, rfl⟩

/-- **One frame.** Unless it reports a statement that is too long, a connection answers as a shell
does, or both are stopped by the same failure. -/
theorem answer_cases {c : Connection Ctx} {w : World Ctx} {s : Shell Ctx} (h : c.InStep w s)
    {frame : StreamFrame} (hframe : frame.isOverflow = false) :
    ((c.answer s.evaluator w frame).1.InStep (c.answer s.evaluator w frame).2 (s.handle frame) ∧
      (c.answer s.evaluator w frame).1.framer = c.framer ∧
      (c.answer s.evaluator w frame).1.decoder = c.decoder) ∨
    ((c.answer s.evaluator w frame).1.SameState (c.answer s.evaluator w frame).2
        (s.handle frame) ∧
      (c.answer s.evaluator w frame).1.Stopped (s.handle frame)) := by
  cases frame with
  | statement text =>
    have htables : ({ w.record (.inputReceived c.peer text) with context := c.context } :
        World Ctx).tables = s.world.tables := h.tables
    obtain ⟨answer, v, hshell, hconnection⟩ :=
      World.evaluate_alike htables h.evaluators h.context s.evaluator (.line text)
    have hinvocations : (v.behind (w.record (.inputReceived c.peer text)).events).invocations =
        (v.behind s.world.events).invocations := by
      rw [World.invocations_behind, World.invocations_behind]
      exact congrArg (· ++ _) ((w.invocations_record rfl).trans h.invocations)
    rw [Shell.handle_statement h.goes, Shell.evaluate, hshell]
    cases answer with
    | feedback f =>
      have hanswer : c.answer s.evaluator w (.statement text) =
          ({ c with context := v.context, writes := c.writes.push (f.render ++ "\n") },
            v.behind (w.record (.inputReceived c.peer text)).events) := by
        simp only [Connection.answer, evaluate, hconnection]
        exact write_of_unsent (c := { c with context := v.context }) h.unsent f.render _
      rw [hanswer]
      refine .inl ⟨⟨⟨rfl, rfl, rfl, hinvocations⟩, h.isOpen, h.unsent, ?_, h.goes⟩, rfl, rfl⟩
      rw [Shell.writes_respond]
      simpa [Shell.writes] using h.writes
    | raised failure =>
      obtain ⟨v', habandon, htables', hevaluators', hinvocations'⟩ := abandon_eq
        { c with context := v.context } failure
        (v.behind (w.record (.inputReceived c.peer text)).events)
      have hanswer : c.answer s.evaluator w (.statement text) =
          (({ c with context := v.context } : Connection Ctx).close (.ofFailure failure), v') := by
        simp only [Connection.answer, evaluate, hconnection]
        exact habandon
      rw [hanswer]
      exact .inr ⟨⟨rfl, htables', hevaluators', hinvocations'.trans hinvocations⟩,
        ⟨failure, rfl, rfl⟩, h.writes⟩
  | error e =>
    cases e with
    | tooLong maximum => cases hframe
    | unbalanced =>
      have hanswer : c.answer s.evaluator w (.error .unbalanced) =
          c.write FrameError.unbalanced.feedback.render w := rfl
      rw [hanswer, Shell.handle_error h.goes, write_of_unsent h.unsent]
      refine .inl ⟨⟨⟨h.context, h.tables, h.evaluators, ?_⟩, h.isOpen, h.unsent, ?_, h.goes⟩, rfl,
        rfl⟩
      · exact h.invocations.trans (s.world.invocations_record rfl).symm
      · rw [Shell.writes_respond]
        simpa [Shell.writes] using h.writes

/-- What becomes of a connection that was in step with a shell when it does not answer all frames:
it answers some in front as the shell does, and is closed by a failure that stops the shell too, or
by the next frame if that reports a statement as too long. -/
structure Parted (c : Connection Ctx) (w : World Ctx) (s : Shell Ctx)
    (frames front later : List StreamFrame) : Prop where
  frames_eq : frames = front ++ later
  clear : ∀ frame ∈ front, frame.isOverflow = false
  same : c.SameState w (front.foldl Shell.handle s)
  closed : c.Stopped (front.foldl Shell.handle s) ∨
    (c.Overflowed (front.foldl Shell.handle s) ∧
      ∃ maximum rest, later = .error (.tooLong maximum) :: rest)

namespace Parted

variable {c : Connection Ctx} {w : World Ctx} {s : Shell Ctx} {frames front later : List StreamFrame}

theorem isOpen (h : c.Parted w s frames front later) : c.isOpen = false := by
  rcases h.closed with hstopped | ⟨hover, -⟩
  · obtain ⟨failure, -, hclosing⟩ := hstopped.closing
    rw [Connection.isOpen, hclosing]
    rfl
  · rw [Connection.isOpen, hover.closing]
    rfl

theorem append (h : c.Parted w s frames front later) (more : List StreamFrame) :
    c.Parted w s (frames ++ more) front (later ++ more) := by
  refine ⟨?_, h.clear, h.same, ?_⟩
  · rw [h.frames_eq, List.append_assoc]
  · rcases h.closed with hstopped | ⟨hover, maximum, rest, hlater⟩
    · exact .inl hstopped
    · exact .inr ⟨hover, maximum, rest ++ more, by rw [hlater, List.cons_append]⟩

theorem prepend {before : List StreamFrame} (hbefore : ∀ frame ∈ before, frame.isOverflow = false)
    (h : c.Parted w (before.foldl Shell.handle s) frames front later) :
    c.Parted w s (before ++ frames) (before ++ front) later := by
  refine ⟨?_, List.forall_mem_append.2 ⟨hbefore, h.clear⟩, ?_, ?_⟩
  · rw [h.frames_eq, List.append_assoc]
  · rw [List.foldl_append]
    exact h.same
  · rw [List.foldl_append]
    exact h.closed

/-- No frames behind those that are answered make a difference to the shell, up to the first that
reports a statement as too long. -/
theorem foldl_eq (h : c.Parted w s frames front later) {front' later' : List StreamFrame}
    (hsplit : frames = front' ++ later') (hclear : ∀ frame ∈ front', frame.isOverflow = false)
    (hlater : ∀ frame ∈ later'.head?, frame.isOverflow = true) :
    front'.foldl Shell.handle s = front.foldl Shell.handle s := by
  rcases List.append_eq_append_iff.1 (h.frames_eq.symm.trans hsplit) with
    ⟨more, rfl, hmore⟩ | ⟨more, rfl, rfl⟩
  · rcases h.closed with hstopped | ⟨-, maximum, rest, rfl⟩
    · obtain ⟨failure, hfailure, -⟩ := hstopped.closing
      rw [List.foldl_append, Shell.foldl_handle_of_failure hfailure]
    · cases more with
      | nil => rw [List.append_nil]
      | cons first more =>
        obtain ⟨rfl, -⟩ := List.cons.inj hmore
        cases hclear _ (List.mem_append_right front List.mem_cons_self)
  · cases more with
    | nil => rw [List.append_nil]
    | cons first more =>
      have hfirst := h.clear first (List.mem_append_right front' List.mem_cons_self)
      rw [hlater first rfl] at hfirst
      cases hfirst

/-- If no statement is too long, it is a failure that closes the connection. -/
theorem of_clear (h : c.Parted w s frames front later)
    (hclear : ∀ frame ∈ frames, frame.isOverflow = false) :
    c.SameState w (frames.foldl Shell.handle s) ∧ c.Stopped (frames.foldl Shell.handle s) := by
  rw [h.foldl_eq (List.append_nil frames).symm hclear (by simp)]
  refine ⟨h.same, h.closed.resolve_right ?_⟩
  rintro ⟨-, maximum, rest, rfl⟩
  have hmem : .error (.tooLong maximum) ∈ frames := by
    rw [h.frames_eq]
    exact List.mem_append_right front List.mem_cons_self
  cases hclear _ hmem

/-- Otherwise it may also be the first statement that is too long. -/
theorem of_overflow (h : c.Parted w s frames front later) {front' later' : List StreamFrame}
    {maximum : Int} (hsplit : frames = front' ++ .error (.tooLong maximum) :: later')
    (hclear : ∀ frame ∈ front', frame.isOverflow = false) :
    c.SameState w (front'.foldl Shell.handle s) ∧
      (c.Stopped (front'.foldl Shell.handle s) ∨ c.Overflowed (front'.foldl Shell.handle s)) := by
  rw [h.foldl_eq hsplit hclear (by simp [StreamFrame.isOverflow])]
  exact ⟨h.same, h.closed.imp_right And.left⟩

end Parted

/-- A statement that is too long ends a connection. -/
theorem answer_overflow {c : Connection Ctx} {w : World Ctx} {s : Shell Ctx} (h : c.InStep w s)
    (maximum : Int) (later : List StreamFrame) :
    (c.answer s.evaluator w (.error (.tooLong maximum))).1.Parted
      (c.answer s.evaluator w (.error (.tooLong maximum))).2 s
      (.error (.tooLong maximum) :: later) [] (.error (.tooLong maximum) :: later) := by
  simp only [answer]
  rw [write_of_unsent h.unsent]
  simp only [Connection.isOpen, h.isOpen, Option.isNone_none, if_true]
  refine ⟨rfl, by simp, ⟨h.context, h.tables, h.evaluators, ?_⟩, .inr ⟨⟨h.goes, rfl, ?_⟩, ?_⟩⟩
  · exact (w.invocations_record rfl).trans h.invocations
  · simpa [close] using h.writes
  · exact ⟨maximum, later, rfl⟩

/-- **A row of frames.** A connection answers all of them as a shell does, or it does not answer all
of them. -/
theorem handleAll_cases {frames : List StreamFrame} {c : Connection Ctx} {w : World Ctx}
    {s : Shell Ctx} (h : c.InStep w s) :
    ((∀ frame ∈ frames, frame.isOverflow = false) ∧
      (handleAll s.evaluator frames c w).1.InStep (handleAll s.evaluator frames c w).2
        (frames.foldl Shell.handle s) ∧
      (handleAll s.evaluator frames c w).1.queue = [] ∧
      (handleAll s.evaluator frames c w).1.framer = c.framer ∧
      (handleAll s.evaluator frames c w).1.decoder = c.decoder) ∨
    ∃ front later, (handleAll s.evaluator frames c w).1.Parted
      (handleAll s.evaluator frames c w).2 s frames front later := by
  induction frames generalizing c w s with
  | nil => exact .inl ⟨by simp, h.withQueue [], rfl, rfl, rfl⟩
  | cons frame frames ih =>
    have hqueue := h.withQueue frames
    rw [handleAll]
    cases hframe : frame.isOverflow with
    | false =>
      have hfirst : ∀ x ∈ [frame], x.isOverflow = false := List.forall_mem_singleton.2 hframe
      rcases answer_cases hqueue hframe with ⟨hnext, hframer, hdecoder⟩ | ⟨hsame, hstopped⟩
      · have hrest := ih hnext
        rw [Shell.handle_evaluator] at hrest
        simp only [isOpen, hnext.isOpen, Option.isNone_none, if_true]
        rcases hrest with ⟨hclear, hin, hempty, hsame, hsame'⟩ | ⟨front, later, hparted⟩
        · refine .inl ⟨?_, hin, hempty, hsame.trans hframer, hsame'.trans hdecoder⟩
          exact List.forall_mem_cons.2 ⟨hframe, hclear⟩
        · exact .inr ⟨frame :: front, later, hparted.prepend hfirst⟩
      · have hparted : Parted _ _ s (frame :: frames) [frame] frames :=
          ⟨rfl, hfirst, hsame, .inl hstopped⟩
        simp only [hparted.isOpen, Bool.false_eq_true, if_false]
        exact .inr ⟨[frame], frames, hparted⟩
    | true =>
      obtain ⟨maximum, rfl⟩ := StreamFrame.eq_tooLong hframe
      have hparted := answer_overflow hqueue maximum frames
      simp only [hparted.isOpen, Bool.false_eq_true, if_false]
      exact .inr ⟨[], _, hparted⟩

/-! ### Deliveries -/

/-- Reading up to the end of chunks that are not empty gives all of their bytes. -/
theorem readAll_chunks (before : List UInt8) {cuts : List (List UInt8)}
    (hcuts : ∀ x ∈ cuts, x ≠ []) :
    Delivery.readAll before (cuts.map .data) = (.data (before ++ cuts.flatten), []) := by
  induction cuts generalizing before with
  | nil => rw [List.flatten_nil, List.append_nil, List.map_nil, Delivery.readAll]
  | cons cut cuts ih =>
    obtain ⟨hcut, hothers⟩ := List.forall_mem_cons.1 hcuts
    obtain ⟨b, bytes, rfl⟩ := List.exists_cons_of_ne_nil hcut
    rw [List.map_cons, Delivery.readAll, ih _ hothers, List.flatten_cons, List.append_assoc]

/-- Reading from chunks that are not empty gives bytes, and leaves such chunks. -/
theorem read_chunks {size : Int} (hsize : size ≠ 0) {cut : List UInt8} {cuts : List (List UInt8)}
    (hcuts : ∀ x ∈ cut :: cuts, x ≠ []) :
    ∃ (b : UInt8) (bytes : List UInt8) (rest : List (List UInt8)),
      Delivery.read size ((cut :: cuts).map .data) = (.data (b :: bytes), rest.map .data) ∧
      (∀ x ∈ rest, x ≠ []) ∧ b :: bytes ++ rest.flatten = (cut :: cuts).flatten := by
  obtain ⟨hcut, hothers⟩ := List.forall_mem_cons.1 hcuts
  obtain ⟨b, bytes, rfl⟩ := List.exists_cons_of_ne_nil hcut
  rw [List.map_cons, Delivery.read]
  by_cases hall : size < 0
  · rw [if_pos hall, readAll_chunks _ hothers]
    exact ⟨b, bytes ++ cuts.flatten, [], rfl, List.forall_mem_nil _, List.append_nil _⟩
  rw [if_neg hall]
  split
  · exact ⟨b, bytes, cuts, rfl, hothers, rfl⟩
  · rename_i hlonger
    obtain ⟨n, hn⟩ : ∃ n, size.toNat = n + 1 := Nat.exists_eq_succ_of_ne_zero (by omega)
    rw [hn, List.take_succ_cons, List.drop_succ_cons]
    refine ⟨b, bytes.take n, bytes.drop n :: cuts, rfl, ?_, ?_⟩
    · refine List.forall_mem_cons.2 ⟨fun hdrop => ?_, hothers⟩
      have hdropped := List.drop_eq_nil_iff.1 hdrop
      omega
    · rw [List.flatten_cons, List.flatten_cons, List.cons_append, ← List.append_assoc,
        List.take_append_drop, List.cons_append]

theorem serveFrom_of_end {ev : Nat} {size : Int} {ds rest : List Delivery}
    (h : Delivery.read size ds = (.data [], rest)) (c : Connection Ctx) (w : World Ctx) :
    serveFrom ev size ds c w = ((c.finish w).1, (c.finish w).2, rest) := by
  rw [serveFrom]
  split <;> simp_all

theorem serveFrom_of_data {ev : Nat} {size : Int} {ds rest : List Delivery} {b : UInt8}
    {bytes : List UInt8} (h : Delivery.read size ds = (.data (b :: bytes), rest))
    (c : Connection Ctx) (w : World Ctx) :
    serveFrom ev size ds c w =
      if (c.process ev (b :: bytes) w).1.isOpen then
        serveFrom ev size rest (c.process ev (b :: bytes) w).1 (c.process ev (b :: bytes) w).2
      else ((c.process ev (b :: bytes) w).1, (c.process ev (b :: bytes) w).2, rest) := by
  rw [serveFrom]
  split <;> simp_all

/-- The frames that are complete with some bytes. -/
def framesOf (c : Connection Ctx) (bytes : List UInt8) : List StreamFrame :=
  (c.framer.run (c.decoder.run bytes).2).2

theorem receive_eq (c : Connection Ctx) (bytes : List UInt8) :
    c.receive bytes =
      { c with
        decoder := (c.decoder.run bytes).1
        framer := (c.framer.run (c.decoder.run bytes).2).1
        queue := c.queue ++ c.framesOf bytes } := by
  simp only [receive, Text.Utf8.Decoder.feed_eq_run, Framer.feed_eq_run, String.toList_ofList]
  rfl

/-- Bytes are framed chunk by chunk. -/
theorem framesOf_append {c c' : Connection Ctx} {bytes : List UInt8}
    (hdecoder : c'.decoder = (c.receive bytes).decoder)
    (hframer : c'.framer = (c.receive bytes).framer) (more : List UInt8) :
    c.framesOf (bytes ++ more) = c.framesOf bytes ++ c'.framesOf more := by
  rw [receive_eq] at hdecoder hframer
  unfold framesOf
  rw [hdecoder, hframer, Text.Utf8.Decoder.run_append, Framer.run_append]

/-- What becomes of a connection that was in step with a shell when it answers all frames. -/
structure Ended (c : Connection Ctx) (w : World Ctx) (s : Shell Ctx) (frames : List StreamFrame) :
    Prop where
  clear : ∀ frame ∈ frames, frame.isOverflow = false
  goes : (frames.foldl Shell.handle s).failure = none
  closing : c.closing = some .ended
  writes : c.writes.toList = (frames.foldl Shell.handle s).writes
  same : c.SameState w (frames.foldl Shell.handle s)

/-- **Connections.** However bytes are delivered and read, a connection answers all of their frames
as a shell does, or it does not answer all of them. -/
theorem serveFrom_cases {size : Int} (hsize : size ≠ 0) {cuts : List (List UInt8)}
    {c : Connection Ctx} {w : World Ctx} {s : Shell Ctx} (hcuts : ∀ x ∈ cuts, x ≠ [])
    (h : c.InStep w s) (hqueue : c.queue = []) :
    (serveFrom s.evaluator size (cuts.map .data) c w).1.Ended
        (serveFrom s.evaluator size (cuts.map .data) c w).2.1 s (c.framesOf cuts.flatten) ∨
      ∃ front later, (serveFrom s.evaluator size (cuts.map .data) c w).1.Parted
        (serveFrom s.evaluator size (cuts.map .data) c w).2.1 s (c.framesOf cuts.flatten)
        front later := by
  -- a read may take a part of a chunk, so the induction is on the bytes that are left
  induction hn : cuts.flatten.length using Nat.strong_induction_on generalizing cuts c w s with
  | _ n ih =>
    subst hn
    cases cuts with
    | nil =>
      have hend : Delivery.read size (([] : List (List UInt8)).map .data) = (.data [], []) := rfl
      rw [serveFrom_of_end hend]
      refine .inl ⟨?_, h.goes, rfl, h.writes, ⟨h.context, h.tables, h.evaluators, ?_⟩⟩
      · intro frame hframe
        cases hframe
      · exact (w.invocations_record rfl).trans h.invocations
    | cons cut cuts =>
      obtain ⟨b, bytes, rest, hread, hrest, hflat⟩ := read_chunks hsize hcuts
      rw [serveFrom_of_data hread, ← hflat]
      have hreceived : (c.receive (b :: bytes)).InStep w s := by
        rw [receive_eq]
        exact ⟨⟨h.context, h.tables, h.evaluators, h.invocations⟩, h.isOpen, h.unsent, h.writes,
          h.goes⟩
      have hwaiting : (c.receive (b :: bytes)).queue = c.framesOf (b :: bytes) := by
        rw [receive_eq, hqueue, List.nil_append]
      have hshorter : rest.flatten.length < (cut :: cuts).flatten.length := by
        rw [← hflat, List.length_append, List.length_cons]
        omega
      simp only [process, hwaiting]
      rcases handleAll_cases hreceived with
        ⟨hclear, hstep, hempty, hframer, hdecoder⟩ | ⟨front, later, hparted⟩
      · have hopen : (handleAll s.evaluator (c.framesOf (b :: bytes)) (c.receive (b :: bytes))
            w).1.isOpen = true := by
          rw [isOpen, hstep.isOpen]
          rfl
        rw [if_pos hopen, framesOf_append hdecoder hframer]
        have hnext := ih _ hshorter hrest hstep hempty rfl
        rw [Shell.foldl_handle_evaluator] at hnext
        rcases hnext with hended | ⟨front, later, hparted⟩
        · refine .inl ⟨List.forall_mem_append.2 ⟨hclear, hended.clear⟩, ?_, hended.closing, ?_, ?_⟩
          · rw [List.foldl_append]
            exact hended.goes
          · rw [List.foldl_append]
            exact hended.writes
          · rw [List.foldl_append]
            exact hended.same
        · exact .inr ⟨_, later, hparted.prepend hclear⟩
      · rw [hparted.isOpen, if_neg Bool.false_ne_true, framesOf_append rfl rfl]
        exact .inr ⟨front, _, hparted.append _⟩

theorem inStep_fresh (w : World Ctx) (ev : Nat) (peer : String) (context : Ctx) :
    (fresh w ev peer context).InStep (w.record (.connectionOpened peer))
      (Shell.start { w with context } ev) :=
  ⟨⟨rfl, rfl, rfl, w.invocations_record rfl⟩, rfl, rfl, rfl, rfl⟩

/-- A connection that is new frames the bytes of a text as a new framer does the text. -/
theorem framesOf_fresh (w : World Ctx) (ev : Nat) (peer : String) (context : Ctx) (text : String) :
    (fresh w ev peer context).framesOf (Server.bytesOf text) =
      (({ maximum := (w.limits ev).maxLength } : Framer).feed text).2 := by
  show (Framer.run _ (Text.Utf8.Decoder.run {} _).2).2 = _
  rw [Text.Utf8.Decoder.run_bytesOf, Framer.feed_eq_run]
  rfl

end Connection

/-- The frames of a text one of which reports a statement that is too long, split at the first that
does. -/
theorem Framer.exists_first_overflow {f : Framer} {text : String}
    (h : ∃ frame ∈ (f.feed text).2, frame.isOverflow = true) :
    ∃ front later, (f.feed text).2 = front ++ .error (.tooLong f.maximum) :: later ∧
      ∀ frame ∈ front, frame.isOverflow = false := by
  obtain ⟨first, hfirst⟩ := Option.isSome_iff_exists.1 (List.find?_isSome.2 h)
  obtain ⟨hover, front, later, hsplit, hclear⟩ := List.find?_eq_some_iff_append.1 hfirst
  obtain ⟨maximum, rfl⟩ := first.eq_tooLong hover
  have hmem : .error (.tooLong maximum) ∈ (f.run text.toList).2 := by
    rw [← feed_eq_run, hsplit]
    exact List.mem_append_right front List.mem_cons_self
  obtain rfl : maximum = f.maximum := maximum_of_tooLong hmem
  exact ⟨front, later, hsplit, fun frame hframe => by simpa using hclear frame hframe⟩

/-- **A connection and a shell give the same session.** A text is cut into chunks for a shell in any
way, and its bytes into chunks for a connection in any other way; they start with the same context.

At the end of the stream the shell, and only the shell, evaluates a last statement that no newline
ends. Apart from that, if no statement is too long, both write the same, run the same handlers and
end with the same context and tables, and a failure that stops the shell closes the connection.
Otherwise the connection writes what the shell writes before its first report of a statement as too
long, then the line that the buffer is full, and no more; and no handler has been run for it but
those of the statements before. If it is one of these that stops the shell, then there is no such
report, and the connection is closed by the same failure; outspoken commands never stop it. -/
theorem connection_keeps_session (w : World Ctx) (ev : Nat) (peer : String) (context : Ctx)
    (text : String) (chunks : List String) (hchunks : String.join chunks = text)
    (cuts : List (List UInt8)) (hcuts : cuts.flatten = Server.bytesOf text)
    (hnonempty : ∀ cut ∈ cuts, cut ≠ []) (size : Int) (hsize : size ≠ 0) :
    let maximum : Int := (w.limits ev).maxLength
    let frames := (({ maximum } : Framer).feed text).2
    let start := Shell.start { w with context } ev
    let read := chunks.foldl Shell.process start
    let shell := start.run chunks
    let served := (Connection.fresh w ev peer context).serve ev size (cuts.map .data) w
    shell.responses.toList = read.responses.toList ++
        (read.unfinished.bind fun rest =>
          (read.world.evaluate ev (.line rest)).1.feedback?).toList ∧
      ((∀ frame ∈ frames, frame.isOverflow = false) →
        served.1.closing = some ((read.failure.map .ofFailure).getD .ended) ∧
          served.1.writes.toList = read.writes ∧ served.1.SameState served.2.1 read) ∧
      ((∃ frame ∈ frames, frame.isOverflow = true) →
        ∃ front later, frames = front ++ .error (.tooLong maximum) :: later ∧
          (∀ frame ∈ front, frame.isOverflow = false) ∧
          let before := front.foldl Shell.handle start
          served.1.SameState served.2.1 before ∧
            (before.failure = none →
              served.1.closing = some .overflowed ∧
                served.1.writes.toList = before.writes ++ [Connection.overflowLine ++ "\n"] ∧
                ∃ after, shell.responses.toList =
                  before.responses.toList ++ (FrameError.tooLong maximum).feedback :: after) ∧
            ∀ failure, before.failure = some failure →
              served.1.closing = some (.ofFailure failure) ∧
                served.1.writes.toList = before.writes ∧
                shell.responses.toList = before.responses.toList) ∧
      (w.IsOutspoken →
        read.failure = none ∧
          ∀ front : List StreamFrame, (front.foldl Shell.handle start).failure = none) := by
  intro maximum frames start read shell served
  have heach : start.framer.feedEach chunks = ({ maximum } : Framer).feed text := by
    rw [Framer.feedEach_eq_run, Framer.feed_eq_run, ← hchunks, String.toList_join]
    rfl
  have hread : read = { frames.foldl Shell.handle start with
      framer := (start.framer.feedEach chunks).1 } := by
    have hprocess := start.foldl_process_eq chunks
    rw [heach] at hprocess ⊢
    exact hprocess
  have hresponses : shell.responses.toList = read.responses.toList ++
      (read.unfinished.bind fun rest =>
        (read.world.evaluate ev (.line rest)).1.feedback?).toList := by
    have hevaluator : read.evaluator = ev := by
      rw [hread]
      exact start.foldl_handle_evaluator frames
    rw [← hevaluator]
    exact read.responses_finish
  have hcases := Connection.serveFrom_cases hsize hnonempty
    (Connection.inStep_fresh w ev peer context) rfl
  rw [hcuts, Connection.framesOf_fresh] at hcases
  refine ⟨hresponses, fun hclear => ?_, fun hlong => ?_, fun hspoken => ?_⟩
  · rw [hread]
    rcases hcases with hended | ⟨front, later, hparted⟩
    · refine ⟨?_, hended.writes, hended.same.context, hended.same.tables, hended.same.evaluators,
        hended.same.invocations⟩
      exact hended.closing.trans (by rw [hended.goes]; rfl)
    · obtain ⟨hsame, hstopped⟩ := hparted.of_clear hclear
      obtain ⟨failure, hfailure, hclosing⟩ := hstopped.closing
      refine ⟨hclosing.trans ?_, hstopped.writes, hsame.context, hsame.tables, hsame.evaluators,
        hsame.invocations⟩
      rw [hfailure]
      rfl
  · obtain ⟨front, later, hsplit, hclear⟩ := Framer.exists_first_overflow hlong
    have hall : frames.foldl Shell.handle start =
        (.error (.tooLong maximum) :: later).foldl Shell.handle
          (front.foldl Shell.handle start) := by
      rw [← List.foldl_append]
      exact congrArg _ hsplit
    rcases hcases with hended | ⟨front', later', hparted⟩
    · obtain ⟨frame, hmem, hframe⟩ := hlong
      rw [hended.clear frame hmem] at hframe
      cases hframe
    obtain ⟨hsame, hclosed⟩ := hparted.of_overflow hsplit hclear
    refine ⟨front, later, hsplit, hclear, hsame, fun hgoes => ?_, fun failure hfailure => ?_⟩
    · rcases hclosed with hstopped | hover
      · obtain ⟨failure, hfailure, -⟩ := hstopped.closing
        cases hgoes.symm.trans hfailure
      · obtain ⟨after, hafter⟩ :=
          Shell.exists_responses_foldl_error hgoes (.tooLong maximum) later
        refine ⟨hover.closing, hover.writes, ?_⟩
        rw [hresponses, hread, hall, hafter, List.append_assoc, List.cons_append]
        exact ⟨_, rfl⟩
    · rcases hclosed with hstopped | hover
      · obtain ⟨failure', hfailure', hclosing⟩ := hstopped.closing
        obtain rfl := Option.some.inj (hfailure.symm.trans hfailure')
        rw [Shell.foldl_handle_of_failure hfailure] at hall
        refine ⟨hclosing, hstopped.writes, ?_⟩
        rw [hresponses, hread, Shell.unfinished_of_failure (hall ▸ hfailure), hall]
        exact List.append_nil _
      · cases hover.goes.symm.trans hfailure
  · have hstart : start.world.IsOutspoken := hspoken.of_tables rfl
    refine ⟨?_, Shell.foldl_handle_outspoken hstart rfl⟩
    rw [hread]
    exact Shell.foldl_handle_outspoken hstart rfl frames

/-- A host with short statements. -/
def curtWorld : World (List String) :=
  { World.notingWorld with
    evaluators := [{ limits := { maxDepth := 2, maxLength := 8 }, table := 0 }] }

/-- Chunks of bytes that cut a character, the second of which has a statement that is too long, a
statement behind it and the beginning of another one. -/
def curtChunks : List (List UInt8) :=
  [[0x6E, 0x6F, 0x74, 0x65, 0x20, 0xC3],
    [0xA9, 0x0A, 0x30, 0x31, 0x32, 0x33, 0x34, 0x35, 0x36, 0x37, 0x38, 0x0A, 0x6E, 0x6F, 0x74, 0x65,
      0x20, 0x62, 0x0A, 0x6E, 0x6F, 0x74, 0x65]]

/-- The client reads the response to the statement in front and the line that the buffer is full. -/
theorem connection_keeps_session_curt :
    String.join ["note é\n0123", "45678\nnote b\nno", "te"] = "note é\n012345678\nnote b\nnote" ∧
      curtChunks.flatten = Server.bytesOf "note é\n012345678\nnote b\nnote" ∧
      ((Connection.fresh curtWorld 0 "client" []).serve 0 5 (curtChunks.map .data)
        curtWorld).1.writes.toList = ["é\n", "Err: Internal buffer is full, disconnecting\n"] := by
  have hchunks : String.join ["note é\n0123", "45678\nnote b\nno", "te"] =
      "note é\n012345678\nnote b\nnote" := by decide
  have hcuts : curtChunks.flatten = Server.bytesOf "note é\n012345678\nnote b\nnote" := by
    rw [Server.bytesOf_eq]
    decide
  have hframes : (({ maximum := (curtWorld.limits 0).maxLength } : Framer).feed
      "note é\n012345678\nnote b\nnote").2 =
      [.statement "note é", .error (.tooLong 8), .statement "note b"] := by decide
  have hbefore : ([.statement "note é"].foldl Shell.handle
      (Shell.start { curtWorld with context := [] } 0)).writes = ["é\n"] := by decide +kernel
  obtain ⟨-, -, hover, -⟩ := connection_keeps_session curtWorld 0 "client" [] _ _ hchunks _ hcuts
    (by decide) 5 (by decide)
  obtain ⟨front, later, hsplit, hclear, -, hfull, -⟩ :=
    hover ⟨.error (.tooLong 8), by rw [hframes]; decide, rfl⟩
  refine ⟨hchunks, hcuts, ?_⟩
  obtain rfl : front = [.statement "note é"] := by
    have hparts : [.statement "note é", .error (.tooLong 8), .statement "note b"] =
        front ++ .error (.tooLong 8) :: later := hframes.symm.trans hsplit
    rcases front with _ | ⟨first, _ | ⟨second, more⟩⟩
    · cases hparts
    · cases hparts
      rfl
    · obtain rfl : second = .error (.tooLong 8) := (List.cons.inj (List.cons.inj hparts).2).1.symm
      cases hclear _ (List.mem_cons_of_mem _ List.mem_cons_self)
  obtain ⟨-, hwrites, -⟩ := hfull (by decide +kernel)
  rw [hwrites, hbefore]
  decide

end CommandShell
