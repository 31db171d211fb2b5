import CommandShell.Proofs.BatchFraming
import CommandShell.Proofs.Grammar
import CommandShell.Proofs.Session
import CommandShell.Proofs.UnfinishedCall

/-!
# The end of a stream

A shell answers the frames of its stream as they come, and at the end of the stream it looks at what
is left in the buffer. So one and the same statement is handled in two ways, depending on whether a
newline ends it. Both come to the same: what is left is handled as the statement of the last piece,
if the piece is one, and so a shell answers the frames of all pieces of its stream, the last one
included.

* `cutting_pieces`, `cutting_joined` — a stream is cut into segments, and segments that are put
  together are cut as they were;
* `run_eq_pieces` — **a shell answers the pieces of its stream**, in whatever chunks it reads it;
* `parse_of_open` — a segment in which a parenthesis stays open does not parse;
* `stream_end_loses_nothing` — chunk sizes do not matter, every statement is answered, one that ends
  inside parentheses by an error, and a newline at the end makes no difference.
-/

namespace CommandShell

variable {Ctx : Type}

/-! ### Pieces and segments -/

/-- All pieces of a stream in order. -/
def Cutting.pieces (cut : Cutting) : List (List Char) := cut.complete ++ [cut.last]

/-- The text of complete pieces, each with the newline that ends it. -/
def endedText (pieces : List (List Char)) : List Char := pieces.flatMap (· ++ ['\n'])

theorem endedText_cons (piece : List Char) (pieces : List (List Char)) :
    endedText (piece :: pieces) = piece ++ '\n' :: endedText pieces := by
  rw [endedText, List.flatMap_cons, List.append_assoc]
  rfl

theorem endedText_append_singleton (pieces : List (List Char)) (piece : List Char) :
    endedText (pieces ++ [piece]) = endedText pieces ++ (piece ++ ['\n']) := by
  rw [endedText, List.flatMap_append, List.flatMap_singleton]
  rfl

theorem Splitter.feedAll_depth (s : Splitter) (cs : List Char) :
    (s.feedAll cs).depth = cs.foldl depthBehind s.depth := by
  induction cs generalizing s with
  | nil => rfl
  | cons c cs ih => rw [feedAll_cons, ih, feed_depthBehind, List.foldl_cons]

theorem cutFrom_unbroken {s : Splitter} {cs : List Char} (h : s.Unbroken cs) (begun : List Char) :
    cutFrom s.depth begun cs = ⟨[], begun ++ cs⟩ := by
  induction cs generalizing s begun with
  | nil => rw [cutFrom, List.append_nil]
  | cons c cs ih =>
    obtain ⟨hready, hun⟩ := h
    rw [Ne, Splitter.feed_ready_iff] at hready
    have hrest := ih hun (begun ++ [c])
    rw [cutFrom, if_neg hready, ← Splitter.feed_depthBehind, hrest, List.append_assoc,
      List.singleton_append]

theorem cutFrom_newline {s : Splitter} {seg : List Char} (h : s.Unbroken seg)
    (h0 : (s.feedAll seg).depth = 0) (begun rest : List Char) :
    cutFrom s.depth begun (seg ++ '\n' :: rest) =
      ⟨(begun ++ seg) :: (cutting rest).complete, (cutting rest).last⟩ := by
  induction seg generalizing s begun with
  | nil =>
    rw [Splitter.feedAll_nil] at h0
    rw [List.nil_append, cutFrom, if_pos ⟨rfl, h0⟩, List.append_nil]
    rfl
  | cons c seg ih =>
    obtain ⟨hready, hun⟩ := h
    rw [Ne, Splitter.feed_ready_iff] at hready
    have hrest := ih hun h0 (begun ++ [c])
    rw [List.cons_append, cutFrom, if_neg hready, ← Splitter.feed_depthBehind, hrest,
      List.append_assoc, List.singleton_append]

/-- A segment that ends outside parentheses. -/
def IsEnded (seg : List Char) : Prop := Splitter.Unbroken {} seg ∧ openDepth seg = 0

theorem cutting_unbroken {seg : List Char} (h : Splitter.Unbroken {} seg) :
    cutting seg = ⟨[], seg⟩ := cutFrom_unbroken h []

theorem cutting_newline {seg : List Char} (h : IsEnded seg) (rest : List Char) :
    cutting (seg ++ '\n' :: rest) = ⟨seg :: (cutting rest).complete, (cutting rest).last⟩ := by
  refine cutFrom_newline (s := {}) h.1 ?_ [] rest
  rw [Splitter.feedAll_depth]
  exact h.2

/-- **Pieces are segments.** The pieces of a stream hold no newline that ends a statement; the
complete ones end outside parentheses, the last one at the depth at which the stream ends; and
together they are the stream. -/
theorem cutting_pieces (cs : List Char) :
    (∀ piece ∈ (cutting cs).complete, IsEnded piece) ∧
      Splitter.Unbroken {} (cutting cs).last ∧
      openDepth (cutting cs).last = openDepth cs ∧
      endedText (cutting cs).complete ++ (cutting cs).last = cs := by
  induction cs using Splitter.segment_induction with
  | last seg hun =>
    rw [cutting_unbroken hun]
    exact ⟨List.forall_mem_nil _, hun, rfl, rfl⟩
  | more seg rest hun h0 ih =>
    obtain ⟨hcomplete, hlast, hdepth, hjoined⟩ := ih
    rw [Splitter.feedAll_depth] at h0
    have hended : IsEnded seg := ⟨hun, h0⟩
    rw [cutting_newline hended]
    refine ⟨List.forall_mem_cons.2 ⟨hended, hcomplete⟩, hlast, hdepth.trans ?_, ?_⟩
    · -- The newline stands outside parentheses and opens none.
      have hstart : seg.foldl depthBehind 0 = 0 := h0
      rw [openDepth, openDepth, List.foldl_append, hstart]
      rfl
    · rw [endedText_cons, List.append_assoc, List.cons_append, hjoined]

/-- **Pieces put together** are cut as they were. -/
theorem cutting_joined {complete : List (List Char)} {last : List Char}
    (h : ∀ piece ∈ complete, IsEnded piece) (hlast : Splitter.Unbroken {} last) :
    cutting (endedText complete ++ last) = ⟨complete, last⟩ := by
  induction complete with
  | nil => exact cutting_unbroken hlast
  | cons piece complete ih =>
    obtain ⟨hpiece, hrest⟩ := List.forall_mem_cons.1 h
    rw [endedText_cons, List.append_assoc, List.cons_append, cutting_newline hpiece, ih hrest]

/-! ### A segment that stays open -/

/-- **Open segments.** A segment in which a parenthesis stays open, and nothing closes too much, is
refused as unbalanced. -/
theorem parse_of_open {limits : Limits} {seg : List Char} {depth : Nat}
    (hun : Splitter.Unbroken {} seg) (hnest : nesting charSide 0 seg = some (depth + 1))
    (hlen : (seg.length : Int) ≤ limits.maxLength) :
    ∃ error, parse (String.ofList seg) limits = .error error ∧
      error.kind = .unbalancedParentheses := by
  -- It has tokens, among which the parenthesis is open too, or a literal that is not closed.
  rcases readsOrUnclosed hun with hreads | ⟨q, hq⟩
  · obtain ⟨tokens, hread⟩ := hreads 0
    have hmatched : nesting Token.side 0 tokens = some (depth + 1) :=
      (hread.nesting_eq 0).trans hnest
    have htokenize : tokenize (String.ofList seg) limits.maxLength = .ok tokens := by
      cases tokens with
      | nil => cases hmatched
      | cons token tokens =>
        refine tokenize_of_reads ?_ ?_
        · rw [String.length_ofList]
          exact hlen
        · rw [String.toList_ofList]
          exact hread
    rw [parse_of_tokenize htokenize]
    rcases build_cases tokens limits.maxDepth (String.ofList seg) with ⟨-, herror⟩ | ⟨hclosed, -⟩
    · exact herror
    · rw [hmatched] at hclosed
      cases hclosed
  · have hclosed := parse_of_unclosed (hq 0) hlen
    exact ⟨_, hclosed, rfl⟩

/-! ### Shells on pieces -/

theorem pieceFrames_nil (maximum : Nat) : pieceFrames maximum [] = [] := rfl

/-- A piece that is not blank has a frame. -/
theorem pieceFrames_ne_nil {piece : List Char} (h : piece.all isBlank = false) (maximum : Nat) :
    pieceFrames maximum piece ≠ [] := by
  rw [pieceFrames, pieceStatement]
  by_cases herrors : pieceErrors maximum piece = []
  · rw [if_pos ⟨herrors, by simp [h]⟩]
    simp
  · simp [herrors]

/-- The frames of a whole stream, the last piece included. -/
def streamFrames (maximum : Nat) (cs : List Char) : List StreamFrame :=
  (cutting cs).pieces.flatMap (pieceFrames maximum)

/-- The end of a stream adds the statement of the last piece. -/
theorem streamFrames_eq (maximum : Nat) (cs : List Char) :
    streamFrames maximum cs =
      batchFrames maximum cs ++ pieceStatement maximum (cutting cs).last := by
  rw [streamFrames, Cutting.pieces, List.flatMap_append, List.flatMap_singleton, pieceFrames,
    batchFrames, List.append_assoc]

namespace Shell

/-- What is left in the buffer is handled as the statement of the piece. -/
theorem flush_within {s : Shell Ctx} {maximum : Nat} {piece : List Char}
    (h : s.framer = .within maximum piece) :
    s.flush = (pieceStatement maximum piece).foldl handle s := by
  -- The flags and the buffer tell just whether the piece is a statement.
  have hcases : (Text.allBlank s.framer.pending || s.framer.overflowed || s.framer.discarding) =
      !decide (pieceErrors maximum piece = [] ∧ ¬ piece.all isBlank) := by
    rw [h]
    cases hnest : nesting charSide 0 piece with
    | none =>
      rw [pieceErrors_of_none hnest, Framer.within_of_none hnest]
      simp
    | some d =>
      rw [pieceErrors_of_nesting hnest, Framer.within_of_nesting hnest]
      by_cases hlong : maximum < piece.length
      · simp [hlong]
      · cases hb : piece.all isBlank <;> simp [hlong, hb, Framer.pending, Text.allBlank]
  unfold flush
  dsimp only
  rw [hcases, pieceStatement]
  by_cases hstatement : pieceErrors maximum piece = [] ∧ ¬ piece.all isBlank
  · have hpending : s.framer.pending = String.ofList piece := by
      rw [h, Framer.pending, Framer.within, if_pos hstatement.1]
    rw [decide_eq_true hstatement, if_pos hstatement, hpending]
    rfl
  · rw [decide_eq_false hstatement, if_neg hstatement]
    rfl

/-- The shell that has answered the frames of a stream. -/
def answered (w : World Ctx) (ev : Nat) (frames : List StreamFrame) : Shell Ctx :=
  frames.foldl handle (start w ev)

theorem answered_append (w : World Ctx) (ev : Nat) (frames later : List StreamFrame) :
    answered w ev (frames ++ later) = later.foldl handle (answered w ev frames) :=
  List.foldl_append

/-- The world at the end of a stream: it is recorded that the stream ended, unless the shell was
stopped before. -/
def worldAtEnd (s : Shell Ctx) : World Ctx :=
  match s.failure with
  | some _ => s.world
  | none => s.world.record (.streamEnded s.count)

/-- The shell at the end of its stream, with what framing is left with. -/
def closed (s : Shell Ctx) (framer : Framer) : Shell Ctx :=
  { s with framer, world := s.worldAtEnd }

@[simp] theorem closed_responses (s : Shell Ctx) (framer : Framer) :
    (s.closed framer).responses = s.responses := rfl

@[simp] theorem closed_count (s : Shell Ctx) (framer : Framer) :
    (s.closed framer).count = s.count := rfl

@[simp] theorem closed_output (s : Shell Ctx) (framer : Framer) :
    (s.closed framer).output = s.output := rfl

@[simp] theorem closed_failure (s : Shell Ctx) (framer : Framer) :
    (s.closed framer).failure = s.failure := rfl

@[simp] theorem closed_world (s : Shell Ctx) (framer : Framer) :
    (s.closed framer).world = s.worldAtEnd := rfl

/-- At its end a stream changes nothing but the record. -/
theorem worldAtEnd_same (s : Shell Ctx) :
    s.worldAtEnd.invocations = s.world.invocations ∧ s.worldAtEnd.context = s.world.context ∧
      s.worldAtEnd.tables = s.world.tables := by
  unfold worldAtEnd
  split
  · exact ⟨rfl, rfl, rfl⟩
  · exact ⟨s.world.invocations_record rfl, rfl, rfl⟩

theorem finish_eq (s : Shell Ctx) : s.finish = s.flush.closed s.flush.framer := by
  rw [finish, closed, worldAtEnd]
  generalize s.flush = s
  rcases s with ⟨_, _, _, _, _, _ | failure⟩ <;> rfl

/-- **A shell answers the pieces of its stream**, in whatever chunks it reads it. -/
theorem run_eq_pieces (w : World Ctx) (ev : Nat) (chunks : List String) :
    let maximum := (w.limits ev).maxLength
    let stream := (String.join chunks).toList
    (start w ev).run chunks =
      (answered w ev (streamFrames maximum stream)).closed
        (.within maximum (cutting stream).last) := by
  intro maximum stream
  have heach : (start w ev).framer.feedEach chunks =
      (.within maximum (cutting stream).last, batchFrames maximum stream) := by
    rw [Framer.feedEach_eq_run, ← String.toList_join]
    exact Framer.run_eq_batch maximum stream
  have hflush : (chunks.foldl process (start w ev)).flush =
      { answered w ev (streamFrames maximum stream) with
        framer := .within maximum (cutting stream).last } := by
    have hprocess := (start w ev).foldl_process_eq chunks
    rw [heach] at hprocess
    rw [hprocess, flush_within rfl, foldl_handle_withFramer, ← List.foldl_append,
      ← streamFrames_eq]
    rfl
  rw [run, finish_eq, hflush]
  rfl

/-- A shell that goes on has given a response for every frame. -/
theorem size_foldl_handle {s : Shell Ctx} {frames : List StreamFrame}
    (h : (frames.foldl handle s).failure = none) :
    (frames.foldl handle s).responses.size = s.responses.size + frames.length := by
  induction frames generalizing s with
  | nil => rfl
  | cons frame frames ih =>
    have hone : (s.handle frame).responses.size = s.responses.size + 1 := by
      -- It would not go on if it had stopped here.
      have hgoes : (s.handle frame).failure = none := by
        refine Option.eq_none_iff_forall_ne_some.2 fun failure hstopped => ?_
        rw [List.foldl_cons, foldl_handle_of_failure hstopped, hstopped] at h
        cases h
      rcases s.handle_cases frame with ⟨_, hstopped, heq⟩ | ⟨_, _, _, -, heq⟩ | ⟨_, _, -, heq⟩
      · rw [heq, hstopped] at hgoes
        cases hgoes
      · rw [heq]
        exact Array.size_push _
      · rw [heq] at hgoes
        cases hgoes
    rw [List.foldl_cons, ih h, hone, List.length_cons]
    omega

/-- Every frame is answered by a response behind those before it, as long as the shell goes on. -/
theorem exists_row (s : Shell Ctx) (frames : List StreamFrame) :
    ∃ row, ((frames.foldl handle s).failure = none → row.length = frames.length) ∧
      (frames.foldl handle s).responses.toList = s.responses.toList ++ row := by
  obtain ⟨row, hrow⟩ := s.exists_responses_foldl frames
  refine ⟨row, fun hgoes => ?_, hrow⟩
  have hsize := size_foldl_handle hgoes
  rw [← Array.length_toList, hrow, List.length_append, Array.length_toList] at hsize
  omega

theorem handle_evaluators (s : Shell Ctx) (frame : StreamFrame) :
    (s.handle frame).world.evaluators = s.world.evaluators := by
  rcases Option.eq_none_or_eq_some s.failure with hgoes | ⟨failure, hgoes⟩
  · cases frame with
    | statement text =>
      have hkept := s.world.evaluate_evaluators s.evaluator (.line text)
      rw [handle_statement hgoes]
      rcases s.evaluate_cases text with ⟨f, world, heval, heq⟩ | ⟨failure, world, heval, heq⟩ <;>
        · rw [heval] at hkept
          rw [heq]
          exact hkept
    | error e =>
      rw [handle_error hgoes]
      rfl
  · rw [handle_of_failure hgoes]

theorem foldl_handle_evaluators (s : Shell Ctx) (frames : List StreamFrame) :
    (frames.foldl handle s).world.evaluators = s.world.evaluators := by
  induction frames generalizing s with
  | nil => rfl
  | cons frame frames ih => exact (ih _).trans (s.handle_evaluators frame)

/-- A statement that does not parse is answered by its error, and nothing is run for it. -/
theorem handle_unparsed {s : Shell Ctx} {e : Evaluator} {text : String} {error : ParseError}
    (hgoes : s.failure = none) (he : s.world.evaluators[s.evaluator]? = some e)
    (h : parse text e.limits = .error error) :
    s.handle (.statement text) =
      { s with
        world := s.world.record (.unparsed s.evaluator error)
        count := s.count + 1
        responses := s.responses.push (.ofError (.parse error)) } := by
  have hline : s.world.evaluate s.evaluator (.line text) = s.world.refusal s.evaluator error := by
    refine World.evaluate_unparsed he ?_
    rw [Input.trees, h]
    rfl
  rw [handle_statement hgoes, evaluate, hline]
  rfl

end Shell

/-! ### The end of a stream -/

/-- A text that is read in pieces of any size is read as a whole. -/
theorem join_reads {size : Int} (h : 1 ≤ size) (text : String) :
    String.join ((reads size text.toList).map String.ofList) = text := by
  refine String.toList_inj.1 ?_
  rw [String.toList_join, List.flatMap_map]
  have hpieces : (reads size text.toList).flatMap (fun cs => (String.ofList cs).toList) =
      (reads size text.toList).flatten := by
    simp [List.flatMap, String.toList_ofList]
  rw [hpieces, reads, if_neg (by omega)]
  exact flatten_pieces (by omega) text.toList

theorem Shell.runText_eq_pieces (w : World Ctx) (ev : Nat) {size : Int} (h : 1 ≤ size)
    (text : String) :
    (start w ev).runText text size =
      (answered w ev (streamFrames (w.limits ev).maxLength text.toList)).closed
        (.within (w.limits ev).maxLength (cutting text.toList).last) := by
  have hrun := run_eq_pieces w ev ((reads size text.toList).map String.ofList)
  rw [join_reads h] at hrun
  exact hrun

theorem streamFrames_joined {complete : List (List Char)} {last : List Char}
    (h : ∀ piece ∈ complete, IsEnded piece) (hlast : Splitter.Unbroken {} last) (maximum : Nat) :
    streamFrames maximum (endedText complete ++ last) =
      complete.flatMap (pieceFrames maximum) ++ pieceFrames maximum last := by
  rw [streamFrames, cutting_joined h hlast, Cutting.pieces, List.flatMap_append,
    List.flatMap_singleton]

theorem streamFrames_ended {complete : List (List Char)} (h : ∀ piece ∈ complete, IsEnded piece)
    (maximum : Nat) :
    streamFrames maximum (endedText complete) = complete.flatMap (pieceFrames maximum) := by
  have hempty : Splitter.Unbroken {} [] := trivial
  have hnone := streamFrames_joined h hempty maximum
  rwa [pieceFrames_nil, List.append_nil, List.append_nil] at hnone

/-- A newline that ends the last piece adds no frame. -/
theorem streamFrames_newline {cs : List Char} (h : openDepth cs = 0) (maximum : Nat) :
    streamFrames maximum (cs ++ ['\n']) = streamFrames maximum cs := by
  obtain ⟨hcomplete, hlast, hdepth, hjoined⟩ := cutting_pieces cs
  have hended : ∀ piece ∈ (cutting cs).pieces, IsEnded piece :=
    List.forall_mem_append.2 ⟨hcomplete, List.forall_mem_singleton.2 ⟨hlast, hdepth.trans h⟩⟩
  have hjoin : cs ++ ['\n'] = endedText (cutting cs).pieces := by
    rw [Cutting.pieces, endedText_append_singleton, ← List.append_assoc, hjoined]
  rw [hjoin, streamFrames_ended hended, streamFrames]

/-- The pieces in front of a piece are complete. -/
theorem ended_of_pieces {cs : List Char} {before after : List (List Char)} {piece : List Char}
    (h : (cutting cs).pieces = before ++ piece :: after) :
    (∀ p ∈ before, IsEnded p) ∧ Splitter.Unbroken {} piece := by
  obtain ⟨hcomplete, hlast, -, -⟩ := cutting_pieces cs
  -- The piece is the last one, or one of the complete ones.
  rcases List.append_eq_append_iff.1 h with ⟨more, hbefore, hrest⟩ | ⟨more, hbefore, hrest⟩
  · obtain ⟨rfl, hpiece⟩ : more = [] ∧ (cutting cs).last = piece := by
      cases more with
      | nil => exact ⟨rfl, (List.cons.inj hrest).1⟩
      | cons p more => simp at hrest
    rw [hbefore, List.append_nil, ← hpiece]
    exact ⟨hcomplete, hlast⟩
  · rw [hbefore] at hcomplete
    obtain ⟨hfront, hmore⟩ := List.forall_mem_append.1 hcomplete
    refine ⟨hfront, ?_⟩
    cases more with
    | nil =>
      rw [(List.cons.inj hrest).1]
      exact hlast
    | cons p more =>
      rw [(List.cons.inj hrest).1]
      exact (hmore p List.mem_cons_self).1

/-- An open piece without errors is a statement that fits: what opens a parenthesis is not blank. -/
theorem open_piece {maximum : Nat} {piece : List Char} (hopen : 0 < openDepth piece)
    (herrors : pieceErrors maximum piece = []) :
    pieceFrames maximum piece = [.statement (String.ofList piece)] ∧ piece.length ≤ maximum ∧
      ∃ depth, nesting charSide 0 piece = some (depth + 1) := by
  cases hnest : nesting charSide 0 piece with
  | none =>
    rw [pieceErrors_of_none hnest] at herrors
    simp at herrors
  | some d =>
    rw [openDepth_of_nesting hnest] at hopen
    have hfits : piece.length ≤ maximum := by
      rw [pieceErrors_of_nesting hnest] at herrors
      by_contra hlong
      rw [if_pos (by omega)] at herrors
      cases herrors
    have hblank : ¬ piece.all isBlank = true := by
      intro hall
      have hrun : IsBlankRun piece := List.all_eq_true.1 hall
      rw [nesting_of_neither hrun.charSide] at hnest
      cases hnest
      omega
    refine ⟨?_, hfits, d - 1, by rw [Nat.sub_add_cancel hopen]⟩
    rw [pieceFrames, pieceStatement, if_pos ⟨herrors, hblank⟩, herrors, List.nil_append]

/-- A piece that is not blank is answered behind the pieces in front of it, and the pieces behind it
are answered after that. -/
theorem Shell.answered_piece (w : World Ctx) (ev maximum : Nat) {cs : List Char}
    {before after : List (List Char)} {piece : List Char}
    (h : (cutting cs).pieces = before ++ piece :: after) (hpiece : piece.all isBlank = false) :
    let responses (cs : List Char) := (answered w ev (streamFrames maximum cs)).responses.toList
    ∃ row later,
      ((answered w ev (streamFrames maximum (endedText before ++ piece))).failure = none →
        row ≠ []) ∧
      responses (endedText before ++ piece) = responses (endedText before) ++ row ∧
      responses cs = responses (endedText before ++ piece) ++ later := by
  intro responses
  obtain ⟨hbefore, hunbroken⟩ := ended_of_pieces h
  have hbehind := streamFrames_joined hbefore hunbroken maximum
  rw [← streamFrames_ended hbefore] at hbehind
  have hall : streamFrames maximum cs = streamFrames maximum (endedText before ++ piece) ++
      after.flatMap (pieceFrames maximum) := by
    rw [hbehind, streamFrames_ended hbefore, streamFrames, h, List.flatMap_append,
      List.flatMap_cons, List.append_assoc]
  obtain ⟨row, hlength, hrow⟩ := exists_row
    (answered w ev (streamFrames maximum (endedText before))) (pieceFrames maximum piece)
  obtain ⟨later, -, hlater⟩ := exists_row
    (answered w ev (streamFrames maximum (endedText before ++ piece)))
    (after.flatMap (pieceFrames maximum))
  rw [← answered_append, ← hbehind] at hlength hrow
  rw [← answered_append, ← hall] at hlater
  refine ⟨row, later, fun hgoes hnone => ?_, hrow, hlater⟩
  have hframes := hlength hgoes
  rw [hnone, List.length_nil] at hframes
  exact pieceFrames_ne_nil hpiece maximum (List.length_eq_zero_iff.1 hframes.symm)

/-- A stream that ends inside parentheses, in a piece without errors, is answered like the complete
pieces alone, and by an error for the last piece unless the shell has stopped. -/
theorem Shell.answered_open {w : World Ctx} {ev : Nat} {e : Evaluator}
    (he : w.evaluators[ev]? = some e) {cs : List Char} (hopen : 0 < openDepth cs)
    (herrors : pieceErrors e.limits.maxLength (cutting cs).last = []) :
    let upTo := answered w ev
      (streamFrames e.limits.maxLength (endedText (cutting cs).complete))
    let s := answered w ev (streamFrames e.limits.maxLength cs)
    (∃ failure, upTo.failure = some failure ∧ s = upTo) ∨
      ∃ error, error.kind = .unbalancedParentheses ∧
        s.responses = upTo.responses.push (.ofError (.parse error)) ∧
        s.world = upTo.world.record (.unparsed upTo.evaluator error) ∧
        s.failure = none := by
  intro upTo s
  obtain ⟨hcomplete, hlast, hdepth, -⟩ := cutting_pieces cs
  rw [← hdepth] at hopen
  obtain ⟨hstatement, hfits, depth, hnest⟩ := open_piece hopen herrors
  obtain ⟨error, hparse, hkind⟩ := parse_of_open hlast hnest (Int.ofNat_le.2 hfits)
  have hframes : streamFrames e.limits.maxLength cs =
      streamFrames e.limits.maxLength (endedText (cutting cs).complete) ++
        [.statement (String.ofList (cutting cs).last)] := by
    rw [streamFrames_ended hcomplete, streamFrames, Cutting.pieces, List.flatMap_append,
      List.flatMap_singleton, hstatement]
  have hexists : upTo.world.evaluators[upTo.evaluator]? = some e := by
    have hevaluator : upTo.evaluator = ev := (start w ev).foldl_handle_evaluator _
    have hworld : upTo.world.evaluators = w.evaluators :=
      (start w ev).foldl_handle_evaluators _
    rw [hevaluator, hworld, he]
  have hs : s = upTo.handle (.statement (String.ofList (cutting cs).last)) := by
    simp only [s, hframes, answered_append]
    rfl
  rcases Option.eq_none_or_eq_some upTo.failure with hgoes | ⟨failure, hstopped⟩
  · rw [handle_unparsed hgoes hexists hparse] at hs
    rw [hs]
    exact .inr ⟨error, hkind, rfl, rfl, hgoes⟩
  · exact .inl ⟨failure, hstopped, hs.trans (handle_of_failure hstopped _)⟩

/-- **The end of a stream loses nothing.** Take any text, an evaluator with any context, and two
sizes of chunks. A shell comes to the same with both. Every statement of the text that is not blank
is answered, also one that no newline ends: the shell has more responses when its stream ends behind
the statement than when it ends in front of it, and none of them is lost later. If the text ends
inside parentheses, in a statement of which no error was reported, then the last response tells that
it is unbalanced, and nothing has been run for it. And if the text ends outside parentheses, a newline
at its end makes no difference to what is written, counted and done.

All this holds up to a failure that evaluation raises in place of feedback, which stops the shell;
outspoken commands never do so. -/
theorem stream_end_loses_nothing (w : World Ctx) (ev : Nat) (e : Evaluator)
    (he : w.evaluators[ev]? = some e) (text : String) (size size' : Int) (hsize : 1 ≤ size)
    (hsize' : 1 ≤ size') :
    let run (text : String) : Shell Ctx := (Shell.start w ev).runText text size
    let cut := cutting text.toList
    (Shell.start w ev).runText text size' = run text ∧
      (∀ before piece after, cut.pieces = before ++ piece :: after → piece.all isBlank = false →
        let upTo := run (String.ofList (endedText before))
        let behind := run (String.ofList (endedText before ++ piece))
        ∃ row later, (behind.failure = none → row ≠ []) ∧
          behind.responses.toList = upTo.responses.toList ++ row ∧
          (run text).responses.toList = behind.responses.toList ++ later) ∧
      (0 < openDepth text.toList → pieceErrors e.limits.maxLength cut.last = [] →
        let upTo := run (String.ofList (endedText cut.complete))
        (upTo.failure = none → ∃ f, (run text).responses.toList = upTo.responses.toList ++ [f] ∧
          f.kind = .err ∧ f.error = some .unbalancedParentheses) ∧
          (run text).world.invocations = upTo.world.invocations ∧
          (run text).world.context = upTo.world.context ∧
          (run text).world.tables = upTo.world.tables) ∧
      (openDepth text.toList = 0 →
        (run (text ++ "\n")).output = (run text).output ∧
          (run (text ++ "\n")).count = (run text).count ∧
          (run (text ++ "\n")).world = (run text).world) ∧
      (w.IsOutspoken → ∀ text, (run text).failure = none) := by
  intro run cut
  have hrun : ∀ t : String, run t =
      (Shell.answered w ev (streamFrames e.limits.maxLength t.toList)).closed
        (.within e.limits.maxLength (cutting t.toList).last) := by
    intro t
    have hlimits : w.limits ev = e.limits := by
      rw [World.limits, he]
      rfl
    rw [← hlimits]
    exact Shell.runText_eq_pieces w ev hsize t
  refine ⟨?_, ?_, ?_, ?_, ?_⟩
  · rw [Shell.runText_eq_pieces w ev hsize', ← Shell.runText_eq_pieces w ev hsize]
  · intro before piece after hpieces hpiece
    simp only [hrun, Shell.closed_responses, Shell.closed_failure, String.toList_ofList]
    exact Shell.answered_piece w ev _ hpieces hpiece
  · intro hopen herrors
    have hopened := Shell.answered_open he hopen herrors
    simp only [hrun, Shell.closed_responses, Shell.closed_failure, Shell.closed_world,
      String.toList_ofList, cut] at hopened ⊢
    simp only [Shell.worldAtEnd_same]
    rcases hopened with ⟨failure, hstopped, hsame⟩ | ⟨error, hkind, hresponses, hworld, -⟩
    · rw [hsame, hstopped]
      exact ⟨nofun, rfl, rfl, rfl⟩
    · refine ⟨fun _ => ⟨.ofError (.parse error), ?_, rfl, congrArg some hkind⟩, ?_, ?_, ?_⟩
      · rw [hresponses, Array.toList_push]
      · rw [hworld]
        exact World.invocations_record _ rfl
      · rw [hworld, World.record]
      · rw [hworld, World.record]
  · intro h0
    have hnewline : (text ++ "\n").toList = text.toList ++ ['\n'] := String.toList_append
    rw [hrun, hrun, hnewline, streamFrames_newline h0]
    simp only [Shell.closed_output, Shell.closed_count, Shell.closed_world, and_self]
  · intro hspoken text
    rw [hrun, Shell.closed_failure]
    exact Shell.foldl_handle_outspoken hspoken rfl _

/-- A text that ends inside parentheses, read in chunks of five characters: the first statement is
run and answered, the open one is answered by an error. -/
theorem stream_end_loses_nothing_curt :
    curtWorld.evaluators[0]? = some { limits := { maxDepth := 2, maxLength := 8 }, table := 0 } ∧
      cutting "note a\nnote (b".toList = ⟨["note a".toList], "note (b".toList⟩ ∧
      ((Shell.start curtWorld 0).runText "note a\nnote (b" 5).world.context = ["noted"] ∧
      ∃ f, ((Shell.start curtWorld 0).runText "note a\nnote (b" 5).responses.toList =
          [.ok "a", f] ∧
        f.error = some .unbalancedParentheses := by
  have hcut : cutting "note a\nnote (b".toList = ⟨["note a".toList], "note (b".toList⟩ := by
    decide
  have hfirst : ((Shell.start curtWorld 0).runText "note a\n" 5).responses.toList = [.ok "a"] ∧
      ((Shell.start curtWorld 0).runText "note a\n" 5).world.context = ["noted"] ∧
      ((Shell.start curtWorld 0).runText "note a\n" 5).failure = none := by
    decide +kernel
  obtain ⟨-, -, hopen, -⟩ := stream_end_loses_nothing curtWorld 0 _ rfl "note a\nnote (b" 5 1
    (by decide) (by decide)
  obtain ⟨hlast, -, hcontext, -⟩ := hopen (by decide) (by decide)
  have hupTo : String.ofList (endedText (cutting "note a\nnote (b".toList).complete) =
      "note a\n" := by
    rw [hcut]
    decide
  rw [hupTo] at hlast hcontext
  obtain ⟨f, hresponses, -, herror⟩ := hlast hfirst.2.2
  rw [hfirst.1] at hresponses
  rw [hfirst.2.1] at hcontext
  exact ⟨rfl, hcut, hcontext, f, hresponses, herror⟩

end CommandShell
