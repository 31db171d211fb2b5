import CommandShell.Proofs.FramedStatement

/-!
# Framing by pieces

What a framer makes of a stream can be told from the whole stream at once. Cut it behind every
newline outside parentheses, where a closing parenthesis without partner does not count. A piece is
too long if it has more than the allowed number of characters before its first closing parenthesis
without partner; it is unbalanced if it has such a parenthesis; and if it is neither, and not blank,
it is a statement. These are the frames of the piece, in this order, and the framer gives the frames
of one piece after the other.

The framer works on one character after the other, with flags, a depth and a buffer. All of them are
told by the characters of the piece so far (`Framer.within`), so each step is one equation.

* `within_step`, `within_newline` — a character inside a piece, and the newline that ends it;
* `within_run` — **streams**, from anywhere inside a piece;
* `framing_by_pieces` — the frames of a stream in chunks are those of its pieces, errors are
  reported as soon as they are due, and the buffer never exceeds its limit.
-/

namespace CommandShell

/-! ### Pieces of a stream -/

/-- How many parentheses are open behind a character; one that closes nothing does not count. -/
def depthBehind (depth : Nat) (c : Char) : Nat :=
  match charSide c with
  | .opens => depth + 1
  | .closes => depth - 1
  | .neither => depth

/-- How many parentheses are open behind a text. -/
def openDepth (cs : List Char) : Nat := cs.foldl depthBehind 0

/-- A stream that is cut behind every newline outside parentheses. -/
structure Cutting where
  /-- The pieces that are complete, without the newlines that end them. -/
  complete : List (List Char)
  /-- The piece that is left, which no newline ends. -/
  last : List Char
  deriving DecidableEq, Repr

/-- Cuts the rest of a stream, at a depth, behind characters of a piece that has begun. -/
def cutFrom (depth : Nat) (begun : List Char) : List Char → Cutting
  | [] => ⟨[], begun⟩
  | c :: cs =>
    if c = '\n' ∧ depth = 0 then
      ⟨begun :: (cutFrom 0 [] cs).complete, (cutFrom 0 [] cs).last⟩
    else cutFrom (depthBehind depth c) (begun ++ [c]) cs

/-- Cuts a stream. -/
def cutting (cs : List Char) : Cutting := cutFrom 0 [] cs

/-! ### The frames of a piece -/

/-- How many characters stand before the first parenthesis that closes more than is open, from a
depth on; all of them if there is none. -/
def matchedLength (depth : Nat) : List Char → Nat
  | [] => 0
  | c :: cs =>
    if c = ')' ∧ depth = 0 then 0 else matchedLength (depthBehind depth c) cs + 1

/-- Some closing parenthesis has no partner. -/
def ClosesTooMuch (cs : List Char) : Prop :=
  ∃ front, front <+: cs ∧ front.count '(' < front.count ')'

theorem closesTooMuch_iff (cs : List Char) : ClosesTooMuch cs ↔ nesting charSide 0 cs = none := by
  rw [nesting_eq_none_iff, ClosesTooMuch]
  simp only [countSide_opens, countSide_closes, Nat.zero_add]

instance : DecidablePred ClosesTooMuch := fun cs =>
  decidable_of_iff (nesting charSide 0 cs = none) (closesTooMuch_iff cs).symm

/-- The errors of a piece: that it is too long, and that it closes too much. -/
def pieceErrors (maximum : Nat) (piece : List Char) : List StreamFrame :=
  (if maximum < matchedLength 0 piece then [.error (.tooLong maximum)] else []) ++
    if ClosesTooMuch piece then [.error .unbalanced] else []

/-- The statement that a piece is, unless it has errors or is blank. -/
def pieceStatement (maximum : Nat) (piece : List Char) : List StreamFrame :=
  if pieceErrors maximum piece = [] ∧ ¬ piece.all isBlank then
    [.statement (String.ofList piece)]
  else []

/-- The frames of a piece that is complete. -/
def pieceFrames (maximum : Nat) (piece : List Char) : List StreamFrame :=
  pieceErrors maximum piece ++ pieceStatement maximum piece

/-- The frames of a stream so far: those of its complete pieces, and the errors of the last one. -/
def batchFrames (maximum : Nat) (cs : List Char) : List StreamFrame :=
  (cutting cs).complete.flatMap (pieceFrames maximum) ++ pieceErrors maximum (cutting cs).last

/-- The statement so far: the last piece, unless it has an error. -/
def batchPending (maximum : Nat) (cs : List Char) : List Char :=
  if pieceErrors maximum (cutting cs).last = [] then (cutting cs).last else []

/-! ### Characters of a piece -/

theorem openDepth_append_singleton (cs : List Char) (c : Char) :
    openDepth (cs ++ [c]) = depthBehind (openDepth cs) c := by
  rw [openDepth, List.foldl_append]
  rfl

/-- A splitter follows the depth. -/
theorem Splitter.feed_depthBehind (s : Splitter) (c : Char) :
    (s.feed c).1.depth = depthBehind s.depth c := by
  obtain ⟨d, poisoned⟩ := s
  rw [depthBehind]
  cases hs : charSide c with
  | opens => rw [eq_open_of_charSide hs, feed_open]
  | closes => rw [eq_close_of_charSide hs, feed_close_depth]
  | neither =>
    by_cases hc : c = '\n' ∧ d = 0
    · obtain ⟨rfl, rfl⟩ := hc
      rw [feed_newline_zero]
    · rw [feed_of_neither _ hs fun hn hd => hc ⟨hn, hd⟩]

theorem nesting_cons_depthBehind {d : Nat} {c : Char} (h : ¬ (c = ')' ∧ d = 0)) (cs : List Char) :
    nesting charSide d (c :: cs) = nesting charSide (depthBehind d c) cs := by
  rw [depthBehind]
  cases hs : charSide c with
  | opens => rw [nesting_opens hs]
  | neither => rw [nesting_neither hs]
  | closes =>
    cases d with
    | zero => exact absurd ⟨eq_close_of_charSide hs, rfl⟩ h
    | succ d => rw [nesting_closes_succ hs]; rfl

/-- Where nothing closes too much, the depth is the one to which the characters nest. -/
theorem openDepth_of_nesting {cs : List Char} {e : Nat} (h : nesting charSide 0 cs = some e) :
    openDepth cs = e := by
  have hfold : ∀ d, nesting charSide d cs = some e → cs.foldl depthBehind d = e := by
    clear h
    induction cs with
    | nil => exact fun d h => Option.some.inj h
    | cons c cs ih =>
      intro d h
      have hc : ¬ (c = ')' ∧ d = 0) := by
        rintro ⟨rfl, rfl⟩
        rw [nesting_closes_zero charSide_close] at h
        cases h
      rw [nesting_cons_depthBehind hc] at h
      exact ih _ h
  exact hfold 0 h

/-- Behind characters that nest, the length goes on to count. -/
theorem matchedLength_of_nesting {d e : Nat} {cs : List Char} (h : nesting charSide d cs = some e)
    (ds : List Char) : matchedLength d (cs ++ ds) = cs.length + matchedLength e ds := by
  induction cs generalizing d with
  | nil =>
    rw [nesting_nil, Option.some.injEq] at h
    rw [h, List.nil_append, List.length_nil, Nat.zero_add]
  | cons c cs ih =>
    have hc : ¬ (c = ')' ∧ d = 0) := by
      rintro ⟨rfl, rfl⟩
      rw [nesting_closes_zero charSide_close] at h
      cases h
    rw [nesting_cons_depthBehind hc] at h
    rw [List.cons_append, matchedLength, if_neg hc, ih h, List.length_cons]
    omega

theorem matchedLength_eq_length {cs : List Char} {e : Nat} (h : nesting charSide 0 cs = some e) :
    matchedLength 0 cs = cs.length := by
  have hall := matchedLength_of_nesting h []
  rwa [List.append_nil] at hall

theorem not_closesTooMuch {cs : List Char} {e : Nat} (h : nesting charSide 0 cs = some e) :
    ¬ ClosesTooMuch cs := by
  rw [closesTooMuch_iff, h]
  exact nofun

/-- Behind a parenthesis that closes too much, nothing counts any more. -/
theorem matchedLength_of_closesTooMuch {d : Nat} {cs : List Char}
    (h : nesting charSide d cs = none) (ds : List Char) :
    matchedLength d (cs ++ ds) = matchedLength d cs := by
  induction cs generalizing d with
  | nil => cases h
  | cons c cs ih =>
    by_cases hc : c = ')' ∧ d = 0
    · rw [List.cons_append, matchedLength, matchedLength, if_pos hc, if_pos hc]
    · rw [nesting_cons_depthBehind hc] at h
      rw [List.cons_append, matchedLength, matchedLength, if_neg hc, if_neg hc, ih h]

theorem nesting_append_of_none {d : Nat} {cs : List Char} (h : nesting charSide d cs = none)
    (ds : List Char) : nesting charSide d (cs ++ ds) = none := by
  rw [nesting_append, h]
  rfl

theorem pieceErrors_of_nesting {cs : List Char} {d : Nat} (h : nesting charSide 0 cs = some d)
    (maximum : Nat) :
    pieceErrors maximum cs =
      if maximum < cs.length then [.error (.tooLong maximum)] else [] := by
  rw [pieceErrors, matchedLength_eq_length h, if_neg (not_closesTooMuch h), List.append_nil]

theorem pieceErrors_of_none {cs : List Char} (h : nesting charSide 0 cs = none) (maximum : Nat) :
    pieceErrors maximum cs =
      (if maximum < matchedLength 0 cs then [.error (.tooLong maximum)] else []) ++
        [.error .unbalanced] := by
  rw [pieceErrors, if_pos ((closesTooMuch_iff cs).2 h)]

namespace Framer

/-! ### A framer within a piece -/

/-- The framer that has taken the characters of a piece that has not ended. -/
def within (maximum : Nat) (cs : List Char) : Framer where
  maximum := maximum
  splitter := ⟨openDepth cs, decide (ClosesTooMuch cs)⟩
  buffer := if pieceErrors maximum cs = [] then cs.toArray else #[]
  discarding := decide (ClosesTooMuch cs)
  overflowed := decide (maximum < matchedLength 0 cs)

/-- A new framer is within an empty piece. -/
theorem within_nil (maximum : Nat) : within maximum [] = { maximum } := rfl

section Within

variable {maximum : Nat} {cs : List Char} {c : Char}

/-- Where nothing closes too much, a framer has all characters or has found them too many. -/
theorem within_of_nesting {d : Nat} (h : nesting charSide 0 cs = some d) (maximum : Nat) :
    within maximum cs =
      { maximum, splitter := ⟨d, false⟩
        buffer := if maximum < cs.length then #[] else cs.toArray
        overflowed := decide (maximum < cs.length) } := by
  have hbuffer : (if pieceErrors maximum cs = [] then cs.toArray else #[]) =
      if maximum < cs.length then #[] else cs.toArray := by
    rw [pieceErrors_of_nesting h]
    by_cases hlong : maximum < cs.length <;> simp [hlong]
  rw [within, openDepth_of_nesting h, matchedLength_eq_length h,
    decide_eq_false (not_closesTooMuch h), hbuffer]

/-- Where something closes too much, a framer has nothing. -/
theorem within_of_none (h : nesting charSide 0 cs = none) (maximum : Nat) :
    within maximum cs =
      { maximum, splitter := ⟨openDepth cs, true⟩, discarding := true
        overflowed := decide (maximum < matchedLength 0 cs) } := by
  have hbuffer : (if pieceErrors maximum cs = [] then cs.toArray else #[]) = #[] := by
    rw [pieceErrors_of_none h, if_neg]
    simp
  rw [within, decide_eq_true ((closesTooMuch_iff cs).2 h), hbuffer]

/-- A character that goes on to nest is gathered, unless there are too many. -/
theorem within_gather {d e : Nat} (h : nesting charSide 0 cs = some d)
    (hfeed : Splitter.feed ⟨d, false⟩ c = (⟨e, false⟩, .unready))
    (hnext : nesting charSide 0 (cs ++ [c]) = some e) (maximum : Nat) :
    (within maximum cs).step c =
      (within maximum (cs ++ [c]),
        if maximum = cs.length then some (.error (.tooLong maximum)) else none) := by
  have hready : ((within maximum cs).splitter.feed c).2 = .unready := by
    rw [within_of_nesting h, hfeed]
  rw [step_of_unready hready, within_of_nesting h, within_of_nesting hnext, hfeed]
  simp only [List.length_append, List.length_singleton, decide_eq_true_eq]
  rcases Nat.lt_trichotomy maximum cs.length with hlong | rfl | hshort
  · rw [if_pos hlong]
    simp [hlong, Nat.ne_of_lt hlong, show maximum < cs.length + 1 by omega]
  · have hfull : (cs.length : Int) < (cs.toArray.push c).size := by
      rw [Array.size_push, List.size_toArray]
      omega
    simp only [Nat.lt_irrefl, hfull, Nat.lt_add_one, if_true, if_false, decide_true]
  · have hroom : ¬ maximum < cs.length := by omega
    have hroom' : ¬ maximum < cs.length + 1 := by omega
    have hne : maximum ≠ cs.length := by omega
    have hfits : ¬ (maximum : Int) < (cs ++ [c]).toArray.size := by
      rw [List.size_toArray, List.length_append, List.length_singleton]
      omega
    simp only [hroom, hroom', hne, hfits, if_false, decide_false, List.push_toArray]

/-- The first character that closes too much is reported. -/
theorem within_break (h : nesting charSide 0 cs = some 0) (maximum : Nat) :
    (within maximum cs).step ')' =
      (within maximum (cs ++ [')']), some (.error .unbalanced)) := by
  have hnext : nesting charSide 0 (cs ++ [')']) = none := by
    rw [nesting_append, h]
    rfl
  have hlength : matchedLength 0 (cs ++ [')']) = cs.length := matchedLength_of_nesting h [')']
  have hdepth : openDepth (cs ++ [')']) = 0 := by
    rw [openDepth_append_singleton, openDepth_of_nesting h]
    rfl
  have hready : ((within maximum cs).splitter.feed ')').2 = .discard := by
    rw [within_of_nesting h, Splitter.feed_close_zero]
  rw [step_of_discard hready, within_of_nesting h, within_of_none hnext, hlength, hdepth,
    Splitter.feed_close_zero]
  rfl

/-- Behind it nothing is reported any more. -/
theorem within_skip (h : nesting charSide 0 cs = none) (hc : ¬ (c = '\n' ∧ openDepth cs = 0))
    (maximum : Nat) : (within maximum cs).step c = (within maximum (cs ++ [c]), none) := by
  obtain ⟨d, hfeed⟩ : ∃ d, Splitter.feed ⟨openDepth cs, true⟩ c = (⟨d, true⟩, .discard) := by
    have hready : (Splitter.feed ⟨openDepth cs, true⟩ c).2 ≠ .ready := by
      rwa [Ne, Splitter.feed_ready_iff]
    rcases Splitter.feed_cases hready with ⟨rfl, h0⟩ | ⟨d, hfeed, -⟩
    · rw [h0]
      exact ⟨0, Splitter.feed_close_zero true⟩
    · exact ⟨d, hfeed⟩
  have hdepth : d = openDepth (cs ++ [c]) := by
    rw [openDepth_append_singleton, ← Splitter.feed_depthBehind ⟨openDepth cs, true⟩, hfeed]
  have hready : ((within maximum cs).splitter.feed c).2 = .discard := by
    rw [within_of_none h, hfeed]
  rw [step_of_discard hready, within_of_none h, within_of_none (nesting_append_of_none h [c]),
    hfeed, hdepth, matchedLength_of_closesTooMuch h]
  rfl

/-- **One character within a piece.** It becomes part of the piece, and the framer reports the
error that the piece has from it on. -/
theorem within_step (maximum : Nat) (hc : ¬ (c = '\n' ∧ openDepth cs = 0)) :
    ∃ frame, (within maximum cs).step c = (within maximum (cs ++ [c]), frame) ∧
      pieceErrors maximum (cs ++ [c]) = pieceErrors maximum cs ++ frame.toList := by
  cases h : nesting charSide 0 cs with
  | none =>
    have hnext := nesting_append_of_none h [c]
    refine ⟨none, within_skip h hc maximum, ?_⟩
    rw [pieceErrors_of_none h, pieceErrors_of_none hnext, matchedLength_of_closesTooMuch h,
      Option.toList_none, List.append_nil]
  | some d =>
    have hready : (Splitter.feed ⟨d, false⟩ c).2 ≠ .ready := by
      rwa [Ne, Splitter.feed_ready_iff, ← openDepth_of_nesting h]
    rcases Splitter.feed_cases hready with ⟨rfl, rfl⟩ | ⟨e, hfeed, hnest⟩
    · have hnext : nesting charSide 0 (cs ++ [')']) = none := by
        rw [nesting_append, h]
        rfl
      have hlength : matchedLength 0 (cs ++ [')']) = cs.length := matchedLength_of_nesting h [')']
      refine ⟨_, within_break h maximum, ?_⟩
      rw [pieceErrors_of_nesting h, pieceErrors_of_none hnext, hlength]
      rfl
    · have hnext : nesting charSide 0 (cs ++ [c]) = some e := by
        rw [nesting_append, h, Option.bind_some, hnest, nesting_nil]
      refine ⟨_, within_gather h hfeed hnext maximum, ?_⟩
      rw [pieceErrors_of_nesting h, pieceErrors_of_nesting hnext, List.length_append,
        List.length_singleton]
      -- The error is due at the one character that is too many.
      rcases Nat.lt_trichotomy maximum cs.length with hlong | hfull | hshort
      · rw [if_pos hlong, if_pos (by omega), if_neg (by omega), Option.toList_none,
          List.append_nil]
      · rw [if_pos (by omega), if_neg (by omega), if_pos hfull, List.nil_append,
          Option.toList_some]
      · rw [if_neg (by omega), if_neg (by omega), if_neg (by omega), Option.toList_none,
          List.append_nil]

/-- **The newline that ends a piece.** The framer reports the statement, if the piece is one, and
is new again. -/
theorem within_newline (maximum : Nat) (h0 : openDepth cs = 0) :
    ∃ frame, (within maximum cs).step '\n' = (within maximum [], frame) ∧
      pieceFrames maximum cs = pieceErrors maximum cs ++ frame.toList := by
  have hready : ((within maximum cs).splitter.feed '\n').2 = .ready :=
    (Splitter.feed_ready_iff _ _).2 ⟨rfl, h0⟩
  refine ⟨_, step_of_ready hready, ?_⟩
  rw [pieceFrames, pieceStatement]
  cases h : nesting charSide 0 cs with
  | none =>
    rw [pieceErrors_of_none h, within_of_none h]
    simp
  | some d =>
    rw [pieceErrors_of_nesting h, within_of_nesting h]
    by_cases hlong : maximum < cs.length
    · simp [hlong]
    · by_cases hb : cs.all isBlank = true <;>
        simp [hlong, hb, pending, Text.allBlank]

end Within

/-- **Streams.** From anywhere within a piece, a framer reports what is left to report of the piece
and the frames of the pieces behind it, and ends within the last one. -/
theorem within_run (maximum : Nat) (begun cs : List Char) :
    ∃ frames, (within maximum begun).run cs =
        (within maximum (cutFrom (openDepth begun) begun cs).last, frames) ∧
      pieceErrors maximum begun ++ frames =
        (cutFrom (openDepth begun) begun cs).complete.flatMap (pieceFrames maximum) ++
          pieceErrors maximum (cutFrom (openDepth begun) begun cs).last := by
  induction cs generalizing begun with
  | nil => exact ⟨[], rfl, List.append_nil _⟩
  | cons c cs ih =>
    rw [cutFrom, run]
    by_cases hc : c = '\n' ∧ openDepth begun = 0
    · obtain ⟨rfl, h0⟩ := hc
      obtain ⟨frame, hstep, hframes⟩ := within_newline maximum h0
      obtain ⟨frames, hrun, hrest⟩ := ih []
      have hpieces : frames = batchFrames maximum cs := hrest
      rw [if_pos ⟨rfl, h0⟩, hstep, hrun]
      refine ⟨_, rfl, ?_⟩
      show _ ++ (frame.toList ++ frames) = _
      rw [List.flatMap_cons, hframes, hpieces, batchFrames]
      simp only [List.append_assoc]
      rfl
    · obtain ⟨frame, hstep, herrors⟩ := within_step maximum hc
      obtain ⟨frames, hrun, hrest⟩ := ih (begun ++ [c])
      rw [openDepth_append_singleton] at hrun hrest
      rw [if_neg hc, hstep, hrun]
      refine ⟨_, rfl, ?_⟩
      rw [← hrest, herrors, List.append_assoc]

/-- **Streams from the beginning.** -/
theorem run_eq_batch (maximum : Nat) (cs : List Char) :
    ({ maximum } : Framer).run cs =
      (within maximum (cutting cs).last, batchFrames maximum cs) := by
  obtain ⟨frames, hrun, hframes⟩ := within_run maximum [] cs
  rw [← within_nil, hrun]
  exact congrArg (_, ·) hframes

/-- What a framer keeps within a piece. -/
theorem within_bounded (maximum : Nat) (cs : List Char) :
    (within maximum cs).buffer.size ≤ maximum ∧
      (within maximum cs).discarding = (within maximum cs).splitter.poisoned := by
  refine ⟨?_, rfl⟩
  cases h : nesting charSide 0 cs with
  | none =>
    rw [within_of_none h]
    exact Nat.zero_le maximum
  | some d =>
    rw [within_of_nesting h]
    by_cases hlong : maximum < cs.length
    · simp [hlong]
    · simp only [if_neg hlong, List.size_toArray]
      omega

theorem pending_within (maximum : Nat) (cs : List Char) :
    (within maximum (cutting cs).last).pending = String.ofList (batchPending maximum cs) := by
  rw [pending, within, batchPending]
  split <;> rfl

end Framer

/-- **Framing goes by pieces.** However a stream is cut into chunks, the frames of all chunks in a
row are those of its complete pieces and the errors of the last one, and the statement so far is the
last piece, unless it has an error. The same holds behind every character, so that no error is
reported late; and there the framer holds at most the allowed number of characters, and discards
exactly when its splitter is poisoned. -/
theorem framing_by_pieces (maximum : Nat) (chunks : List String) :
    (({ maximum } : Framer).feedEach chunks).2 =
        batchFrames maximum (String.join chunks).toList ∧
      (({ maximum } : Framer).feedEach chunks).1.pending =
        String.ofList (batchPending maximum (String.join chunks).toList) ∧
      ∀ n : Nat,
        let front := (String.join chunks).toList.take n
        let sofar := ({ maximum } : Framer).feed (String.ofList front)
        sofar.2 = batchFrames maximum front ∧
          sofar.1.pending = String.ofList (batchPending maximum front) ∧
          sofar.1.buffer.size ≤ maximum ∧
          sofar.1.discarding = sofar.1.splitter.poisoned := by
  have hframed : ({ maximum } : Framer).feedEach chunks =
      ({ maximum } : Framer).run (String.join chunks).toList := by
    rw [Framer.feedEach_eq_run, ← String.toList_join]
  refine ⟨?_, ?_, fun n => ?_⟩
  · rw [hframed, Framer.run_eq_batch]
  · rw [hframed, Framer.run_eq_batch]
    exact Framer.pending_within maximum _
  · intro front sofar
    have hsofar : sofar =
        (Framer.within maximum (cutting front).last, batchFrames maximum front) := by
      rw [← Framer.run_eq_batch, ← String.toList_ofList (l := front)]
      exact Framer.feed_eq_run _ _
    rw [hsofar]
    exact ⟨rfl, Framer.pending_within maximum _, Framer.within_bounded maximum _⟩

/-- A piece that grows too long and then closes too much, one that closes too much and goes on over
a newline in parentheses, a blank one, a statement of the greatest length, and one that is not
complete. -/
example : batchFrames 4 "abcde)f\n)(\n)ghijkl\n \n(\na)\nmn".toList =
    [.error (.tooLong 4), .error .unbalanced, .error .unbalanced, .statement "(\na)"] := by
  decide

end CommandShell
