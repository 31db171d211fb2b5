import CommandShell.Proofs.Segment
import CommandShell.Stream.Framer
import Mathlib.Data.List.Forall2

/-!
# Framing and statements

A framer gathers the characters of a stream and hands them on statement by statement; the
tokenizer finds the statements of a text that is there as a whole. Both find the same ones.

A framer is in one of two states as long as nothing overflows: it gathers a statement, or it skips
one that closed more than it opened. `run_gathering`, `run_skipping` and `run_breaking` say what
the characters of a segment do to each; `run_segment` puts them together.

* `frameOf_segment` — the frames of a segment are those of its statement;
* `forall₂_frameOf` — so, segment by segment, are the frames of a text;
* `frames_correspond_to_statements` — the frames of a text that ends outside parentheses
  correspond one to one to its statements.
-/

namespace CommandShell

namespace Framer

/-! ### Runs over characters -/

/-- The framer behind the characters, and the frames they give. -/
def run (f : Framer) : List Char → Framer × List StreamFrame
  | [] => (f, [])
  | c :: cs => ((run (f.step c).1 cs).1, (f.step c).2.toList ++ (run (f.step c).1 cs).2)

theorem feedFrom_eq_run (f : Framer) (frames : Array StreamFrame) (cs : List Char) :
    f.feedFrom frames cs = ((f.run cs).1, frames ++ (f.run cs).2.toArray) := by
  induction cs generalizing f frames with
  | nil => simp [feedFrom, run]
  | cons c cs ih =>
    rw [feedFrom, run]
    rcases hstep : f.step c with ⟨f', _ | frame⟩
    · simp [ih]
    · simp [ih]

theorem feed_eq_run (f : Framer) (chunk : String) : f.feed chunk = f.run chunk.toList := by
  rw [feed, feedFrom_eq_run]
  simp

theorem run_append (f : Framer) (cs ds : List Char) :
    f.run (cs ++ ds) = (((f.run cs).1.run ds).1, (f.run cs).2 ++ ((f.run cs).1.run ds).2) := by
  induction cs generalizing f with
  | nil => rfl
  | cons c cs ih => rw [List.cons_append, run, run, ih, List.append_assoc]

theorem step_splitter (f : Framer) (c : Char) : (f.step c).1.splitter = (f.splitter.feed c).1 := by
  unfold step
  rcases f.splitter.feed c with ⟨s, _ | _ | _⟩
  · rfl
  · simp only
    split
    · rfl
    · split <;> rfl
  · rfl

/-- The framer follows its splitter. -/
theorem run_splitter (f : Framer) (cs : List Char) :
    (f.run cs).1.splitter = f.splitter.feedAll cs := by
  induction cs generalizing f with
  | nil => rfl
  | cons c cs ih => rw [run, ih, step_splitter, Splitter.feedAll_cons]

/-! ### Gathering and skipping -/

/-- The state of a framer that has gathered characters of a statement. -/
def gathering (maximum : Int) (depth : Nat) (cs : List Char) : Framer :=
  { maximum, splitter := ⟨depth, false⟩, buffer := cs.toArray }

/-- The state of a framer that skips a statement. -/
def skipping (maximum : Int) (depth : Nat) : Framer :=
  { maximum, splitter := ⟨depth, true⟩, discarding := true }

/-- A new framer has gathered nothing. -/
theorem gathering_nil (maximum : Int) : gathering maximum 0 [] = { maximum } := rfl

theorem step_gathering {maximum : Int} {d e : Nat} {cs : List Char} {c : Char}
    (h : Splitter.feed ⟨d, false⟩ c = (⟨e, false⟩, .unready)) (hlen : (cs.length : Int) < maximum) :
    (gathering maximum d cs).step c = (gathering maximum e (cs ++ [c]), none) := by
  have hroom : ¬ maximum < ((cs.toArray.push c).size : Int) := by
    rw [Array.size_push, List.size_toArray]
    omega
  simp only [step, gathering, h]
  rw [if_neg Bool.false_ne_true, if_neg hroom, List.push_toArray]

theorem step_gathering_close (maximum : Int) (cs : List Char) :
    (gathering maximum 0 cs).step ')' = (skipping maximum 0, some (.error .unbalanced)) := by
  simp only [step, gathering, Splitter.feed_close_zero]
  rfl

theorem step_gathering_newline (maximum : Int) (cs : List Char) :
    (gathering maximum 0 cs).step '\n' =
      ({ maximum },
        if cs.all isBlank then none else some (.statement (String.ofList cs))) := by
  simp only [step, gathering, Splitter.feed_newline_zero, Text.allBlank, String.toList_ofList]
  rfl

theorem step_skipping {maximum : Int} {d e : Nat} {c : Char}
    (h : Splitter.feed ⟨d, true⟩ c = (⟨e, true⟩, .discard)) :
    (skipping maximum d).step c = (skipping maximum e, none) := by
  simp only [step, skipping, h]
  rfl

theorem step_skipping_newline (maximum : Int) :
    (skipping maximum 0).step '\n' = ({ maximum }, none) := by
  simp only [step, skipping, Splitter.feed_newline_zero]
  rfl

/-- **Gathering.** Characters that never close more than is open are all kept. -/
theorem run_gathering {maximum : Int} {d e : Nat} {cs : List Char}
    (h : nesting charSide d cs = some e) (hun : Splitter.Unbroken ⟨d, false⟩ cs)
    (before : List Char) (hlen : (before.length + cs.length : Int) ≤ maximum) :
    (gathering maximum d before).run cs = (gathering maximum e (before ++ cs), []) := by
  induction cs generalizing d before with
  | nil =>
    rw [nesting_nil, Option.some.injEq] at h
    rw [h, List.append_nil]
    rfl
  | cons c cs ih =>
    rw [List.length_cons] at hlen
    have hroom : (before.length : Int) < maximum := by omega
    have hlen' : ((before ++ [c]).length + cs.length : Int) ≤ maximum := by
      rw [List.length_append, List.length_singleton]
      omega
    obtain ⟨hready, hun⟩ := hun
    rcases Splitter.feed_cases hready with ⟨rfl, rfl⟩ | ⟨d', hfeed, hnest⟩
    · rw [nesting_closes_zero charSide_close] at h
      cases h
    · rw [hfeed] at hun
      rw [hnest] at h
      rw [run, step_gathering hfeed hroom, ih h hun _ hlen', List.append_assoc]
      rfl

/-- **Skipping.** A poisoned statement gives no further frame up to the newline that ends it. -/
theorem run_skipping {d : Nat} {cs : List Char} (hun : Splitter.Unbroken ⟨d, true⟩ cs)
    (maximum : Int) :
    (skipping maximum d).run cs =
      (skipping maximum (Splitter.feedAll ⟨d, true⟩ cs).depth, []) := by
  induction cs generalizing d with
  | nil => rfl
  | cons c cs ih =>
    obtain ⟨hready, hun⟩ := hun
    -- The splitter stays poisoned, also where the character closes too much once more.
    have hfeed : ∃ d', Splitter.feed ⟨d, true⟩ c = (⟨d', true⟩, .discard) := by
      rcases Splitter.feed_cases hready with ⟨rfl, rfl⟩ | ⟨d', hfeed, -⟩
      · exact ⟨0, Splitter.feed_close_zero true⟩
      · exact ⟨d', hfeed⟩
    obtain ⟨d', hfeed⟩ := hfeed
    rw [hfeed] at hun
    rw [run, step_skipping hfeed, ih hun, Splitter.feedAll_cons, hfeed]
    rfl

/-- **Breaking.** Characters that close more than is open give one error and are skipped. -/
theorem run_breaking {maximum : Int} {d : Nat} {cs : List Char}
    (h : nesting charSide d cs = none) (hun : Splitter.Unbroken ⟨d, false⟩ cs)
    (before : List Char) (hlen : (before.length + cs.length : Int) ≤ maximum) :
    (gathering maximum d before).run cs =
      (skipping maximum (Splitter.feedAll ⟨d, false⟩ cs).depth, [.error .unbalanced]) := by
  induction cs generalizing d before with
  | nil => cases h
  | cons c cs ih =>
    rw [List.length_cons] at hlen
    have hroom : (before.length : Int) < maximum := by omega
    have hlen' : ((before ++ [c]).length + cs.length : Int) ≤ maximum := by
      rw [List.length_append, List.length_singleton]
      omega
    obtain ⟨hready, hun⟩ := hun
    rw [run, Splitter.feedAll_cons]
    -- Either the character is the one that closes too much, or it is kept as before.
    rcases Splitter.feed_cases hready with ⟨rfl, rfl⟩ | ⟨d', hfeed, hnest⟩
    · rw [Splitter.feed_close_zero] at hun
      rw [step_gathering_close, run_skipping hun, Splitter.feed_close_zero]
      rfl
    · rw [hfeed] at hun
      rw [hnest] at h
      rw [step_gathering hfeed hroom, ih h hun _ hlen', hfeed]
      rfl

/-! ### Segments -/

/-- The frames of a segment in front of the newline that ends it. -/
def segmentFrames (seg : List Char) : List StreamFrame :=
  match nesting charSide 0 seg with
  | none => [.error .unbalanced]
  | some _ => if seg.all isBlank then [] else [.statement (String.ofList seg)]

/-- **A segment.** A new framer turns a segment and the newline behind it into the frames of the
segment, and is a new framer again. -/
theorem run_segment {maximum : Int} {seg : List Char} (hun : Splitter.Unbroken ⟨0, false⟩ seg)
    (hend : (Splitter.feedAll ⟨0, false⟩ seg).depth = 0) (hlen : (seg.length : Int) ≤ maximum) :
    ({ maximum } : Framer).run (seg ++ ['\n']) = ({ maximum }, segmentFrames seg) := by
  have hroom : (([] : List Char).length + seg.length : Int) ≤ maximum := by
    rw [List.length_nil]
    omega
  rw [run_append, ← gathering_nil, segmentFrames]
  cases hn : nesting charSide 0 seg with
  | none =>
    rw [run_breaking hn hun [] hroom, hend]
    simp only [run, step_skipping_newline]
    rfl
  | some e =>
    have hrun := run_gathering hn hun [] hroom
    have he : e = 0 := by
      have hsplit := run_splitter (gathering maximum 0 []) seg
      rw [hrun] at hsplit
      have hdepth : e = (Splitter.feedAll ⟨0, false⟩ seg).depth := congrArg Splitter.depth hsplit
      rw [hdepth, hend]
    rw [hrun, he, List.nil_append]
    simp only [run, step_gathering_newline]
    split <;> rfl

end Framer

/-! ### Frames and statements -/

/-- Some closing parenthesis among the tokens has no opening one as its partner. -/
def HasUnmatchedClose (tokens : List Token) : Prop :=
  ∃ front, front <+: tokens ∧
    countSide Token.side .opens front < countSide Token.side .closes front

theorem hasUnmatchedClose_iff (tokens : List Token) :
    HasUnmatchedClose tokens ↔ nesting Token.side 0 tokens = none := by
  rw [nesting_eq_none_iff, HasUnmatchedClose]
  simp only [Nat.zero_add]

/-- A framer gathers `text` from the offset `start` of `s` on: there it is as good as new, and
behind the text that is what it holds. -/
def GatheredAt (maximum : Int) (s : String) (start : Nat) (text : String) : Prop :=
  ∃ before after, s.toList = before ++ (text.toList ++ after) ∧ before.length = start ∧
    (({ maximum } : Framer).feed (String.ofList before)).1 = { maximum } ∧
    (({ maximum } : Framer).feed (String.ofList (before ++ text.toList))).1.pending = text

/-- The frame stands for the statement of these tokens in `s`. -/
inductive FrameOf (maximum : Int) (s : String) : StreamFrame → List Token → Prop
  | unbalanced {tokens : List Token} :
      HasUnmatchedClose tokens → FrameOf maximum s (.error .unbalanced) tokens
  | statement {start : Nat} {text : String} {tokens : List Token} :
      ¬ HasUnmatchedClose tokens → GatheredAt maximum s start text →
      tokenize text maximum = .ok (tokens.map (Token.lower start)) →
      FrameOf maximum s (.statement text) tokens

/-- A segment that never closes more than is open is gathered from where it starts. -/
theorem gatheredAt_segment {maximum : Int} {s : String} {before seg after : List Char} {e : Nat}
    (hs : s.toList = before ++ (seg ++ after))
    (hnew : (({ maximum } : Framer).run before).1 = { maximum })
    (hn : nesting charSide 0 seg = some e) (hun : Splitter.Unbroken ⟨0, false⟩ seg)
    (hlen : (seg.length : Int) ≤ maximum) :
    GatheredAt maximum s before.length (String.ofList seg) := by
  refine ⟨before, after, ?_, rfl, ?_, ?_⟩
  · rw [String.toList_ofList]
    exact hs
  · rw [Framer.feed_eq_run, String.toList_ofList]
    exact hnew
  · have hroom : (([] : List Char).length + seg.length : Int) ≤ maximum := by
      rw [List.length_nil]
      omega
    rw [Framer.feed_eq_run, String.toList_ofList, String.toList_ofList, Framer.run_append,
      hnew, ← Framer.gathering_nil, Framer.run_gathering hn hun [] hroom]
    rfl

/-- A segment that is not blank, tokenized alone, gives its tokens with lowered positions. -/
theorem tokenize_segment {maximum : Int} {start : Nat} {seg : List Char} {tokens : List Token}
    (hread : Reads 0 start seg tokens) (hne : tokens ≠ []) (hlen : (seg.length : Int) ≤ maximum) :
    tokenize (String.ofList seg) maximum = .ok (tokens.map (Token.lower start)) := by
  have hlow : Reads 0 0 (String.ofList seg).toList (tokens.map (Token.lower start)) := by
    rw [← Nat.zero_add start] at hread
    rw [String.toList_ofList]
    exact hread.lower
  cases tokens with
  | nil => exact absurd rfl hne
  | cons token tokens =>
    refine tokenize_of_reads ?_ hlow
    rw [String.length_ofList]
    exact hlen

/-- **The frames of a segment.** They stand for the statement of the segment; a blank segment has
neither. -/
theorem frameOf_segment {maximum : Int} {s : String} {before seg after : List Char}
    {tokens : List Token} (hs : s.toList = before ++ (seg ++ after))
    (hnew : (({ maximum } : Framer).run before).1 = { maximum })
    (hun : Splitter.Unbroken ⟨0, false⟩ seg) (hlen : (seg.length : Int) ≤ maximum)
    (hread : Reads 0 before.length seg tokens) :
    List.Forall₂ (FrameOf maximum s) (Framer.segmentFrames seg) ([tokens].filter (· ≠ [])) := by
  have hnest := hread.nesting_eq 0
  rw [Framer.segmentFrames]
  cases hn : nesting charSide 0 seg with
  | none =>
    -- Tokens that close too much are not empty, so the error has its statement.
    have hne : tokens ≠ [] := by
      rintro rfl
      rw [hn] at hnest
      cases hnest
    rw [List.filter_singleton, decide_eq_true hne]
    exact .cons (.unbalanced ((hasUnmatchedClose_iff tokens).2 (hnest.trans hn))) .nil
  | some e =>
    by_cases hb : seg.all isBlank = true
    · obtain rfl := hread.tokens_eq_nil (List.all_eq_true.1 hb)
      rw [if_pos hb]
      exact .nil
    · have hne : tokens ≠ [] := by
        rintro rfl
        exact hb (List.all_eq_true.2 hread.isBlankRun)
      have hmatched : ¬ HasUnmatchedClose tokens := by
        rw [hasUnmatchedClose_iff, hnest, hn]
        exact nofun
      rw [if_neg hb, List.filter_singleton, decide_eq_true hne]
      exact .cons (.statement hmatched (gatheredAt_segment hs hnew hn hun hlen)
        (tokenize_segment hread hne hlen)) .nil

/-- **The frames of a text.** Where a framer that took `before` is as good as new, the frames of
the text that follows stand for its statements. -/
theorem forall₂_frameOf {maximum : Int} {s : String} {before cs : List Char}
    (hs : s.toList = before ++ cs)
    (hnew : (({ maximum } : Framer).run before).1 = { maximum })
    (hend : (Splitter.feedAll ⟨0, false⟩ cs).depth = 0) (hlen : (cs.length : Int) ≤ maximum) :
    (statements (Lexeme.cut before.length cs)).2 = none ∧
      List.Forall₂ (FrameOf maximum s) (({ maximum } : Framer).run (cs ++ ['\n'])).2
        (statements (Lexeme.cut before.length cs)).1 := by
  -- Every segment is shorter than the text, so the induction is on the length.
  induction hk : cs.length using Nat.strong_induction_on generalizing before cs with
  | _ k ih =>
    rcases Splitter.exists_segment ⟨0, false⟩ cs with hun | ⟨seg, rest, rfl, hun, h0⟩
    · obtain ⟨tokens, htokens, -⟩ := exists_isStatement hun hend before.length
      have hread := statementAt_eq_ok_none_iff.1 htokens
      rw [statementAt] at htokens
      rw [statements_eq, htokens, Framer.run_segment hun hend hlen]
      refine ⟨rfl, ?_⟩
      exact frameOf_segment (by rw [hs, List.append_nil]) hnew hun hlen hread
    · obtain ⟨tokens, htokens, hnewline⟩ := exists_isStatement hun h0 before.length
      have hread := statementAt_eq_ok_none_iff.1 htokens
      have hstatement := hnewline rest
      rw [statementAt] at hstatement
      rw [List.length_append, List.length_cons] at hlen hk
      have hfits : (seg.length : Int) ≤ maximum := by omega
      have hseg := Framer.run_segment hun h0 hfits
      -- Behind the newline the framer is new again, which is what the rest starts from.
      have hsplit : seg ++ '\n' :: rest = (seg ++ ['\n']) ++ rest := by simp
      have hstart : (before ++ (seg ++ ['\n'])).length = before.length + seg.length + 1 := by
        simp only [List.length_append, List.length_singleton]
        omega
      have hnew' : (({ maximum } : Framer).run (before ++ (seg ++ ['\n']))).1 = { maximum } := by
        rw [Framer.run_append, hnew, hseg]
      have hend' : (Splitter.feedAll ⟨0, false⟩ rest).depth = 0 := by
        have hready : Splitter.feedAll ⟨0, false⟩ (seg ++ ['\n']) = ⟨0, false⟩ := by
          have hsplitter := Framer.run_splitter { maximum } (seg ++ ['\n'])
          rw [hseg] at hsplitter
          exact hsplitter.symm
        rw [hsplit, Splitter.feedAll_append, hready] at hend
        exact hend
      obtain ⟨hnone, hrest⟩ := ih rest.length (by omega)
        (by rw [hs, hsplit, ← List.append_assoc]) hnew' hend' (by omega) rfl
      rw [hstart] at hnone hrest
      rw [statements_eq, hstatement, hsplit, List.append_assoc, Framer.run_append, hseg]
      refine ⟨hnone, List.rel_append ?_ hrest⟩
      exact frameOf_segment hs hnew hun hfits hread

/-- **Framing agrees with tokenizing.** A text that ends outside parentheses is split into
statements without error, and the frames of the text and a newline stand for these statements, one
for one and in order. -/
theorem frames_correspond_to_statements (s : String) (maximum : Int)
    (hlen : (s.length : Int) ≤ maximum)
    (hdepth : (({ maximum } : Framer).feed s).1.splitter.depth = 0) :
    (textStatements s maximum).2 = none ∧
      List.Forall₂ (FrameOf maximum s) (({ maximum } : Framer).feed (s ++ "\n")).2
        (textStatements s maximum).1 := by
  rw [Framer.feed_eq_run, Framer.run_splitter] at hdepth
  have hnil : s.toList = [] ++ s.toList := rfl
  have hfits : (s.toList.length : Int) ≤ maximum := by
    rw [String.length_toList]
    exact hlen
  obtain ⟨hnone, hframes⟩ := forall₂_frameOf hnil rfl hdepth hfits
  rw [List.length_nil] at hnone hframes
  have hcheck : checkLength s maximum = .ok () := (checkLength_eq_ok_iff s maximum).2 hlen
  rw [Framer.feed_eq_run, String.toList_append, textStatements, hcheck]
  refine ⟨?_, hframes⟩
  simp only [hnone]
  rfl

/-- A literal that spans lines, a blank line, a statement that closes more than it opens and goes
on over a newline in parentheses, and a call that spans lines. -/
def mixedText : String := "put (# (a\n)) k\n \nx) (y\n)\nput (get\nk) z"

/-- The three frames of the text above stand for its three statements. -/
theorem frames_correspond_to_statements_mixed :
    (mixedText.length : Int) ≤ 60 ∧
      (({ maximum := 60 } : Framer).feed mixedText).1.splitter.depth = 0 ∧
      (textStatements mixedText 60).2 = none ∧
      List.Forall₂ (FrameOf 60 mixedText)
        [.statement "put (# (a\n)) k", .error .unbalanced, .statement "put (get\nk) z"]
        (textStatements mixedText 60).1 := by
  have hlen : (mixedText.length : Int) ≤ 60 := by decide
  have hdepth : (({ maximum := 60 } : Framer).feed mixedText).1.splitter.depth = 0 := by decide
  have hframes : (({ maximum := 60 } : Framer).feed (mixedText ++ "\n")).2 =
      [.statement "put (# (a\n)) k", .error .unbalanced, .statement "put (get\nk) z"] := by
    decide
  rw [← hframes]
  exact ⟨hlen, hdepth, frames_correspond_to_statements mixedText 60 hlen hdepth⟩

end CommandShell
