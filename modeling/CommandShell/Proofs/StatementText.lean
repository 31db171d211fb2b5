import CommandShell.Proofs.Framing
import CommandShell.Proofs.Relocation
import CommandShell.Tree.Parse

/-!
# The statements of a text

A text is cut into segments at the newlines at which a splitter is ready. Those that are not blank
are its statements, each a text of its own. The tokenizer, which reads the whole text, and the
framer, which reads one character after the other, find these statements: what a statement gives
alone is what it gives in the text, and its errors are those of the text, only moved to where the
statement starts.

* `segment_induction` — induction along the segments of a text;
* `readsOrUnclosed` — a segment is read as a whole, or it ends in an unclosed literal;
* `parseFound_segment` — one segment, whatever follows it;
* `parseScript_eq_segments` — **a script is parsed statement by statement**;
* `framed_textSegments` — where all statements parse, a framer hands on the same ones.
-/

namespace CommandShell

/-! ### The statements of a text -/

/-- A part of a text: where it starts, and its characters. -/
structure Segment where
  start : Nat
  text : String
  deriving DecidableEq

namespace Segment

/-- A segment of blank characters holds no statement. -/
def isBlank (segment : Segment) : Bool := Text.allBlank segment.text

theorem isBlank_iff (start : Nat) (seg : List Char) :
    (Segment.mk start (String.ofList seg)).isBlank = true ↔ IsBlankRun seg := by
  rw [isBlank, Text.allBlank, String.toList_ofList, List.all_eq_true]
  rfl

/-- The segment parses, as a line of its own. -/
def Parses (limits : Limits) (segment : Segment) : Prop :=
  ∃ call, parse segment.text limits = .ok call

instance (limits : Limits) (segment : Segment) : Decidable (segment.Parses limits) :=
  match h : parse segment.text limits with
  | .ok call => isTrue ⟨call, h⟩
  | .error _ => isFalse fun ⟨_, hcall⟩ => nomatch h.symm.trans hcall

end Segment

namespace Splitter

/-- The segments of a text, cut at the newlines at which the splitter is ready; `gathered` holds the
characters of the first one that were taken before. -/
def segments (s : Splitter) (start : Nat) (gathered : List Char) : List Char → List Segment
  | [] => [⟨start, String.ofList gathered⟩]
  | c :: cs =>
    if (s.feed c).2 = .ready then
      ⟨start, String.ofList gathered⟩ ::
        segments (s.feed c).1 (start + gathered.length + 1) [] cs
    else segments (s.feed c).1 start (gathered ++ [c]) cs

theorem segments_unbroken {s : Splitter} {cs : List Char} (h : s.Unbroken cs) (start : Nat)
    (gathered : List Char) :
    s.segments start gathered cs = [⟨start, String.ofList (gathered ++ cs)⟩] := by
  induction cs generalizing s gathered with
  | nil => rw [segments, List.append_nil]
  | cons c cs ih => rw [segments, if_neg h.1, ih h.2, List.append_assoc, List.singleton_append]

theorem segments_newline {s : Splitter} {seg : List Char} (h : s.Unbroken seg)
    (h0 : (s.feedAll seg).depth = 0) (start : Nat) (gathered rest : List Char) :
    s.segments start gathered (seg ++ '\n' :: rest) =
      ⟨start, String.ofList (gathered ++ seg)⟩ ::
        segments {} (start + (gathered ++ seg).length + 1) [] rest := by
  induction seg generalizing s gathered with
  | nil =>
    have hready : s.feed '\n' = ({}, .ready) := by
      obtain ⟨depth, poisoned⟩ := s
      rw [feedAll_nil] at h0
      subst h0
      exact feed_newline_zero poisoned
    rw [List.nil_append, List.append_nil, segments, hready, if_pos rfl]
  | cons c seg ih =>
    rw [List.cons_append, segments, if_neg h.1, ih h.2 h0, List.append_assoc,
      List.singleton_append]

/-- **Induction along segments.** What holds of a text that is one segment, and of a segment in
front of a newline and a text of which it holds, holds of every text. -/
@[elab_as_elim]
theorem segment_induction {motive : List Char → Prop}
    (last : ∀ seg, Unbroken {} seg → motive seg)
    (more : ∀ seg rest, Unbroken {} seg → (feedAll {} seg).depth = 0 → motive rest →
      motive (seg ++ '\n' :: rest))
    (cs : List Char) : motive cs := by
  induction hn : cs.length using Nat.strongRecOn generalizing cs with
  | ind n ih =>
    rcases exists_segment {} cs with hun | ⟨seg, rest, rfl, hun, h0⟩
    · exact last cs hun
    · refine more seg rest hun h0 (ih rest.length ?_ rest rfl)
      rw [← hn, List.length_append, List.length_cons]
      omega

end Splitter

/-- The statements of a text: its segments that are not blank. -/
def textSegments (text : String) : List Segment :=
  (Splitter.segments {} 0 [] text.toList).filter (!·.isBlank)

/-! ### Segments are read or unclosed -/

/-- A text is read as a whole, wherever it starts, or it ends in a literal that is not closed. -/
def ReadsOrUnclosed (depth : Nat) (cs : List Char) : Prop :=
  (∀ p, ∃ tokens, Reads depth p cs tokens) ∨ ∃ q, ∀ p, statementAt depth p cs = .error (p + q)

namespace ReadsOrUnclosed

theorem of_blank {depth : Nat} {c : Char} {cs : List Char} (hb : isBlank c = true)
    (hn : c = '\n' → depth ≠ 0) (h : ReadsOrUnclosed depth cs) :
    ReadsOrUnclosed depth (c :: cs) := by
  rcases h with hreads | ⟨q, hq⟩
  · refine .inl fun p => ?_
    obtain ⟨tokens, htokens⟩ := hreads (p + 1)
    exact ⟨tokens, .blank hb hn htokens⟩
  · refine .inr ⟨q + 1, fun p => ?_⟩
    have hskip : statementAt depth p (c :: cs) = statementAt depth (p + 1) cs := by
      by_cases hc : c = '\n'
      · obtain ⟨d, rfl⟩ := Nat.exists_eq_succ_of_ne_zero (hn hc)
        rw [hc, statementAt_newline_succ]
      · exact statementAt_blank hb hc depth p cs
    rw [hskip, hq, Nat.add_right_comm, Nat.add_assoc]

theorem of_piece {depth depth' k : Nat} {cs rest : List Char}
    (hp : ∀ p, ∃ item, Piece depth p cs item depth' (p + k) rest)
    (h : ReadsOrUnclosed depth' rest) : ReadsOrUnclosed depth cs := by
  rcases h with hreads | ⟨q, hq⟩
  · refine .inl fun p => ?_
    obtain ⟨item, hitem⟩ := hp p
    obtain ⟨tokens, htokens⟩ := hreads (p + k)
    exact ⟨item ++ tokens, .piece hitem htokens⟩
  · refine .inr ⟨k + q, fun p => ?_⟩
    obtain ⟨item, hitem⟩ := hp p
    rw [statementAt_piece hitem, hq, withTokens_error, Nat.add_assoc]

end ReadsOrUnclosed

/-- **A segment is read or unclosed.** There is no newline in it that would end a statement. -/
theorem readsOrUnclosed {seg : List Char} {s : Splitter} (hun : s.Unbroken seg) :
    ReadsOrUnclosed s.depth seg := by
  induction seg using scan_induction generalizing s with
  | nil => exact .inl fun p => ⟨[], .nil⟩
  | newline cs ih =>
    obtain ⟨hready, hun⟩ := hun
    have h0 : s.depth ≠ 0 := fun h => hready ((Splitter.feed_ready_iff s '\n').2 ⟨rfl, h⟩)
    rw [Splitter.feed_of_neither s rfl fun _ => h0] at hun
    exact (ih hun).of_blank isBlank_newline fun _ => h0
  | blank c cs hb hn ih =>
    have hside := charSide_of_ne (ne_paren_of_isBlank hb).1 (ne_paren_of_isBlank hb).2
    rw [Splitter.Unbroken, Splitter.feed_of_neither s hside fun h => absurd h hn] at hun
    exact (ih hun.2).of_blank hb fun h => absurd h hn
  | opening cs ho ih =>
    obtain ⟨depth, poisoned⟩ := s
    rw [Splitter.Unbroken, Splitter.feed_open] at hun
    exact (ih hun.2).of_piece fun p => ⟨_, .opening ho⟩
  | closing cs ih =>
    have hrest := ih hun.2
    rw [Splitter.feed_close_depth] at hrest
    exact hrest.of_piece fun p => ⟨_, .closing⟩
  | literal raw cs hraw ih =>
    have hpiece : ∀ p, ∃ item, Piece s.depth p ('(' :: '#' :: (raw ++ ')' :: cs)) item s.depth
        (p + (2 + raw.length + 1)) cs := by
      intro p
      rw [show p + (2 + raw.length + 1) = p + 2 + raw.length + 1 by omega]
      exact ⟨_, .literal hraw⟩
    exact (ih ((Splitter.feedAll_literal hraw s cs).2 hun)).of_piece hpiece
  | unclosed cs e he => exact .inr ⟨0, fun p => statementAt_unclosed he s.depth p⟩
  | word w cs hw he ih =>
    rw [Splitter.unbroken_append, Splitter.feedAll_word hw] at hun
    exact (ih hun.2).of_piece fun p => ⟨_, .word hw he⟩

/-! ### Parsing segments -/

/-- A segment that is read into tokens is parsed like these tokens in the whole text. -/
theorem parse_of_reads {limits : Limits} {start : Nat} {seg : List Char} {tokens : List Token}
    (hread : Reads 0 start seg tokens) (hne : tokens ≠ [])
    (hlen : (seg.length : Int) ≤ limits.maxLength) (text : String) :
    build tokens limits.maxDepth text =
      (parse (String.ofList seg) limits).mapError (·.relocate text start) := by
  rw [build_relocate text (String.ofList seg) start, parse, tokenize_segment hread hne hlen]
  rfl

theorem nextStatement_of_error {ls : List Lexeme} {p : Nat} (h : takeStatement 0 ls = .error p) :
    nextStatement ls = .error p := by
  cases ls with
  | nil => cases h
  | cons l ls =>
    have hl : l.isNewline = false := by
      cases l with
      | newline q => cases h
      | _ => rfl
    rw [nextStatement, List.dropWhile_cons_of_neg (by rw [hl]; exact Bool.false_ne_true)]
    dsimp only
    rw [h]
    rfl

/-- A segment that ends in an unclosed literal does not parse. -/
theorem parse_of_unclosed {limits : Limits} {seg : List Char} {q : Nat}
    (h : statementAt 0 0 seg = .error q) (hlen : (seg.length : Int) ≤ limits.maxLength) :
    parse (String.ofList seg) limits =
      .error (.pointing (String.ofList seg) .unclosedLiteral q) := by
  have hcheck : checkLength (String.ofList seg) limits.maxLength = .ok () := by
    rw [checkLength_eq_ok_iff, String.length_ofList]
    exact hlen
  have hnext : nextStatement (Lexeme.cut 0 (String.ofList seg).toList) = .error q := by
    rw [String.toList_ofList]
    exact nextStatement_of_error h
  rw [parse, tokenize, hcheck]
  simp only [hnext]
  rfl

/-- Parses statements of a text one by one, up to the first that does not parse. -/
def parseSegments (limits : Limits) (text : String) :
    List Segment → Except ParseError (List Call)
  | [] => .ok []
  | segment :: segments =>
    ((parse segment.text limits).mapError (·.relocate text segment.start)).bind fun call =>
      (parseSegments limits text segments).map (call :: ·)

/-- Parses the statements that were found in a text, and reports a literal that is not closed
behind them. -/
def parseFound (maxDepth : Int) (text : String) (found : List (List Token) × Option Nat) :
    Except ParseError (List Call) :=
  match buildAll maxDepth text found.1, found.2 with
  | .error e, _ => .error e
  | .ok _, some p => .error (.pointing text .unclosedLiteral p)
  | .ok calls, none => .ok calls

theorem parseScript_eq_found {text : String} {limits : Limits}
    (hlen : text.length ≤ limits.maxLength) :
    parseScript text limits =
      parseFound limits.maxDepth text (statements (Lexeme.cut 0 text.toList)) := by
  have hcheck : checkLength text limits.maxLength = .ok () :=
    (checkLength_eq_ok_iff text limits.maxLength).2 (Int.ofNat_le.2 hlen)
  simp only [parseScript, textStatements, hcheck, parseFound]
  rcases statements (Lexeme.cut 0 text.toList) with ⟨found, unclosed⟩
  cases unclosed <;> cases buildAll limits.maxDepth text found <;> rfl

theorem parseFound_cons (maxDepth : Int) (text : String) (tokens : List Token)
    (found : List (List Token)) (unclosed : Option Nat) :
    parseFound maxDepth text (tokens :: found, unclosed) =
      (build tokens maxDepth text).bind fun call =>
        (parseFound maxDepth text (found, unclosed)).map (call :: ·) := by
  simp only [parseFound, buildAll]
  cases build tokens maxDepth text with
  | error e => rfl
  | ok call =>
    cases buildAll maxDepth text found with
    | error e => rfl
    | ok calls => cases unclosed <;> rfl

/-- **One segment.** What is found in a segment that is read, and behind it, is parsed like the
segment and what is behind it. -/
theorem parseFound_segment {limits : Limits} {text : String} {start : Nat} {seg : List Char}
    {tokens : List Token} {found : List (List Token)} {unclosed : Option Nat}
    {segments : List Segment} (hread : Reads 0 start seg tokens)
    (hlen : (seg.length : Int) ≤ limits.maxLength)
    (hrest : parseFound limits.maxDepth text (found, unclosed) =
      parseSegments limits text segments) :
    parseFound limits.maxDepth text ([tokens].filter (· ≠ []) ++ found, unclosed) =
      parseSegments limits text
        ([Segment.mk start (String.ofList seg)].filter (!·.isBlank) ++ segments) := by
  by_cases hne : tokens = []
  · subst hne
    have hblank := (Segment.isBlank_iff start seg).2 hread.isBlankRun
    rw [List.filter_singleton, List.filter_singleton, hblank]
    exact hrest
  · have hblank : (Segment.mk start (String.ofList seg)).isBlank = false := by
      rw [← Bool.not_eq_true, Segment.isBlank_iff]
      exact fun hb => hne (hread.tokens_eq_nil hb)
    rw [List.filter_singleton, List.filter_singleton, decide_eq_true hne, hblank]
    show parseFound limits.maxDepth text (tokens :: found, unclosed) = _
    rw [parseFound_cons, parse_of_reads hread hne hlen text, hrest]
    rfl

/-- A text that ends in an unclosed literal is not blank. -/
theorem not_isBlankRun_of_error {depth p q : Nat} {cs : List Char}
    (h : statementAt depth p cs = .error q) : ¬ IsBlankRun cs := by
  intro hb
  induction cs generalizing p with
  | nil =>
    rw [statementAt_nil] at h
    cases h
  | cons c cs ih =>
    have hrest : IsBlankRun cs := fun d hd => hb d (List.mem_cons_of_mem c hd)
    by_cases hc : c = '\n'
    · subst hc
      cases depth with
      | zero =>
        rw [statementAt_newline_zero] at h
        cases h
      | succ depth =>
        rw [statementAt_newline_succ] at h
        exact ih h hrest
    · rw [statementAt_blank (hb c List.mem_cons_self) hc] at h
      exact ih h hrest

/-- **Segment by segment.** The statements that are found from a position on are parsed like the
segments from there on. -/
theorem parseFound_eq_segments {limits : Limits} (text : String) (cs : List Char) (start : Nat)
    (hlen : (cs.length : Int) ≤ limits.maxLength) :
    parseFound limits.maxDepth text (statements (Lexeme.cut start cs)) =
      parseSegments limits text ((Splitter.segments {} start [] cs).filter (!·.isBlank)) := by
  induction cs using Splitter.segment_induction generalizing start with
  | last seg hun =>
    rw [Splitter.segments_unbroken hun, List.nil_append, statements_eq]
    rcases readsOrUnclosed hun with hreads | ⟨q, hq⟩
    · obtain ⟨tokens, hread⟩ := hreads start
      have htake := statementAt_eq_ok_none_iff.2 hread
      rw [statementAt] at htake
      rw [htake]
      have hnone : parseFound limits.maxDepth text ([], none) = parseSegments limits text [] := rfl
      have hsegment := parseFound_segment hread hlen hnone
      rw [List.append_nil, List.append_nil] at hsegment
      exact hsegment
    · -- The literal stays open to the end of the text, and is reported behind all that was found.
      have htake := hq start
      have hblank : (Segment.mk start (String.ofList seg)).isBlank = false := by
        rw [← Bool.not_eq_true, Segment.isBlank_iff]
        exact not_isBlankRun_of_error htake
      rw [statementAt] at htake
      rw [htake, List.filter_singleton, hblank]
      have hparse := parse_of_unclosed (hq 0) hlen
      rw [Nat.zero_add] at hparse
      have hpoint : ((start + q : Nat) : Int) = q + start := by omega
      show Except.error (ParseError.pointing text .unclosedLiteral (start + q : Nat)) =
        parseSegments limits text [⟨start, String.ofList seg⟩]
      rw [parseSegments, hparse, hpoint]
      rfl
  | more seg rest hun h0 ih =>
    obtain ⟨tokens, htokens, hnewline⟩ := exists_isStatement hun h0 start
    have hread := statementAt_eq_ok_none_iff.1 htokens
    have htake := hnewline rest
    rw [statementAt] at htake
    rw [List.length_append, List.length_cons] at hlen
    rw [statements_eq, htake, Splitter.segments_newline hun h0, List.nil_append,
      ← List.singleton_append, List.filter_append]
    exact parseFound_segment hread (by omega) (ih (start + seg.length + 1) (by omega))

/-- **Scripts.** A script that is not too long is parsed statement by statement. -/
theorem parseScript_eq_segments {text : String} {limits : Limits}
    (hlen : text.length ≤ limits.maxLength) :
    parseScript text limits = parseSegments limits text (textSegments text) := by
  rw [parseScript_eq_found hlen]
  exact parseFound_eq_segments text text.toList 0 (by rw [String.length_toList]; omega)

/-- Statements of which some does not parse have a first one. -/
theorem exists_first_unparsed {limits : Limits} {segments : List Segment}
    (h : ∃ segment ∈ segments, ¬ segment.Parses limits) :
    ∃ front segment rest error, segments = front ++ segment :: rest ∧
      (∀ earlier ∈ front, earlier.Parses limits) ∧ parse segment.text limits = .error error := by
  induction segments with
  | nil =>
    obtain ⟨_, hmem, -⟩ := h
    cases hmem
  | cons first segments ih =>
    cases hfirst : parse first.text limits with
    | error error => exact ⟨[], first, segments, error, rfl, nofun, hfirst⟩
    | ok call =>
      have hparses : first.Parses limits := ⟨call, hfirst⟩
      obtain ⟨segment, hmem, hfails⟩ := h
      have hlater : ∃ segment ∈ segments, ¬ segment.Parses limits := by
        rcases List.mem_cons.1 hmem with rfl | hmem
        · exact absurd hparses hfails
        · exact ⟨segment, hmem, hfails⟩
      obtain ⟨front, segment, rest, error, rfl, hfront, herror⟩ := ih hlater
      refine ⟨first :: front, segment, rest, error, rfl, fun earlier hmem => ?_, herror⟩
      rcases List.mem_cons.1 hmem with rfl | hmem
      · exact hparses
      · exact hfront earlier hmem

theorem parseSegments_of_error {limits : Limits} {text : String} {front rest : List Segment}
    {segment : Segment} {error : ParseError} (hfront : ∀ earlier ∈ front, earlier.Parses limits)
    (h : parse segment.text limits = .error error) :
    parseSegments limits text (front ++ segment :: rest) =
      .error (error.relocate text segment.start) := by
  induction front with
  | nil =>
    rw [List.nil_append, parseSegments, h]
    rfl
  | cons first front ih =>
    obtain ⟨call, hcall⟩ := hfront first List.mem_cons_self
    rw [List.cons_append, parseSegments, hcall,
      ih fun earlier he => hfront earlier (List.mem_cons_of_mem first he)]
    rfl

theorem parseSegments_of_parses {limits : Limits} (text : String) {segments : List Segment}
    (h : ∀ segment ∈ segments, segment.Parses limits) :
    ∃ calls, parseSegments limits text segments = .ok calls ∧
      List.Forall₂ (fun segment call => parse segment.text limits = .ok call) segments calls := by
  induction segments with
  | nil => exact ⟨[], rfl, .nil⟩
  | cons first segments ih =>
    obtain ⟨call, hcall⟩ := h first List.mem_cons_self
    obtain ⟨calls, hcalls, hall⟩ := ih fun segment hs => h segment (List.mem_cons_of_mem first hs)
    refine ⟨call :: calls, ?_, .cons hcall hall⟩
    rw [parseSegments, hcall, hcalls]
    rfl

/-! ### Frames -/

theorem nesting_of_imbalance {opened : List Int} {tokens : List Token}
    (h : imbalance opened tokens = none) : nesting Token.side opened.length tokens = some 0 := by
  fun_induction imbalance opened tokens with
  | case1 opened =>
    cases opened with
    | nil => rfl
    | cons p opened => cases h
  | case2 opened p tokens ih => exact ih h
  | case3 p tokens => cases h
  | case4 p tokens q opened ih => exact ih h
  | case5 opened token tokens hopening hclosing ih =>
    cases token with
    | opening p => exact absurd rfl (hopening p)
    | closing p => exact absurd rfl (hclosing p)
    | _ => exact ih h

/-- A segment that is blank or parses closes all it opens and no more. -/
theorem nesting_of_parses {limits : Limits} {start : Nat} {seg : List Char}
    (hun : Splitter.Unbroken {} seg) (hlen : (seg.length : Int) ≤ limits.maxLength)
    (h : (Segment.mk start (String.ofList seg)).isBlank = false →
      (Segment.mk start (String.ofList seg)).Parses limits) :
    nesting charSide 0 seg = some 0 := by
  by_cases hb : IsBlankRun seg
  · exact nesting_of_neither hb.charSide 0
  · obtain ⟨call, hcall⟩ := h (by rw [← Bool.not_eq_true, Segment.isBlank_iff]; exact hb)
    rcases readsOrUnclosed hun with hreads | ⟨q, hq⟩
    · obtain ⟨tokens, hread⟩ := hreads 0
      have hne : tokens ≠ [] := by
        rintro rfl
        exact hb hread.isBlankRun
      have hbuild := parse_of_reads hread hne hlen (String.ofList seg)
      dsimp only at hcall
      rw [hcall, build_eq_bind] at hbuild
      rw [← hread.nesting_eq]
      cases hbal : imbalance [] tokens with
      | some found =>
        rw [checkBalance, hbal] at hbuild
        cases hbuild
      | none => exact nesting_of_imbalance hbal
    · dsimp only at hcall
      rw [parse_of_unclosed (hq 0) hlen] at hcall
      cases hcall

/-- **Frames.** Where every statement parses, a framer hands on the segments that are not blank, up
to the last one, which it keeps. -/
theorem frames_eq_segments {limits : Limits} {maximum : Int} (cs : List Char) (start : Nat)
    (hlimits : (cs.length : Int) ≤ limits.maxLength) (hlen : (cs.length : Int) ≤ maximum)
    (h : ∀ segment ∈ Splitter.segments {} start [] cs, segment.isBlank = false →
      segment.Parses limits) :
    ∃ lines : List String, (({ maximum } : Framer).run cs).2 = lines.map .statement ∧
      ((Splitter.segments {} start [] cs).map (·.text)).filter (!Text.allBlank ·) =
        lines ++ [(({ maximum } : Framer).run cs).1.pending].filter (!Text.allBlank ·) := by
  induction cs using Splitter.segment_induction generalizing start with
  | last seg hun =>
    rw [Splitter.segments_unbroken hun, List.nil_append] at h ⊢
    have hnest := nesting_of_parses hun hlimits (h _ List.mem_cons_self)
    have hroom : (([] : List Char).length + seg.length : Int) ≤ maximum := by
      rw [List.length_nil]
      omega
    rw [← Framer.gathering_nil, Framer.run_gathering hnest hun [] hroom]
    exact ⟨[], rfl, rfl⟩
  | more seg rest hun h0 ih =>
    rw [Splitter.segments_newline hun h0, List.nil_append] at h ⊢
    rw [List.length_append, List.length_cons] at hlen hlimits
    have hnest := nesting_of_parses hun (by omega) (h _ List.mem_cons_self)
    obtain ⟨lines, hlines, hsegments⟩ := ih (start + seg.length + 1) (by omega) (by omega)
      fun segment hs => h segment (List.mem_cons_of_mem _ hs)
    have hfits : (seg.length : Int) ≤ maximum := by omega
    have hseg := Framer.run_segment hun h0 hfits
    have hsplit : seg ++ '\n' :: rest = (seg ++ ['\n']) ++ rest := by simp
    rw [hsplit, Framer.run_append, hseg, Framer.segmentFrames, hnest, hlines, List.map_cons,
      List.filter_cons, hsegments, Text.allBlank, String.toList_ofList]
    by_cases hb : seg.all isBlank = true
    · refine ⟨lines, ?_, ?_⟩
      · simp only [if_pos hb, List.nil_append]
      · simp only [hb, Bool.not_true, Bool.false_eq_true, if_false]
    · refine ⟨String.ofList seg :: lines, ?_, ?_⟩
      · simp only [if_neg hb, List.singleton_append, List.map_cons]
      · rw [Bool.not_eq_true] at hb
        simp only [hb, Bool.not_false, if_true, List.cons_append]

/-- **The statements of a text are those of the framer.** -/
theorem framed_textSegments {limits : Limits} {text : String} {maximum : Int}
    (hlimits : text.length ≤ limits.maxLength) (hlen : (text.length : Int) ≤ maximum)
    (h : ∀ segment ∈ textSegments text, segment.Parses limits) :
    ∃ lines : List String, (({ maximum } : Framer).feed text).2 = lines.map .statement ∧
      (textSegments text).map (·.text) =
        lines ++ [(({ maximum } : Framer).feed text).1.pending].filter (!Text.allBlank ·) := by
  have hmap : (textSegments text).map (·.text) =
      ((Splitter.segments {} 0 [] text.toList).map (·.text)).filter (!Text.allBlank ·) := by
    rw [textSegments, List.filter_map]
    rfl
  have hparses : ∀ segment ∈ Splitter.segments {} 0 [] text.toList, segment.isBlank = false →
      segment.Parses limits := by
    intro segment hmem hblank
    refine h segment (List.mem_filter.2 ⟨hmem, ?_⟩)
    rw [hblank]
    rfl
  rw [hmap, Framer.feed_eq_run]
  refine frames_eq_segments text.toList 0 ?_ ?_ hparses
  · rw [String.length_toList]
    omega
  · rw [String.length_toList]
    exact hlen

end CommandShell
