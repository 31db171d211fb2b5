import CommandShell.Proofs.Statement
import CommandShell.Stream.Splitter

/-!
# Segments of a text

A splitter counts every parenthesis and knows nothing of words or literal regions. Its advice
still marks the same newlines that end statements: a literal region is balanced, so it leaves the
depth as it was, and inside it the depth is never zero.

A segment is a text without a newline at which the splitter is ready. Every text is its first
segment, or its first segment, a newline and a rest (`exists_segment`).

* `exists_isStatement` — a segment that ends outside parentheses is one statement, with or
  without a newline and further text behind it;
* `Reads.nesting_eq` — the tokens of a whole text nest as its characters do;
* `Reads.lower` — where a text starts only shifts the positions of its tokens;
* `statements_eq` — the statements of a text are taken one after the other.
-/

namespace CommandShell

/-! ### Splitters over texts -/

namespace Splitter

/-- The splitter behind the characters. -/
def feedAll (s : Splitter) (cs : List Char) : Splitter := cs.foldl (fun s c => (s.feed c).1) s

/-- The characters hold no newline at which the splitter is ready. -/
def Unbroken : Splitter → List Char → Prop
  | _, [] => True
  | s, c :: cs => (s.feed c).2 ≠ .ready ∧ Unbroken (s.feed c).1 cs

@[simp] theorem feedAll_nil (s : Splitter) : s.feedAll [] = s := rfl

theorem feedAll_cons (s : Splitter) (c : Char) (cs : List Char) :
    s.feedAll (c :: cs) = (s.feed c).1.feedAll cs := rfl

theorem feedAll_append (s : Splitter) (cs ds : List Char) :
    s.feedAll (cs ++ ds) = (s.feedAll cs).feedAll ds := List.foldl_append

theorem unbroken_append (s : Splitter) (cs ds : List Char) :
    s.Unbroken (cs ++ ds) ↔ s.Unbroken cs ∧ (s.feedAll cs).Unbroken ds := by
  induction cs generalizing s with
  | nil => simp [Unbroken]
  | cons c cs ih => rw [List.cons_append, Unbroken, Unbroken, ih, feedAll_cons, and_assoc]

/-- A character that is no parenthesis and does not end a statement leaves the splitter alone. -/
theorem feed_of_neither (s : Splitter) {c : Char} (hs : charSide c = .neither)
    (hn : c = '\n' → s.depth ≠ 0) : s.feed c = (s, s.pending) := by
  have ho : c ≠ '(' := by
    rintro rfl
    cases hs
  have hc : c ≠ ')' := by
    rintro rfl
    cases hs
  rw [feed, if_neg (fun h => hn h.1 h.2), if_neg ho, if_neg hc]

theorem feed_newline_zero (poisoned : Bool) :
    feed ⟨0, poisoned⟩ '\n' = (⟨0, false⟩, .ready) := by
  simp [feed]

theorem feed_open (depth : Nat) (poisoned : Bool) :
    feed ⟨depth, poisoned⟩ '(' = (⟨depth + 1, poisoned⟩, pending ⟨depth + 1, poisoned⟩) := by
  simp [feed]

theorem feed_close_zero (poisoned : Bool) : feed ⟨0, poisoned⟩ ')' = (⟨0, true⟩, .discard) := by
  simp [feed]

theorem feed_close_succ (depth : Nat) (poisoned : Bool) :
    feed ⟨depth + 1, poisoned⟩ ')' = (⟨depth, poisoned⟩, pending ⟨depth, poisoned⟩) := by
  simp [feed]

theorem feed_close_depth (depth : Nat) (poisoned : Bool) :
    (feed ⟨depth, poisoned⟩ ')').1.depth = depth - 1 := by
  cases depth with
  | zero => rw [feed_close_zero]
  | succ depth => rw [feed_close_succ]; rfl

/-- **One character.** A character that does not end a statement closes more than is open, or it
moves the depth as it moves the nesting and leaves the rest of the splitter alone. -/
theorem feed_cases {d : Nat} {poisoned : Bool} {c : Char}
    (h : (feed ⟨d, poisoned⟩ c).2 ≠ .ready) :
    (c = ')' ∧ d = 0) ∨
      ∃ e, feed ⟨d, poisoned⟩ c = (⟨e, poisoned⟩, pending ⟨e, poisoned⟩) ∧
        ∀ cs, nesting charSide d (c :: cs) = nesting charSide e cs := by
  cases hs : charSide c with
  | opens =>
    rw [eq_open_of_charSide hs]
    exact .inr ⟨d + 1, feed_open d poisoned, nesting_opens charSide_open d⟩
  | closes =>
    rw [eq_close_of_charSide hs]
    cases d with
    | zero => exact .inl ⟨rfl, rfl⟩
    | succ d => exact .inr ⟨d, feed_close_succ d poisoned, nesting_closes_succ charSide_close d⟩
  | neither =>
    have hn : c = '\n' → d ≠ 0 := fun hc hd => h ((feed_ready_iff _ c).2 ⟨hc, hd⟩)
    exact .inr ⟨d, feed_of_neither _ hs hn, nesting_neither hs d⟩

/-- **Nesting moves the depth.** Characters that lead from depth `d` to depth `e` do so for a
splitter, at any greater depth and poisoned or not; strictly inside parentheses they hold no end
of a statement. -/
theorem feedAll_of_nesting {d e : Nat} {cs : List Char} (h : nesting charSide d cs = some e)
    (k : Nat) (poisoned : Bool) :
    feedAll ⟨d + k + 1, poisoned⟩ cs = ⟨e + k + 1, poisoned⟩ ∧
      Unbroken ⟨d + k + 1, poisoned⟩ cs := by
  induction cs generalizing d with
  | nil =>
    rw [nesting_nil, Option.some.injEq] at h
    rw [h]
    exact ⟨rfl, trivial⟩
  | cons c cs ih =>
    rw [feedAll_cons, Unbroken]
    cases hs : charSide c with
    | opens =>
      rw [nesting_opens hs] at h
      obtain rfl := eq_open_of_charSide hs
      obtain ⟨hall, hun⟩ := ih h
      rw [feed_open, show d + k + 1 + 1 = d + 1 + k + 1 by omega]
      exact ⟨hall, pending_ne_ready _, hun⟩
    | closes =>
      obtain rfl := eq_close_of_charSide hs
      cases d with
      | zero =>
        rw [nesting_closes_zero hs] at h
        cases h
      | succ d =>
        rw [nesting_closes_succ hs] at h
        obtain ⟨hall, hun⟩ := ih h
        rw [show d + 1 + k + 1 = d + k + 1 + 1 by omega, feed_close_succ]
        exact ⟨hall, pending_ne_ready _, hun⟩
    | neither =>
      rw [nesting_neither hs] at h
      obtain ⟨hall, hun⟩ := ih h
      rw [feed_of_neither _ hs (fun _ => Nat.succ_ne_zero _)]
      exact ⟨hall, pending_ne_ready _, hun⟩

/-- A literal region leaves the splitter as it was and holds no end of a statement. -/
theorem feedAll_literal {raw : List Char} (h : Balanced raw) (s : Splitter) (cs : List Char) :
    s.feedAll ('(' :: '#' :: (raw ++ ')' :: cs)) = s.feedAll cs ∧
      (s.Unbroken ('(' :: '#' :: (raw ++ ')' :: cs)) → s.Unbroken cs) := by
  obtain ⟨depth, poisoned⟩ := s
  have hhash : charSide '#' = .neither := rfl
  obtain ⟨hall, -⟩ := feedAll_of_nesting ((balanced_iff_nesting raw).1 h) depth poisoned
  rw [Nat.zero_add] at hall
  simp only [feedAll_cons, Unbroken, feedAll_append, unbroken_append]
  rw [feed_open, feed_of_neither _ hhash (fun _ => Nat.succ_ne_zero _), hall, feed_close_succ]
  exact ⟨rfl, fun hun => hun.2.2.2.2⟩

/-- An unclosed literal region keeps the splitter inside parentheses. -/
theorem feedAll_unclosed {cs : List Char} {e : Nat} (h : nesting charSide 0 cs = some e)
    (s : Splitter) : (s.feedAll ('(' :: '#' :: cs)).depth ≠ 0 := by
  obtain ⟨depth, poisoned⟩ := s
  have hhash : charSide '#' = .neither := rfl
  obtain ⟨hall, -⟩ := feedAll_of_nesting h depth poisoned
  rw [Nat.zero_add] at hall
  rw [feedAll_cons, feedAll_cons, feed_open,
    feed_of_neither _ hhash (fun _ => Nat.succ_ne_zero _), hall]
  exact Nat.succ_ne_zero _

/-- A word leaves the splitter as it was. -/
theorem feedAll_word {w : List Char} (h : IsWord w) (s : Splitter) : s.feedAll w = s := by
  have hall : ∀ v : List Char, (∀ c ∈ v, c ∈ w) → s.feedAll v = s := by
    intro v hv
    induction v with
    | nil => rfl
    | cons c v ih =>
      have hc := hv c List.mem_cons_self
      rw [feedAll_cons, feed_of_neither s (h.charSide c hc)
        fun hn => absurd hn (ne_newline_of_isWordChar (h.chars c hc))]
      exact ih fun d hd => hv d (List.mem_cons_of_mem c hd)
  exact hall w fun _ hc => hc

/-- **The first segment of a text.** -/
theorem exists_segment (s : Splitter) (cs : List Char) :
    s.Unbroken cs ∨
      ∃ seg rest, cs = seg ++ '\n' :: rest ∧ s.Unbroken seg ∧ (s.feedAll seg).depth = 0 := by
  induction cs generalizing s with
  | nil => exact .inl trivial
  | cons c cs ih =>
    by_cases hr : (s.feed c).2 = .ready
    · obtain ⟨rfl, h0⟩ := (feed_ready_iff s c).1 hr
      exact .inr ⟨[], cs, rfl, trivial, h0⟩
    · rcases ih (s.feed c).1 with hun | ⟨seg, rest, rfl, hun, h0⟩
      · exact .inl ⟨hr, hun⟩
      · exact .inr ⟨c :: seg, rest, rfl, ⟨hr, hun⟩, h0⟩

end Splitter

/-! ### A segment is a statement -/

namespace Piece

/-- The positions of a piece tell its length. -/
theorem length_eq {depth p depth' p' : Nat} {cs rest : List Char} {item : List Token}
    (h : Piece depth p cs item depth' p' rest) : p' + rest.length = p + cs.length := by
  cases h <;> simp only [List.length_append, List.length_cons] <;> omega

/-- A piece starts with a character that is not blank. -/
theorem exists_cons {depth p depth' p' : Nat} {cs rest : List Char} {item : List Token}
    (h : Piece depth p cs item depth' p' rest) : ∃ c ds, cs = c :: ds ∧ isBlank c = false := by
  cases h with
  | word hw _ =>
    obtain ⟨c, w, rfl, hc⟩ := hw.exists_cons
    exact ⟨c, _, rfl, ((isWordChar_iff c).1 hc).1⟩
  | opening _ => exact ⟨_, _, rfl, isBlank_open⟩
  | closing => exact ⟨_, _, rfl, isBlank_close⟩
  | literal _ => exact ⟨_, _, rfl, isBlank_open⟩

/-- A newline behind the rest does not change a piece. -/
theorem append_newline {depth p depth' p' : Nat} {cs rest : List Char} {item : List Token}
    (h : Piece depth p cs item depth' p' rest) (later : List Char) :
    Piece depth p (cs ++ '\n' :: later) item depth' p' (rest ++ '\n' :: later) := by
  cases h with
  | word hw he =>
    rw [List.append_assoc]
    refine .word hw ?_
    cases rest with
    | nil => exact endsWord_cons.2 (not_isWordChar_of_isBlank isBlank_newline)
    | cons c rest => exact he
  | opening ho =>
    refine .opening ?_
    cases rest with
    | nil => simp
    | cons c rest => exact ho
  | closing => exact .closing
  | literal hraw =>
    simp only [List.cons_append, List.append_assoc]
    exact .literal hraw

end Piece

/-- The text `seg` at position `p` is a statement of these tokens, alone and in front of a newline
that ends it. -/
def IsStatement (depth p : Nat) (seg : List Char) (tokens : List Token) : Prop :=
  statementAt depth p seg = .ok (tokens, none) ∧
    ∀ rest, statementAt depth p (seg ++ '\n' :: rest) =
      .ok (tokens, some (p + seg.length + 1, Lexeme.cut (p + seg.length + 1) rest))

theorem IsStatement.of_blank {depth p : Nat} {c : Char} {seg : List Char} {tokens : List Token}
    (hread : ∀ cs, statementAt depth p (c :: cs) = statementAt depth (p + 1) cs)
    (h : IsStatement depth (p + 1) seg tokens) : IsStatement depth p (c :: seg) tokens := by
  refine ⟨(hread seg).trans h.1, fun rest => ?_⟩
  rw [List.cons_append, hread, h.2 rest, List.length_cons, Nat.add_right_comm p 1 seg.length]
  rfl

theorem IsStatement.of_piece {depth p depth' p' : Nat} {seg rest : List Char}
    {item tokens : List Token} (hp : Piece depth p seg item depth' p' rest)
    (h : IsStatement depth' p' rest tokens) : IsStatement depth p seg (item ++ tokens) := by
  refine ⟨?_, fun later => ?_⟩
  · rw [statementAt_piece hp, h.1, withTokens_ok]
  · rw [statementAt_piece (hp.append_newline later), h.2 later, withTokens_ok, hp.length_eq]

/-- **A segment is a statement.** A segment that ends outside parentheses gives the same tokens
alone as in front of a newline; the newline then ends the statement. -/
theorem exists_isStatement {seg : List Char} {s : Splitter} (hun : s.Unbroken seg)
    (hend : (s.feedAll seg).depth = 0) (p : Nat) :
    ∃ tokens, IsStatement s.depth p seg tokens := by
  induction seg using scan_induction generalizing s p with
  | nil =>
    rw [Splitter.feedAll_nil] at hend
    refine ⟨[], statementAt_nil s.depth p, fun rest => ?_⟩
    rw [hend]
    exact statementAt_newline_zero p rest
  | newline cs ih =>
    obtain ⟨hready, hun⟩ := hun
    have h0 : s.depth ≠ 0 := fun h => hready ((Splitter.feed_ready_iff s '\n').2 ⟨rfl, h⟩)
    rw [Splitter.feedAll_cons, Splitter.feed_of_neither s rfl fun _ => h0] at hend
    rw [Splitter.feed_of_neither s rfl fun _ => h0] at hun
    obtain ⟨tokens, htokens⟩ := ih hun hend (p + 1)
    obtain ⟨depth, hdepth⟩ := Nat.exists_eq_succ_of_ne_zero h0
    rw [hdepth] at htokens ⊢
    exact ⟨tokens, .of_blank (statementAt_newline_succ depth p) htokens⟩
  | blank c cs hb hn ih =>
    have hside := charSide_of_ne (ne_paren_of_isBlank hb).1 (ne_paren_of_isBlank hb).2
    have hfeed := Splitter.feed_of_neither s hside fun h => absurd h hn
    rw [Splitter.feedAll_cons, hfeed] at hend
    rw [Splitter.Unbroken, hfeed] at hun
    obtain ⟨tokens, htokens⟩ := ih hun.2 hend (p + 1)
    exact ⟨tokens, .of_blank (statementAt_blank hb hn s.depth p) htokens⟩
  | opening cs ho ih =>
    obtain ⟨depth, poisoned⟩ := s
    rw [Splitter.feedAll_cons, Splitter.feed_open] at hend
    rw [Splitter.Unbroken, Splitter.feed_open] at hun
    obtain ⟨tokens, htokens⟩ := ih hun.2 hend (p + 1)
    exact ⟨_, .of_piece (.opening ho) htokens⟩
  | closing cs ih =>
    obtain ⟨tokens, htokens⟩ := ih hun.2 hend (p + 1)
    rw [Splitter.feed_close_depth] at htokens
    exact ⟨_, .of_piece .closing htokens⟩
  | literal raw cs hraw ih =>
    obtain ⟨hall, hrest⟩ := Splitter.feedAll_literal hraw s cs
    rw [hall] at hend
    obtain ⟨tokens, htokens⟩ := ih (hrest hun) hend (p + 2 + raw.length + 1)
    exact ⟨_, .of_piece (.literal hraw) htokens⟩
  | unclosed cs e he => exact absurd hend (Splitter.feedAll_unclosed he s)
  | word w cs hw he ih =>
    rw [Splitter.feedAll_append, Splitter.feedAll_word hw] at hend
    rw [Splitter.unbroken_append, Splitter.feedAll_word hw] at hun
    obtain ⟨tokens, htokens⟩ := ih hun.2 hend (p + w.length)
    exact ⟨_, .of_piece (.word hw he) htokens⟩

/-! ### Texts that are read as a whole -/

/-- All of the text `cs` at position `p` is read into tokens, blank characters aside. -/
inductive Reads : (depth p : Nat) → List Char → List Token → Prop
  | nil {depth p : Nat} : Reads depth p [] []
  | blank {depth p : Nat} {c : Char} {cs : List Char} {tokens : List Token} :
      isBlank c = true → (c = '\n' → depth ≠ 0) → Reads depth (p + 1) cs tokens →
      Reads depth p (c :: cs) tokens
  | piece {depth p depth' p' : Nat} {cs rest : List Char} {item tokens : List Token} :
      Piece depth p cs item depth' p' rest → Reads depth' p' rest tokens →
      Reads depth p cs (item ++ tokens)

/-- A statement that starts with a piece is read as a whole if what follows the piece is. -/
theorem Reads.of_piece {depth p depth' p' : Nat} {cs rest : List Char} {item tokens : List Token}
    (hp : Piece depth p cs item depth' p' rest)
    (hrest : ∀ {others}, statementAt depth' p' rest = .ok (others, none) →
      Reads depth' p' rest others)
    (h : statementAt depth p cs = .ok (tokens, none)) : Reads depth p cs tokens := by
  rw [statementAt_piece hp] at h
  obtain ⟨others, hothers, rfl⟩ := withTokens_eq_ok_iff.1 h
  exact .piece hp (hrest hothers)

/-- A statement without a newline behind it is a text that is read as a whole. -/
theorem statementAt_eq_ok_none_iff {depth p : Nat} {cs : List Char} {tokens : List Token} :
    statementAt depth p cs = .ok (tokens, none) ↔ Reads depth p cs tokens := by
  constructor
  · intro h
    induction cs using scan_induction generalizing depth p tokens with
    | nil =>
      rw [statementAt_nil] at h
      cases h
      exact .nil
    | newline cs ih =>
      cases depth with
      | zero =>
        rw [statementAt_newline_zero] at h
        cases h
      | succ depth =>
        rw [statementAt_newline_succ] at h
        exact .blank isBlank_newline (fun _ => Nat.succ_ne_zero depth) (ih h)
    | blank c cs hb hn ih =>
      rw [statementAt_blank hb hn] at h
      exact .blank hb (fun hc => absurd hc hn) (ih h)
    | opening cs ho ih => exact .of_piece (.opening ho) ih h
    | closing cs ih => exact .of_piece .closing ih h
    | literal raw cs hraw ih => exact .of_piece (.literal hraw) ih h
    | unclosed cs e he =>
      rw [statementAt_unclosed he] at h
      cases h
    | word w cs hw he ih => exact .of_piece (.word hw he) ih h
  · intro h
    induction h with
    | nil => exact statementAt_nil _ _
    | @blank depth p c cs tokens hb hn _ ih =>
      by_cases hc : c = '\n'
      · obtain ⟨d, rfl⟩ := Nat.exists_eq_succ_of_ne_zero (hn hc)
        rw [hc, statementAt_newline_succ]
        exact ih
      · rw [statementAt_blank hb hc]
        exact ih
    | piece hp _ ih => rw [statementAt_piece hp, ih, withTokens_ok]

/-- A piece leads from a depth to the same depth as its tokens, or both fail. -/
theorem Piece.nesting_eq {depth p depth' p' : Nat} {cs rest : List Char} {item : List Token}
    (h : Piece depth p cs item depth' p' rest) (d : Nat) :
    nesting charSide d cs = (nesting Token.side d item).bind fun e => nesting charSide e rest := by
  cases h with
  | word hw _ =>
    rw [nesting_append, nesting_of_neither hw.charSide]
    rfl
  | opening _ => rfl
  | closing => cases d <;> rfl
  | literal hraw =>
    have hinner := nesting_add ((balanced_iff_nesting _).1 hraw) (d + 1)
    rw [nesting_opens charSide_open, nesting_neither (by rfl), nesting_append]
    rw [Nat.zero_add] at hinner
    rw [hinner]
    rfl

/-- **Tokens nest as characters do.** Where a text is read as a whole, its tokens lead from any
depth to the same depth as the characters, or both fail. -/
theorem Reads.nesting_eq {depth p : Nat} {cs : List Char} {tokens : List Token}
    (h : Reads depth p cs tokens) (d : Nat) :
    nesting Token.side d tokens = nesting charSide d cs := by
  induction h generalizing d with
  | nil => rfl
  | blank hb _ _ ih =>
    have hside := charSide_of_ne (ne_paren_of_isBlank hb).1 (ne_paren_of_isBlank hb).2
    rw [nesting_neither hside]
    exact ih d
  | piece hp _ ih =>
    rw [nesting_append, hp.nesting_eq]
    exact congrArg _ (funext ih)

/-- A text is read into no tokens only if it is blank. -/
theorem Reads.isBlankRun {depth p : Nat} {cs : List Char} (h : Reads depth p cs []) :
    IsBlankRun cs := by
  rcases end_of_statementAt (statementAt_eq_ok_none_iff.2 h) with ⟨hsep, -⟩ | ⟨-, _, _, _, _, _, h⟩
  · exact hsep.1
  · cases h

/-- A blank text is read into no tokens. -/
theorem Reads.tokens_eq_nil {depth p : Nat} {cs : List Char} {tokens : List Token}
    (h : Reads depth p cs tokens) (hb : IsBlankRun cs) : tokens = [] := by
  induction h with
  | nil => rfl
  | blank _ _ _ ih => exact ih fun d hd => hb d (List.mem_cons_of_mem _ hd)
  | piece hp _ _ =>
    obtain ⟨c, rest, rfl, hc⟩ := hp.exists_cons
    rw [hb c List.mem_cons_self] at hc
    cases hc

/-! ### Positions -/

/-- The token with its position lowered. -/
def Token.lower (k : Nat) : Token → Token
  | .word text p => .word text (p - k)
  | .opening p => .opening (p - k)
  | .closing p => .closing (p - k)
  | .marker p => .marker (p - k)
  | .foreign shown => .foreign shown

theorem Piece.lower {depth p k depth' p' : Nat} {cs rest : List Char} {item : List Token}
    (h : Piece depth (p + k) cs item depth' p' rest) :
    ∃ q, p' = q + k ∧ Piece depth p cs (item.map (Token.lower k)) depth' q rest := by
  cases h with
  | word hw he =>
    refine ⟨p + _, Nat.add_right_comm _ _ _, ?_⟩
    have hp := @Piece.word depth p _ _ hw he
    simpa [Token.lower] using hp
  | opening ho =>
    refine ⟨p + 1, Nat.add_right_comm _ _ _, ?_⟩
    have hp := @Piece.opening depth p _ ho
    simpa [Token.lower] using hp
  | closing =>
    refine ⟨p + 1, Nat.add_right_comm _ _ _, ?_⟩
    have hp := @Piece.closing depth p rest
    simpa [Token.lower] using hp
  | @literal raw _ hraw =>
    refine ⟨p + 2 + raw.length + 1, by omega, ?_⟩
    have hp := @Piece.literal depth p raw rest hraw
    have h0 : ((p + k : Nat) : Int) - k = p := by omega
    have h1 : ((p + k : Nat) : Int) + 1 - k = p + 1 := by omega
    have h2 : ((p + k : Nat) : Int) + 2 - k = p + 2 := by omega
    have h3 : ((p + k : Nat) : Int) + 2 + raw.length - k = p + 2 + raw.length := by omega
    simpa only [List.map_cons, List.map_nil, Token.lower, h0, h1, h2, h3] using hp

/-- **Positions only shift.** A text is read alike from a lower position, with the positions of its
tokens lowered. -/
theorem Reads.lower {depth p k : Nat} {cs : List Char} {tokens : List Token}
    (h : Reads depth (p + k) cs tokens) : Reads depth p cs (tokens.map (Token.lower k)) := by
  generalize hq : p + k = q at h
  induction h generalizing p with
  | nil => exact .nil
  | blank hb hn _ ih =>
    subst hq
    exact .blank hb hn (ih (Nat.add_right_comm p 1 k))
  | piece hp _ ih =>
    subst hq
    obtain ⟨q, rfl, hlow⟩ := hp.lower
    rw [List.map_append]
    exact .piece hlow (ih rfl)

/-- A text that is read as a whole, with a first token, is a text of one statement. -/
theorem tokenize_of_reads {text : String} {maximum : Int} {token : Token} {tokens : List Token}
    (hlen : (text.length : Int) ≤ maximum) (h : Reads 0 0 text.toList (token :: tokens)) :
    tokenize text maximum = .ok (token :: tokens) := by
  have hread := statementAt_eq_ok_none_iff.2 h
  obtain ⟨htext, hsep, hpiece, -, -⟩ := begins_of_statementAt hread
  obtain ⟨c, ds, rfl, hc⟩ := hpiece.exists_cons
  have hnb : ¬ isBlank c = true := by simp [hc]
  rw [tokenize_eq_ok_cons_iff]
  refine ⟨hlen, none, nofun, ?_⟩
  rw [htext, statementAt_separator hsep, Nat.zero_add] at hread
  rw [htext, List.takeWhile_append_of_pos hsep.1, List.takeWhile_cons_of_neg hnb, List.append_nil,
    List.dropWhile_append_of_pos hsep.1, List.dropWhile_cons_of_neg hnb]
  exact hread

/-! ### The statements of a text -/

/-- Newlines in front of lexemes do not change their statements. -/
theorem statements_newline (p : Nat) (ls : List Lexeme) :
    statements (.newline p :: ls) = statements ls := by
  rw [statements.eq_def, statements.eq_def ls, List.dropWhile_cons_of_pos rfl]

/-- The first statement of lexemes that do not start with a newline. -/
theorem statements_cons {l : Lexeme} (h : l.isNewline = false) (ls : List Lexeme) :
    statements (l :: ls) =
      match takeStatement 0 (l :: ls) with
      | .error p => ([], some p)
      | .ok (tokens, none) => ([tokens], none)
      | .ok (tokens, some (_, rest)) => (tokens :: (statements rest).1, (statements rest).2) := by
  have hskip : (l :: ls).dropWhile Lexeme.isNewline = l :: ls :=
    List.dropWhile_cons_of_neg (by rw [h]; exact Bool.false_ne_true)
  rw [statements.eq_def]
  split
  · rename_i hnil
    rw [hskip] at hnil
    cases hnil
  · rename_i l' ls' hcons
    rw [hskip] at hcons
    cases hcons
    split <;> rename_i htake <;> rw [htake]

/-- **Statements one by one.** The statements of lexemes are the first one, unless it has no
tokens, and those of the lexemes behind it. -/
theorem statements_eq (ls : List Lexeme) :
    statements ls =
      match takeStatement 0 ls with
      | .error p => ([], some p)
      | .ok (tokens, none) => ([tokens].filter (· ≠ []), none)
      | .ok (tokens, some (_, rest)) =>
        ([tokens].filter (· ≠ []) ++ (statements rest).1, (statements rest).2) := by
  cases ls with
  | nil =>
    rw [statements.eq_def, takeStatement]
    rfl
  | cons l ls =>
    by_cases h : l.tokens = []
    · cases l with
      | newline p =>
        rw [statements_newline, takeStatement]
        rfl
      | unclosed p => rw [statements_cons rfl, takeStatement]
      | _ => cases h
    · have hl : l.isNewline = false := by
        cases l with
        | newline p => exact absurd rfl h
        | _ => rfl
      rw [statements_cons hl, takeStatement_cons h]
      rcases takeStatement (l.depthAfter 0) ls with p | ⟨tokens, _ | ⟨q, rest⟩⟩
      · rfl
      · have hne : l.tokens ++ tokens ≠ [] := by simp [h]
        simp [hne]
      · have hne : l.tokens ++ tokens ≠ [] := by simp [h]
        simp [hne]

end CommandShell
