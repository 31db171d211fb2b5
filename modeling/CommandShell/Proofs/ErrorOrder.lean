import CommandShell.Proofs.WholeText

/-!
# The order of errors

A text of one statement, a text of several and a text with a literal region that never ends take
different ways through the tokenizer, and an error can be found on each of them. Seen from outside
there is one order: a region that is not closed, then a parenthesis without a partner anywhere in
the text, then input behind the first statement, then what the builder finds.

* `statement_induction` — induction along the pieces of a statement, in the text that holds it;
* `statementAt_ending`, `nextStatement_ending` — the newline that ends the first statement is the
  first one outside parentheses that comes after something that is not blank;
* `parsing_of_blank`, `parsing_of_unended`, `parsing_of_ended`, `parsing_of_more` — one lemma for
  each way through the tokenizer;
* `parse_isParsing` — **the one order in which a text is refused**;
* `kind_of_parse_ne_handlerFailed` — none of these errors is that of a handler.
-/

namespace CommandShell

/-! ### The end of the first statement -/

/-- A newline outside parentheses. -/
def EndsAt (cs : List Char) (i : Nat) : Prop := cs[i]? = some '\n' ∧ openBefore cs i = []

instance (cs : List Char) (i : Nat) : Decidable (EndsAt cs i) := inferInstanceAs (Decidable (_ ∧ _))

/-- The newline that ends the first statement: the first one outside parentheses that comes after
something that is not blank. -/
structure EndsFirst (cs : List Char) (i : Nat) : Prop where
  ends : EndsAt cs i
  after : ¬ IsBlankRun (cs.take i)
  first : ∀ j < i, EndsAt cs j → IsBlankRun (cs.take j)

/-- Something that is not blank stands behind the end of the first statement. -/
def HasTrailingInput (cs : List Char) : Prop :=
  ∃ i, EndsFirst cs i ∧ ¬ IsBlankRun (cs.drop (i + 1))

section Endings

variable {cs rest : List Char} {p : Nat}

/-- The end of the statement that goes on at position `p`, as the text shows it. -/
def EndingFrom (cs : List Char) (p : Nat) : Option (Nat × List Lexeme) → Prop
  | none => ∀ i, p ≤ i → ¬ EndsAt cs i
  | some (q, ls) => ∃ i, p ≤ i ∧ EndsAt cs i ∧ (∀ j, p ≤ j → j < i → ¬ EndsAt cs j) ∧
      q = i + 1 ∧ ls = Lexeme.cut (i + 1) (cs.drop (i + 1))

/-- Where no statement ends in between, the end is the same. -/
theorem EndingFrom.of_le {p' : Nat} {ending : Option (Nat × List Lexeme)}
    (h : EndingFrom cs p' ending) (hle : p ≤ p') (hno : ∀ j, p ≤ j → j < p' → ¬ EndsAt cs j) :
    EndingFrom cs p ending := by
  cases ending with
  | none =>
    intro i hi
    rcases Nat.lt_or_ge i p' with hlt | hge
    · exact hno i hi hlt
    · exact h i hge
  | some found =>
    obtain ⟨i, hi, hends, hfirst, hq, hls⟩ := h
    refine ⟨i, Nat.le_trans hle hi, hends, fun j hj hji => ?_, hq, hls⟩
    rcases Nat.lt_or_ge j p' with hlt | hge
    · exact hno j hj hlt
    · exact hfirst j hge hji

theorem not_endsAt_of_getElem? {c : Char} (h : cs[p]? = some c) (hc : c ≠ '\n') :
    ¬ EndsAt cs p := by
  rintro ⟨hn, -⟩
  rw [h] at hn
  cases hn
  exact hc rfl

/-- **A piece in its text.** Behind a piece the text goes on, the depth follows the open positions,
and no statement ends inside the piece. -/
theorem Piece.in_text {depth' p' : Nat} {rest' : List Char} {item : List Token}
    (h : Piece (openBefore cs p).length p rest item depth' p' rest') (hdrop : cs.drop p = rest) :
    cs.drop p' = rest' ∧ depth' = (openBefore cs p').length ∧ p ≤ p' ∧
      ∀ j, p ≤ j → j < p' → ¬ EndsAt cs j := by
  have hone : ∀ {c : Char} {rest : List Char}, cs.drop p = c :: rest → c ≠ '\n' →
      ∀ j, p ≤ j → j < p + 1 → ¬ EndsAt cs j := by
    intro c rest hc hn j hj hlt
    obtain rfl : j = p := by omega
    exact not_endsAt_of_getElem? (getElem?_of_drop hc) hn
  cases h with
  | @word w _ hw _ =>
    refine ⟨drop_add_of_drop hdrop, ?_, Nat.le_add_right p _, fun j hj hlt => ?_⟩
    · rw [openBefore_balanced hdrop (nesting_of_neither hw.charSide 0)]
    · obtain ⟨c, hc, hget⟩ := exists_mem_of_drop hdrop hj hlt
      exact not_endsAt_of_getElem? hget (ne_newline_of_isWordChar (hw.chars c hc))
  | opening _ =>
    refine ⟨drop_succ_of_drop hdrop, ?_, Nat.le_succ p, hone hdrop (by decide)⟩
    rw [openBefore_opening (getElem?_of_drop hdrop), List.length_cons]
  | closing =>
    refine ⟨drop_succ_of_drop hdrop, ?_, Nat.le_succ p, hone hdrop (by decide)⟩
    rw [openBefore_closing (getElem?_of_drop hdrop), List.length_tail]
  | @literal raw _ hraw =>
    obtain ⟨hdrop', hopen⟩ := openBefore_region hraw hdrop
    refine ⟨hdrop', by rw [hopen], by omega, fun j hj hlt => ?_⟩
    rcases Nat.eq_or_lt_of_le hj with rfl | hj
    · exact hone hdrop (by decide) p (Nat.le_refl p) (Nat.lt_succ_self p)
    · -- Some parenthesis is open inside the region.
      rintro ⟨-, hempty⟩
      obtain ⟨q, hq, -⟩ := inLiteral_of_region hdrop hraw hj (by omega)
      rw [hempty] at hq
      cases hq

/-- **Induction along a statement.** What holds at the end of a statement, and is kept by putting a
blank character or a piece in front, holds of the statement. -/
theorem statement_induction {ending : Option (Nat × List Lexeme)}
    {motive : Nat → List Token → Prop}
    (finished : ∀ p, cs.length ≤ p → ending = none → motive p [])
    (ended : ∀ p, EndsAt cs p →
      ending = some (p + 1, Lexeme.cut (p + 1) (cs.drop (p + 1))) → motive p [])
    (blank : ∀ p c tokens, cs[p]? = some c → isBlank c = true → ¬ EndsAt cs p →
      motive (p + 1) tokens → motive p tokens)
    (piece : ∀ p rest item depth' p' rest' tokens, cs.drop p = rest →
      Piece (openBefore cs p).length p rest item depth' p' rest' → motive p' tokens →
      motive p (item ++ tokens))
    {p : Nat} {tokens : List Token} (hdrop : cs.drop p = rest)
    (h : statementAt (openBefore cs p).length p rest = .ok (tokens, ending)) :
    motive p tokens := by
  have hpiece : ∀ {p p' depth' : Nat} {rest rest' : List Char} {item tokens : List Token},
      Piece (openBefore cs p).length p rest item depth' p' rest' → cs.drop p = rest →
      statementAt (openBefore cs p).length p rest = .ok (tokens, ending) →
      (∀ {tokens}, cs.drop p' = rest' →
        statementAt (openBefore cs p').length p' rest' = .ok (tokens, ending) →
        motive p' tokens) →
      motive p tokens := by
    intro p p' depth' rest rest' item tokens hp hdrop h ih
    obtain ⟨hdrop', rfl, -, -⟩ := hp.in_text hdrop
    rw [statementAt_piece hp] at h
    obtain ⟨others, hothers, rfl⟩ := withTokens_eq_ok_iff.1 h
    exact piece p rest item _ p' rest' others hdrop hp (ih hdrop' hothers)
  have hblank : ∀ {p : Nat} {c : Char} {rest : List Char} {tokens : List Token},
      isBlank c = true → cs.drop p = c :: rest → ¬ EndsAt cs p →
      statementAt (openBefore cs p).length (p + 1) rest = .ok (tokens, ending) →
      (∀ {tokens}, cs.drop (p + 1) = rest →
        statementAt (openBefore cs (p + 1)).length (p + 1) rest = .ok (tokens, ending) →
        motive (p + 1) tokens) →
      motive p tokens := by
    intro p c rest tokens hb hdrop hends h ih
    have hget := getElem?_of_drop hdrop
    have hside := charSide_of_ne (ne_paren_of_isBlank hb).1 (ne_paren_of_isBlank hb).2
    rw [← openBefore_neither hget hside] at h
    exact blank p c tokens hget hb hends (ih (drop_succ_of_drop hdrop) h)
  induction rest using scan_induction generalizing p tokens with
  | nil =>
    rw [statementAt_nil] at h
    cases h
    exact finished p (List.drop_eq_nil_iff.1 hdrop) rfl
  | newline rest ih =>
    cases hopen : openBefore cs p with
    | nil =>
      rw [hopen, List.length_nil, statementAt_newline_zero, ← drop_succ_of_drop hdrop] at h
      cases h
      exact ended p ⟨getElem?_of_drop hdrop, hopen⟩ rfl
    | cons top below =>
      rw [hopen, List.length_cons, statementAt_newline_succ, ← List.length_cons, ← hopen] at h
      refine hblank isBlank_newline hdrop ?_ h ih
      rintro ⟨-, hempty⟩
      rw [hopen] at hempty
      cases hempty
  | blank c rest hb hn ih =>
    rw [statementAt_blank hb hn] at h
    exact hblank hb hdrop (not_endsAt_of_getElem? (getElem?_of_drop hdrop) hn) h ih
  | opening rest ho ih => exact hpiece (.opening ho) hdrop h ih
  | closing rest ih => exact hpiece .closing hdrop h ih
  | literal raw rest hraw ih => exact hpiece (.literal hraw) hdrop h ih
  | unclosed rest e he =>
    rw [statementAt_unclosed he] at h
    cases h
  | word w rest hw he ih => exact hpiece (.word hw he) hdrop h ih

/-- **The end of a statement.** A statement ends at the first newline outside parentheses. -/
theorem statementAt_ending {tokens : List Token} {ending : Option (Nat × List Lexeme)}
    (hdrop : cs.drop p = rest)
    (h : statementAt (openBefore cs p).length p rest = .ok (tokens, ending)) :
    EndingFrom cs p ending := by
  refine statement_induction (motive := fun p _ => EndingFrom cs p ending)
    ?finished ?ended ?blank ?piece hdrop h
  case finished =>
    rintro p hp rfl i hi ⟨hn, -⟩
    rw [List.getElem?_eq_none (Nat.le_trans hp hi)] at hn
    cases hn
  case ended =>
    rintro p hends rfl
    exact ⟨p, Nat.le_refl p, hends, by omega, rfl, rfl⟩
  case blank =>
    intro p c tokens _ _ hno ih
    refine ih.of_le (Nat.le_succ p) fun j hj hlt => ?_
    obtain rfl : j = p := by omega
    exact hno
  case piece =>
    intro p rest item depth' p' rest' tokens hdrop hp ih
    obtain ⟨-, -, hle, hno⟩ := hp.in_text hdrop
    exact ih.of_le hle hno

theorem EndsFirst.unique {i j : Nat} (hi : EndsFirst cs i) (hj : EndsFirst cs j) : i = j := by
  rcases Nat.lt_trichotomy i j with hlt | heq | hlt
  · exact absurd (hj.first i hlt hi.ends) hi.after
  · exact heq
  · exact absurd (hi.first j hlt hj.ends) hj.after

theorem not_hasTrailingInput_of_isBlankRun (h : IsBlankRun cs) : ¬ HasTrailingInput cs := by
  rintro ⟨i, hi, -⟩
  exact hi.after fun c hc => h c (List.mem_of_mem_take hc)

/-- The end of the first statement, if a newline ends it, with the lexemes behind it. -/
def FirstEnding (cs : List Char) : Option (Nat × List Lexeme) → Prop
  | none => ∀ i, ¬ EndsFirst cs i
  | some (q, ls) => ∃ i, EndsFirst cs i ∧ q = i + 1 ∧ ls = Lexeme.cut (i + 1) (cs.drop (i + 1))

/-- From the first character that is not blank on, the next end is the first one. -/
theorem EndingFrom.firstEnding {c : Char} {ending : Option (Nat × List Lexeme)}
    (h : EndingFrom cs p ending) (hblank : IsBlankRun (cs.take p)) (hget : cs[p]? = some c)
    (hc : isBlank c = false) : FirstEnding cs ending := by
  have hbefore : ∀ j ≤ p, IsBlankRun (cs.take j) := fun j hj d hd =>
    hblank d ((List.take_prefix_take_left hj).subset hd)
  have hbehind : ∀ i, p < i → ¬ IsBlankRun (cs.take i) := by
    intro i hi hall
    have hmem : c ∈ cs.take i :=
      List.mem_of_getElem? ((List.getElem?_take_of_lt hi).trans hget)
    rw [hall c hmem] at hc
    cases hc
  cases ending with
  | none =>
    intro i hi
    rcases Nat.lt_or_ge i p with hlt | hge
    · exact hi.after (hbefore i (Nat.le_of_lt hlt))
    · exact h i hge hi.ends
  | some found =>
    obtain ⟨i, hpi, hends, hfirst, hq, hls⟩ := h
    have hne : p ≠ i := by
      rintro rfl
      rw [hends.1] at hget
      cases hget
      rw [isBlank_newline] at hc
      cases hc
    refine ⟨i, ⟨hends, hbehind i (Nat.lt_of_le_of_ne hpi hne), fun j hj hendsj => ?_⟩, hq, hls⟩
    rcases Nat.lt_or_ge j p with hlt | hge
    · exact hbefore j (Nat.le_of_lt hlt)
    · exact absurd hendsj (hfirst j hge hj)

theorem drop_length_takeWhile (cs : List Char) :
    cs.drop (cs.takeWhile isBlank).length = cs.dropWhile isBlank := by
  have h : (cs.takeWhile isBlank ++ cs.dropWhile isBlank).drop (cs.takeWhile isBlank).length =
    cs.dropWhile isBlank := List.drop_left
  rwa [List.takeWhile_append_dropWhile] at h

theorem isBlankRun_leading (cs : List Char) :
    IsBlankRun (cs.take (cs.takeWhile isBlank).length) := by
  have h : (cs.takeWhile isBlank ++ cs.dropWhile isBlank).take (cs.takeWhile isBlank).length =
    cs.takeWhile isBlank := List.take_left
  rw [List.takeWhile_append_dropWhile] at h
  rw [h]
  exact isBlankRun_takeWhile cs

/-- What is not blank has a first character that is not. -/
theorem exists_dropWhile_blank (h : ¬ IsBlankRun cs) :
    ∃ c body, cs.dropWhile isBlank = c :: body ∧ isBlank c = false := by
  cases hbody : cs.dropWhile isBlank with
  | nil => exact absurd (List.dropWhile_eq_nil_iff.1 hbody) h
  | cons c body =>
    refine ⟨c, body, rfl, ?_⟩
    have hhead := List.head?_dropWhile_not isBlank cs
    rw [hbody] at hhead
    simpa using hhead

/-- **The first statement of a text** ends at the first newline outside parentheses that comes
after something that is not blank. -/
theorem nextStatement_ending {tokens : List Token} {ending : Option (Nat × List Lexeme)}
    (h : nextStatement (Lexeme.cut 0 cs) = .ok (some (tokens, ending))) :
    FirstEnding cs ending := by
  rw [nextStatement_cut, Nat.zero_add] at h
  split at h
  · cases h
  · rename_i hne
    obtain ⟨c, body, hbody, hc⟩ :=
      exists_dropWhile_blank fun hall => hne (List.dropWhile_eq_nil_iff.2 hall)
    have hdrop := drop_length_takeWhile cs
    rw [hbody] at hdrop h
    have hblank := isBlankRun_leading cs
    have hget := getElem?_of_drop hdrop
    have hopen : openBefore cs (cs.takeWhile isBlank).length = [] :=
      openBefore_of_isBlankRun hblank (Nat.le_of_lt (List.getElem?_eq_some_iff.1 hget).1)
    have hstatement : statementAt (openBefore cs (cs.takeWhile isBlank).length).length
        (cs.takeWhile isBlank).length (c :: body) = .ok (tokens, ending) := by
      rw [hopen, List.length_nil]
      cases hat : statementAt 0 (cs.takeWhile isBlank).length (c :: body) with
      | error q =>
        rw [hat] at h
        cases h
      | ok found =>
        rw [hat] at h
        cases h
        rfl
    exact (statementAt_ending hdrop hstatement).firstEnding hblank hget hc

end Endings

/-! ### The order of errors -/

/-- What parsing a text gives, if the text is not too long. -/
inductive Parsing (text : String) (limits : Limits) : Except ParseError Call → Prop
  /-- A literal region is not closed. -/
  | unclosed {q : Nat} : .unclosed q ∈ Lexeme.cut 0 text.toList →
      Parsing text limits (.error (.pointing text .unclosedLiteral q))
  /-- All regions are closed, and some parenthesis has no partner. -/
  | unbalanced {defect : Defect} {q : Int} : AllClosed (Lexeme.cut 0 text.toList) →
      imbalance [] (tokensFrom 0 text.toList) = some (defect, q) →
      Parsing text limits (.error (.pointing text defect q))
  /-- All parentheses have partners, and something follows the first statement. -/
  | trailing {i : Nat} : AllClosed (Lexeme.cut 0 text.toList) →
      imbalance [] (tokensFrom 0 text.toList) = none →
      EndsFirst text.toList i → ¬ IsBlankRun (text.toList.drop (i + 1)) →
      Parsing text limits (.error (.pointing text .trailingInput
        (i + 1 + ((text.toList.drop (i + 1)).takeWhile isBlank).length : Nat)))
  /-- All parentheses have partners, and the text is one statement at most. -/
  | single : AllClosed (Lexeme.cut 0 text.toList) →
      imbalance [] (tokensFrom 0 text.toList) = none → ¬ HasTrailingInput text.toList →
      Parsing text limits ((buildFrom limits.maxDepth (.fresh [])
        (tokensFrom 0 text.toList)).mapError (located text))

/-- The first lexeme of a text that does not start blank stands at its start. -/
theorem position_of_cut {c : Char} (h : isBlank c = false) (p : Nat) (cs : List Char) :
    ∃ l ls, Lexeme.cut p (c :: cs) = l :: ls ∧ l.position = p := by
  generalize htext : c :: cs = text
  induction text using scan_induction with
  | nil => cases htext
  | newline =>
    cases htext
    rw [isBlank_newline] at h
    cases h
  | blank d ds hb =>
    cases htext
    rw [hb] at h
    cases h
  | opening ds ho => exact ⟨_, _, Lexeme.cut_opening ho p, rfl⟩
  | closing ds => exact ⟨_, _, Lexeme.cut_closing p ds, rfl⟩
  | literal raw ds hraw => exact ⟨_, _, Lexeme.cut_literal hraw p ds, rfl⟩
  | unclosed ds e he => exact ⟨_, _, Lexeme.cut_unclosed he p, rfl⟩
  | word w ds hw he => exact ⟨_, _, Lexeme.cut_word hw he p, rfl⟩

section Order

variable {text : String} {limits : Limits}

/-- A text whose tokens are those of one statement. -/
theorem Parsing.of_tokens (limits : Limits) (hclosed : AllClosed (Lexeme.cut 0 text.toList))
    (htrailing : ¬ HasTrailingInput text.toList) :
    Parsing text limits (build (tokensFrom 0 text.toList) limits.maxDepth text) := by
  rw [build_eq_bind, checkBalance]
  cases hbal : imbalance [] (tokensFrom 0 text.toList) with
  | none => exact .single hclosed hbal htrailing
  | some found => exact .unbalanced hclosed hbal

/-- A blank text. -/
theorem parsing_of_blank (hnext : nextStatement (Lexeme.cut 0 text.toList) = .ok none) :
    Parsing text limits (build [] limits.maxDepth text) := by
  have hskip := nextStatement_none hnext
  have hblank := (Lexeme.dropWhile_newline_cut_eq_nil_iff 0 text.toList).1 hskip
  have hclosed : AllClosed (Lexeme.cut 0 text.toList) := by
    rw [← allClosed_dropWhile_newline, hskip]
    exact nofun
  have htokens : tokensFrom 0 text.toList = [] := by
    rw [tokensFrom, ← flatMap_dropWhile_newline, hskip, List.flatMap_nil]
  have hparsing := Parsing.of_tokens limits hclosed
    (not_hasTrailingInput_of_isBlankRun hblank)
  rwa [htokens] at hparsing

/-- A text whose first statement no newline ends. -/
theorem parsing_of_unended {tokens : List Token}
    (hnext : nextStatement (Lexeme.cut 0 text.toList) = .ok (some (tokens, none))) :
    Parsing text limits (build tokens limits.maxDepth text) := by
  have hending := nextStatement_ending hnext
  obtain ⟨front, hfront, rfl, hskip⟩ := nextStatement_ok hnext
  have hclosed : AllClosed (Lexeme.cut 0 text.toList) := by
    rw [← allClosed_dropWhile_newline, hskip]
    exact hfront
  have htrailing : ¬ HasTrailingInput text.toList := fun ⟨i, hi, _⟩ => hending i hi
  have hparsing := Parsing.of_tokens limits hclosed htrailing
  rw [tokensFrom, ← flatMap_dropWhile_newline, hskip] at hparsing
  exact hparsing

/-- The two parts of a text whose first statement a newline ends. -/
theorem parts_of_ended {tokens : List Token} {q : Nat} {rest : List Lexeme}
    (hnext : nextStatement (Lexeme.cut 0 text.toList) = .ok (some (tokens, some (q, rest)))) :
    tokensFrom 0 text.toList = tokens ++ rest.flatMap Lexeme.tokens ∧
      (AllClosed (Lexeme.cut 0 text.toList) ↔ AllClosed rest) ∧
      ∀ q, .unclosed q ∈ rest → .unclosed q ∈ Lexeme.cut 0 text.toList := by
  obtain ⟨front, hfront, rfl, n, -, hskip⟩ := nextStatement_ok hnext
  have hnewline : ∀ q, Lexeme.newline n ≠ .unclosed q := nofun
  refine ⟨?_, ?_, fun q hq => ?_⟩
  · rw [tokensFrom, ← flatMap_dropWhile_newline, hskip, List.flatMap_append, List.flatMap_cons]
    rfl
  · rw [← allClosed_dropWhile_newline, hskip, allClosed_append, allClosed_cons hnewline]
    exact and_iff_right hfront
  · refine (List.dropWhile_sublist Lexeme.isNewline).subset ?_
    rw [hskip]
    exact List.mem_append_right front (List.mem_cons_of_mem _ hq)

/-- A text whose first statement a newline ends, with only blank characters behind it. -/
theorem parsing_of_ended {tokens : List Token} {q : Nat} {rest : List Lexeme}
    (hnext : nextStatement (Lexeme.cut 0 text.toList) = .ok (some (tokens, some (q, rest))))
    (hextra : rest.dropWhile Lexeme.isNewline = []) :
    Parsing text limits (build tokens limits.maxDepth text) := by
  obtain ⟨i, hfirst, -, rfl⟩ := nextStatement_ending hnext
  obtain ⟨htokens, hclosed, -⟩ := parts_of_ended hnext
  have hblank := (Lexeme.dropWhile_newline_cut_eq_nil_iff _ _).1 hextra
  have htrailing : ¬ HasTrailingInput text.toList := by
    rintro ⟨j, hj, hmore⟩
    rw [hj.unique hfirst] at hmore
    exact hmore hblank
  have hrest : AllClosed (Lexeme.cut (i + 1) (text.toList.drop (i + 1))) := by
    rw [← allClosed_dropWhile_newline, hextra]
    exact nofun
  rw [← flatMap_dropWhile_newline, hextra, List.flatMap_nil, List.append_nil] at htokens
  rw [← htokens]
  exact .of_tokens limits (hclosed.2 hrest) htrailing

/-- The position of the first lexeme behind a statement. -/
theorem position_of_extra {p : Nat} {cs : List Char} {extra : Lexeme} {more : List Lexeme}
    (h : (Lexeme.cut p cs).dropWhile Lexeme.isNewline = extra :: more) :
    ¬ IsBlankRun cs ∧ extra.position = p + (cs.takeWhile isBlank).length := by
  have hblank : ¬ IsBlankRun cs := by
    intro hall
    rw [(Lexeme.dropWhile_newline_cut_eq_nil_iff p cs).2 hall] at h
    cases h
  obtain ⟨c, body, hbody, hc⟩ := exists_dropWhile_blank hblank
  obtain ⟨l, ls, hcut, hposition⟩ := position_of_cut hc (p + (cs.takeWhile isBlank).length) body
  rw [Lexeme.dropWhile_newline_cut, hbody, hcut] at h
  cases h
  exact ⟨hblank, hposition⟩

/-- A text with something behind its first statement. -/
theorem parsing_of_more {tokens : List Token} {q : Nat} {rest more : List Lexeme} {extra : Lexeme}
    (hcheck : checkLength text limits.maxLength = .ok ())
    (hnext : nextStatement (Lexeme.cut 0 text.toList) = .ok (some (tokens, some (q, rest))))
    (hextra : rest.dropWhile Lexeme.isNewline = extra :: more) :
    Parsing text limits (parse text limits) := by
  rw [parse, tokenize, hcheck]
  obtain ⟨i, hfirst, -, rfl⟩ := nextStatement_ending hnext
  obtain ⟨htokens, hclosed, hunclosed⟩ := parts_of_ended hnext
  obtain ⟨hmore, hposition⟩ := position_of_extra hextra
  simp only [hnext, hextra]
  rcases statements_spec (Lexeme.cut (i + 1) (text.toList.drop (i + 1))) with
    ⟨found, p, hstatements, hmem⟩ | ⟨found, hstatements, hrest, hflat⟩
  · rw [hstatements]
    exact .unclosed (hunclosed p hmem)
  · rw [hstatements, hposition]
    dsimp only
    rw [hflat, ← htokens, checkBalance]
    cases hbal : imbalance [] (tokensFrom 0 text.toList) with
    | none => exact .trailing (hclosed.2 hrest) hbal hfirst hmore
    | some found => exact .unbalanced (hclosed.2 hrest) hbal

/-- **The order of errors.** A text that is not too long is refused for an unclosed region, else
for a parenthesis without a partner, else for what follows its first statement, else for what the
builder finds in its tokens. -/
theorem parse_isParsing (hlen : text.length ≤ limits.maxLength) :
    Parsing text limits (parse text limits) := by
  have hcheck : checkLength text limits.maxLength = .ok () :=
    (checkLength_eq_ok_iff text limits.maxLength).2 (Int.ofNat_le.2 hlen)
  rcases hnext : nextStatement (Lexeme.cut 0 text.toList) with q | _ | ⟨tokens, _ | ⟨q, rest⟩⟩
  · rw [parse, tokenize, hcheck, hnext]
    exact .unclosed (nextStatement_error hnext)
  · rw [parse, tokenize, hcheck, hnext]
    exact parsing_of_blank hnext
  · rw [parse, tokenize, hcheck, hnext]
    exact parsing_of_unended hnext
  · cases hextra : rest.dropWhile Lexeme.isNewline with
    | nil =>
      rw [parse, tokenize, hcheck, hnext]
      simp only [hextra]
      exact parsing_of_ended hnext hextra
    | cons extra more => exact parsing_of_more hcheck hnext hextra

/-- No error of parsing is that of a handler. -/
theorem kind_of_parse_ne_handlerFailed {e : ParseError}
    (h : parse text limits = .error e) : e.kind ≠ .handlerFailed := by
  rcases Nat.lt_or_ge limits.maxLength text.length with hlong | hlen
  · obtain ⟨e', he', hdefect⟩ := parse_tooLong hlong
    cases h.symm.trans he'
    rw [ParseError.kind, hdefect]
    nofun
  · have hparsing := parse_isParsing hlen
    rw [h] at hparsing
    generalize hresult : Except.error e = result at hparsing
    cases hparsing with
    | unclosed _ =>
      cases hresult
      nofun
    | @unbalanced defect q _ hbal =>
      cases hresult
      have hkind : (ParseError.pointing text defect q).kind = .unbalancedParentheses :=
        kind_of_imbalance hbal
      rw [hkind]
      nofun
    | trailing _ _ _ _ =>
      cases hresult
      nofun
    | single _ _ _ =>
      cases hbuild : buildFrom limits.maxDepth (.fresh []) (tokensFrom 0 text.toList) with
      | ok call =>
        rw [hbuild] at hresult
        cases hresult
      | error found =>
        rw [hbuild] at hresult
        cases hresult
        intro hkind
        rw [kind_located] at hkind
        rcases kind_of_buildFrom hbuild with h | h | h | h <;>
          · rw [h] at hkind
            cases hkind

/-- Where all regions are closed and the tokens have no unmatched parenthesis, the parentheses of
the text are balanced. -/
theorem balanced_of_imbalance {cs : List Char} (hclosed : AllClosed (Lexeme.cut 0 cs))
    (h : imbalance [] (tokensFrom 0 cs) = none) : Balanced cs := by
  rw [balanced_iff_nesting, ← nesting_tokensFrom hclosed]
  exact nesting_of_imbalance h

end Order

end CommandShell
