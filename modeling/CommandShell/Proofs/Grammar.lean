import CommandShell.Proofs.Statement
import CommandShell.Proofs.TokenGrammar
import CommandShell.Tree.Parse

/-!
# The grammar of command lines

A command line is a call between blank characters. A call is a word, its name, and arguments, each
behind a separator; an argument is a word, a call in parentheses with blank characters around it,
or a literal region `(#…)` around any balanced text. `LineText` is this grammar on characters. It
says nothing of tokens, of stacks, or of how a text is read.

Three points of the grammar depend on their surroundings. A separator between two words is not
empty, so words are maximal. A separator outside parentheses has no newline. And a call in
parentheses whose name starts with the marker has a blank character before its name, since `(#`
always begins a literal region.

* `statementAt_argText` — a text of arguments is read into tokens of the same arguments, whatever
  follows it;
* `argText_of_statementAt` — whatever is read into the tokens of arguments begins with a text of
  the same arguments;
* `parse_eq_ok_iff_lineText` — so parsing accepts exactly the lines of the grammar, within the
  limits of length and depth.
-/

namespace CommandShell

/-- The text behind the name of a call, at parenthesis depth `depth`: its arguments, each behind a
separator. `afterWord` tells whether a word stands directly in front of the text. -/
inductive ArgText : (depth : Nat) → (afterWord : Bool) → List Char → List Arg → Prop
  | nil {depth : Nat} {afterWord : Bool} : ArgText depth afterWord [] []
  | word {depth : Nat} {afterWord : Bool} {sep w cs : List Char} {args : List Arg} :
      IsSeparator depth sep → (afterWord = true → sep ≠ []) → IsWord w →
      ArgText depth true cs args →
      ArgText depth afterWord (sep ++ (w ++ cs)) (.literal (String.ofList w) :: args)
  | call {depth : Nat} {afterWord : Bool} {sep before name body after cs : List Char}
      {inside args : List Arg} :
      IsSeparator depth sep → IsBlankRun before → IsWord name →
      (before = [] → name.head? ≠ some '#') →
      ArgText (depth + 1) true body inside → IsBlankRun after →
      ArgText depth false cs args →
      ArgText depth afterWord
        (sep ++ '(' :: (before ++ (name ++ (body ++ (after ++ ')' :: cs)))))
        (.call (String.ofList name) inside :: args)
  | literal {depth : Nat} {afterWord : Bool} {sep raw cs : List Char} {args : List Arg} :
      IsSeparator depth sep → Balanced raw → ArgText depth false cs args →
      ArgText depth afterWord (sep ++ '(' :: '#' :: (raw ++ ')' :: cs))
        (.literal (String.ofList raw) :: args)

/-- A command line: blank characters, the name of the call, its arguments, and blank characters. -/
inductive LineText : List Char → Call → Prop
  | intro {before name cs after : List Char} {args : List Arg} :
      IsBlankRun before → IsWord name → ArgText 0 true cs args → IsBlankRun after →
      LineText (before ++ (name ++ (cs ++ after))) ⟨String.ofList name, args⟩

/-! ### Where words end -/

theorem endsWord_append {cs rest : List Char} (h : EndsWord cs) (hrest : EndsWord rest) :
    EndsWord (cs ++ rest) := by
  cases cs with
  | nil => exact hrest
  | cons c cs => exact endsWord_cons.2 (endsWord_cons.1 h)

theorem IsBlankRun.endsWord {cs : List Char} (h : IsBlankRun cs) : EndsWord cs := by
  cases cs with
  | nil => exact endsWord_nil
  | cons c cs => exact endsWord_cons.2 (not_isWordChar_of_isBlank (h c List.mem_cons_self))

theorem endsWord_open (cs : List Char) : EndsWord ('(' :: cs) := endsWord_cons.2 (by decide)

theorem endsWord_close (cs : List Char) : EndsWord (')' :: cs) := endsWord_cons.2 (by decide)

/-- A word ends where arguments follow it. -/
theorem ArgText.endsWord {depth : Nat} {cs : List Char} {args : List Arg}
    (h : ArgText depth true cs args) : EndsWord cs := by
  cases h with
  | nil => exact endsWord_nil
  | @word _ _ sep w cs args hsep hne hw hargs =>
    cases sep with
    | nil => exact absurd rfl (hne rfl)
    | cons c sep =>
      exact endsWord_cons.2 (not_isWordChar_of_isBlank (hsep.1 c List.mem_cons_self))
  | call hsep => exact endsWord_append hsep.1.endsWord (endsWord_open _)
  | literal hsep => exact endsWord_append hsep.1.endsWord (endsWord_open _)

/-- No marker follows the parenthesis of a call. -/
theorem head?_call {before name : List Char} (hb : IsBlankRun before) (hw : IsWord name)
    (h : before = [] → name.head? ≠ some '#') (rest : List Char) :
    (before ++ (name ++ rest)).head? ≠ some '#' := by
  cases before with
  | nil =>
    obtain ⟨c, w, rfl, -⟩ := hw.exists_cons
    exact h rfl
  | cons c before =>
    intro hc
    have hhash : c = '#' := by simpa using hc
    have hblank := hb c List.mem_cons_self
    rw [hhash, isBlank_hash] at hblank
    cases hblank

/-! ### Texts are read into tokens -/

/-- **Arguments are read into tokens.** What follows the arguments may be anything in front of
which a word ends. -/
theorem statementAt_argText {depth : Nat} {afterWord : Bool} {cs : List Char} {args : List Arg}
    (h : ArgText depth afterWord cs args) (p : Nat) (rest : List Char) (hrest : EndsWord rest) :
    ∃ row q, ArgTokens row args ∧
      statementAt depth p (cs ++ rest) = withTokens row (statementAt depth q rest) := by
  induction h generalizing p rest with
  | nil => exact ⟨[], p, .nil, by rw [List.nil_append, withTokens_nil]⟩
  | @word depth _ sep w cs args hsep _ hw hargs ih =>
    have hpiece : Piece depth (p + sep.length) (w ++ (cs ++ rest)) _ _ _ (cs ++ rest) :=
      .word hw (endsWord_append hargs.endsWord hrest)
    obtain ⟨row, q, hrow, hread⟩ := ih (p + sep.length + w.length) rest hrest
    refine ⟨.word (String.ofList w) (p + sep.length : Nat) :: row, q, .word hrow, ?_⟩
    rw [List.append_assoc, List.append_assoc, statementAt_separator hsep, statementAt_piece hpiece,
      hread, withTokens_withTokens]
    rfl
  | @call depth _ sep before name body after cs inside args hsep hb hw hm hbody ha _ ihBody ih =>
    have hclose : EndsWord (after ++ ')' :: (cs ++ rest)) :=
      endsWord_append ha.endsWord (endsWord_close _)
    have hopening : Piece depth (p + sep.length)
        ('(' :: (before ++ (name ++ (body ++ (after ++ ')' :: (cs ++ rest)))))) _ _ _ _ :=
      .opening (head?_call hb hw hm _)
    have hname : Piece (depth + 1) (p + sep.length + 1 + before.length)
        (name ++ (body ++ (after ++ ')' :: (cs ++ rest)))) _ _ _ _ :=
      .word hw (endsWord_append hbody.endsWord hclose)
    obtain ⟨inner, q, hinner, hreadInner⟩ :=
      ihBody (p + sep.length + 1 + before.length + name.length) _ hclose
    have hclosing : Piece (depth + 1) (q + after.length) (')' :: (cs ++ rest)) _ _ _ _ := .closing
    obtain ⟨row, r, hrow, hread⟩ := ih (q + after.length + 1) rest hrest
    refine ⟨.opening (p + sep.length : Nat) ::
      .word (String.ofList name) (p + sep.length + 1 + before.length : Nat) ::
      (inner ++ .closing (q + after.length : Nat) :: row), r, .call hinner hrow, ?_⟩
    simp only [List.append_assoc, List.cons_append]
    rw [statementAt_separator hsep, statementAt_piece hopening,
      statementAt_separator (hb.isSeparator depth), statementAt_piece hname, hreadInner,
      statementAt_separator (ha.isSeparator depth), statementAt_piece hclosing,
      Nat.add_sub_cancel, hread]
    simp only [withTokens_withTokens]
    rfl
  | @literal depth _ sep raw cs args hsep hraw _ ih =>
    have hpiece : Piece depth (p + sep.length) ('(' :: '#' :: (raw ++ ')' :: (cs ++ rest))) _ _ _
        (cs ++ rest) := .literal hraw
    obtain ⟨row, q, hrow, hread⟩ := ih (p + sep.length + 2 + raw.length + 1) rest hrest
    refine ⟨.opening (p + sep.length : Nat) :: .marker ((p + sep.length : Nat) + 1) ::
      .word (String.ofList raw) ((p + sep.length : Nat) + 2) ::
      .closing ((p + sep.length : Nat) + 2 + raw.length) :: row, q, .literal hrow, ?_⟩
    simp only [List.append_assoc, List.cons_append]
    rw [statementAt_separator hsep, statementAt_piece hpiece, hread, withTokens_withTokens]
    rfl

/-! ### Tokens come from texts -/

/-- The marker of a literal comes only with its parenthesis. -/
theorem statementAt_ne_marker {depth p : Nat} {cs : List Char} {q : Int} {tokens : List Token}
    {ending : Option (Nat × List Lexeme)} :
    statementAt depth p cs ≠ .ok (.marker q :: tokens, ending) := by
  intro h
  obtain ⟨-, -, hpiece, htokens, -⟩ := begins_of_statementAt h
  cases hpiece <;> cases htokens

/-- **Arguments in tokens come from arguments in the text.** What is read into the tokens of a row
of arguments, and perhaps further ones, begins with the text of the arguments. -/
theorem argText_of_statementAt {row : List Token} {args : List Arg} (h : ArgTokens row args)
    {depth p : Nat} {afterWord : Bool} {cs : List Char} {more : List Token}
    {ending : Option (Nat × List Lexeme)} (hend : afterWord = true → EndsWord cs)
    (hread : statementAt depth p cs = .ok (row ++ more, ending)) :
    ∃ front rest q, cs = front ++ rest ∧ ArgText depth afterWord front args ∧
      statementAt depth q rest = .ok (more, ending) := by
  induction h generalizing depth p afterWord cs more with
  | nil => exact ⟨[], cs, p, rfl, .nil, hread⟩
  | word _ ih =>
    obtain @⟨sep, _, _, _, _, _, _, rfl, hsep, hpiece, htokens, hothers⟩ :=
      begins_of_statementAt hread
    cases hpiece with
    | @word w cs hw he =>
      cases htokens
      obtain ⟨front, rest, q, rfl, hargs, hmore⟩ := ih (fun _ => he) hothers
      refine ⟨sep ++ (w ++ front), rest, q, by simp, .word hsep ?_ hw hargs, hmore⟩
      -- Behind a word, an empty separator would let the word go on.
      rintro haw rfl
      obtain ⟨c, w', rfl, hc⟩ := hw.exists_cons
      have hnot := endsWord_cons.1 (hend haw)
      rw [hc] at hnot
      cases hnot
    | _ => cases htokens
  | literal _ ih =>
    obtain @⟨sep, _, _, _, _, _, _, rfl, hsep, hpiece, htokens, hothers⟩ :=
      begins_of_statementAt hread
    cases hpiece with
    | opening =>
      cases htokens
      exact absurd hothers statementAt_ne_marker
    | @literal raw rest hraw =>
      cases htokens
      have hfree : ∀ ds, false = true → EndsWord ds := nofun
      obtain ⟨front, rest, q, rfl, hargs, hmore⟩ := ih (hfree _) hothers
      exact ⟨sep ++ '(' :: '#' :: (raw ++ ')' :: front), rest, q, by simp,
        .literal hsep hraw hargs, hmore⟩
    | _ => cases htokens
  | @call name _ _ _ inner tokens inside args _ _ ihInner ih =>
    obtain @⟨sep, _, _, _, _, _, _, rfl, hsep, hpiece, htokens, hothers⟩ :=
      begins_of_statementAt hread
    cases hpiece with
    | @opening cs ho =>
      cases htokens
      obtain @⟨before, _, _, _, _, _, _, rfl, hbefore, hpiece, htokens, hothers⟩ :=
        begins_of_statementAt hothers
      cases hpiece with
      | @word w cs hw he =>
        cases htokens
        replace hothers := hothers.trans (by rw [List.append_eq, List.append_assoc])
        obtain ⟨body, rest, q, rfl, hbody, hmore⟩ := ihInner (fun _ => he) hothers
        obtain @⟨after, _, _, _, _, _, _, rfl, hafter, hpiece, htokens, hothers⟩ :=
          begins_of_statementAt hmore
        cases hpiece with
        | @closing cs =>
          cases htokens
          have hfree : ∀ ds, false = true → EndsWord ds := nofun
          obtain ⟨front, rest, r, rfl, hargs, hmore⟩ := ih (hfree _) hothers
          refine ⟨sep ++ '(' :: (before ++ (w ++ (body ++ (after ++ ')' :: front)))), rest, r,
            by simp, .call hsep hbefore.1 hw ?_ hbody hafter.1 hargs, hmore⟩
          rintro rfl hmark
          obtain ⟨c, w', rfl, -⟩ := hw.exists_cons
          exact ho hmark
        | _ => cases htokens
      | _ => cases htokens
    | _ => cases htokens

/-! ### Lines -/

/-- Behind the last argument only blank characters are left of a statement. -/
theorem statementAt_blankRun {cs : List Char} (h : IsBlankRun cs) (p : Nat) :
    ∃ ending, statementAt 0 p cs = .ok ([], ending) ∧ BlankEnding ending := by
  induction cs generalizing p with
  | nil => exact ⟨none, statementAt_nil 0 p, nofun⟩
  | cons c cs ih =>
    have hcs : IsBlankRun cs := fun d hd => h d (List.mem_cons_of_mem c hd)
    by_cases hc : c = '\n'
    · subst hc
      refine ⟨_, statementAt_newline_zero p cs, fun q ls he => ?_⟩
      cases he
      exact (Lexeme.dropWhile_newline_cut_eq_nil_iff (p + 1) cs).2 hcs
    · rw [statementAt_blank (h c List.mem_cons_self) hc]
      exact ih hcs (p + 1)

theorem isBlankRun_takeWhile (cs : List Char) : IsBlankRun (cs.takeWhile isBlank) :=
  fun _ hc => List.mem_takeWhile_imp hc

theorem IsBlankRun.append {cs ds : List Char} (hc : IsBlankRun cs) (hd : IsBlankRun ds) :
    IsBlankRun (cs ++ ds) := by
  intro c h
  rcases List.mem_append.1 h with h | h
  · exact hc c h
  · exact hd c h

/-- What is left of a text when its last statement has ended is blank. -/
theorem isBlankRun_of_statementAt {p : Nat} {cs : List Char} {ending : Option (Nat × List Lexeme)}
    (h : statementAt 0 p cs = .ok ([], ending)) (hblank : BlankEnding ending) : IsBlankRun cs := by
  rcases end_of_statementAt h with ⟨hsep, -⟩ | ⟨-, sep, rest, q, hsep, rfl, rfl⟩
  · exact hsep.1
  · have hrest := (Lexeme.dropWhile_newline_cut_eq_nil_iff q rest).1 (hblank q _ rfl)
    refine hsep.1.append fun c hc => ?_
    rcases List.mem_cons.1 hc with rfl | hc
    · exact isBlank_newline
    · exact hrest c hc

/-- **A line is read into the tokens of its call.** -/
theorem tokenize_lineText {text : String} {call : Call} (h : LineText text.toList call)
    {maximum : Int} (hlen : (text.length : Int) ≤ maximum) :
    ∃ tokens, tokenize text maximum = .ok tokens ∧ CallTokens tokens call := by
  generalize htext : text.toList = chars at h
  obtain @⟨before, name, cs, after, args, hb, hw, hargs, ha⟩ := h
  obtain ⟨c, w, rfl, hc⟩ := hw.exists_cons
  have hnb : ¬ isBlank c = true := by simp [((isWordChar_iff c).1 hc).1]
  have hlead : text.toList.takeWhile isBlank = before := by
    rw [htext, List.takeWhile_append_of_pos hb, List.cons_append,
      List.takeWhile_cons_of_neg hnb, List.append_nil]
  have hbody : text.toList.dropWhile isBlank = (c :: w) ++ (cs ++ after) := by
    rw [htext, List.dropWhile_append_of_pos hb, List.cons_append,
      List.dropWhile_cons_of_neg hnb]
  have hpiece : Piece 0 before.length ((c :: w) ++ (cs ++ after)) _ _ _ _ :=
    .word hw (endsWord_append hargs.endsWord ha.endsWord)
  obtain ⟨row, q, hrow, hread⟩ :=
    statementAt_argText hargs (before.length + (c :: w).length) after ha.endsWord
  obtain ⟨ending, hend, hblank⟩ := statementAt_blankRun ha q
  refine ⟨.word (String.ofList (c :: w)) before.length :: row, ?_, before.length, row, rfl, hrow⟩
  rw [tokenize_eq_ok_cons_iff]
  refine ⟨hlen, ending, hblank, ?_⟩
  rw [hlead, hbody, statementAt_piece hpiece, hread, hend]
  simp

/-- **The tokens of a call come from a line.** -/
theorem lineText_of_tokenize {text : String} {maximum : Int} {tokens : List Token} {call : Call}
    (h : tokenize text maximum = .ok tokens) (hcall : CallTokens tokens call) :
    LineText text.toList call := by
  obtain ⟨name, args⟩ := call
  obtain ⟨p, row, rfl, hrow⟩ := hcall
  obtain ⟨-, ending, hblank, hread⟩ := (tokenize_eq_ok_cons_iff text maximum _ _).1 h
  obtain @⟨sep, _, _, _, _, _, _, hbody, hsep, hpiece, htokens, hothers⟩ :=
    begins_of_statementAt hread
  cases hpiece with
  | @word w cs hw he =>
    obtain ⟨hname, rfl⟩ := List.cons.inj htokens
    obtain ⟨rfl, -⟩ := Token.word.inj hname
    rw [← List.append_nil row] at hothers
    obtain ⟨front, rest, q, rfl, hargs, hmore⟩ := argText_of_statementAt hrow (fun _ => he) hothers
    have hline := LineText.intro ((isBlankRun_takeWhile text.toList).append hsep.1) hw hargs
      (isBlankRun_of_statementAt hmore hblank)
    rwa [List.append_assoc, ← hbody, List.takeWhile_append_dropWhile] at hline
  | _ => cases htokens

/-! ### Parsing -/

theorem parse_of_tokenize {text : String} {limits : Limits} {tokens : List Token}
    (h : tokenize text limits.maxLength = .ok tokens) :
    parse text limits = build tokens limits.maxDepth text := by
  rw [parse, h]
  rfl

/-- A line within the limits is parsed to its call. -/
theorem parse_lineText {text : String} {limits : Limits} {call : Call}
    (h : LineText text.toList call) (hlen : text.length ≤ limits.maxLength)
    (hdepth : call.depth ≤ limits.maxDepth) : parse text limits = .ok call := by
  obtain ⟨tokens, htokens, hcall⟩ := tokenize_lineText h (Int.ofNat_le.2 hlen)
  rw [parse_of_tokenize htokens]
  exact build_callTokens hcall text (Int.ofNat_le.2 hdepth)

/-- A line whose call is too deep is refused for its depth, and for nothing else. -/
theorem parse_lineText_deep {text : String} {limits : Limits} {call : Call}
    (h : LineText text.toList call) (hlen : text.length ≤ limits.maxLength)
    (hdeep : limits.maxDepth < call.depth) :
    ∃ p, parse text limits =
      .error (.pointing text (.tooDeep (limits.maxDepth + 1) limits.maxDepth) p) := by
  obtain ⟨tokens, htokens, hcall⟩ := tokenize_lineText h (Int.ofNat_le.2 hlen)
  rw [parse_of_tokenize htokens]
  exact build_callTokens_deep hcall (Int.natCast_nonneg _) text (Int.ofNat_lt.2 hdeep)

/-- A text that is too long is refused before anything of it is read. -/
theorem parse_tooLong {text : String} {limits : Limits} (h : limits.maxLength < text.length) :
    ∃ e, parse text limits = .error e ∧ e.defect = .tooLong text.length limits.maxLength := by
  have hlt : (limits.maxLength : Int) < text.length := Int.ofNat_lt.2 h
  rw [parse, tokenize, checkLength, if_pos hlt]
  exact ⟨_, rfl, rfl⟩

/-- Whatever is parsed is a line of its call, within the limits. -/
theorem lineText_of_parse {text : String} {limits : Limits} {call : Call}
    (h : parse text limits = .ok call) :
    text.length ≤ limits.maxLength ∧ call.depth ≤ limits.maxDepth ∧
      LineText text.toList call := by
  cases htokens : tokenize text limits.maxLength with
  | error e =>
    rw [parse, htokens] at h
    cases h
  | ok tokens =>
    rw [parse_of_tokenize htokens] at h
    obtain ⟨hdepth, hcall⟩ :=
      (build_eq_ok_iff tokens (Int.natCast_nonneg limits.maxDepth) text call).1 h
    have hlen := ((tokenize_eq_ok_iff text limits.maxLength tokens).1 htokens).1
    exact ⟨Int.ofNat_le.1 hlen, Int.ofNat_le.1 hdepth, lineText_of_tokenize htokens hcall⟩

/-- **Parsing accepts exactly the grammar**, within the limits of length and depth. -/
theorem parse_eq_ok_iff_lineText (text : String) (limits : Limits) (call : Call) :
    parse text limits = .ok call ↔
      text.length ≤ limits.maxLength ∧ call.depth ≤ limits.maxDepth ∧
        LineText text.toList call := by
  constructor
  · exact lineText_of_parse
  · rintro ⟨hlen, hdepth, hline⟩
    exact parse_lineText hline hlen hdepth

end CommandShell
