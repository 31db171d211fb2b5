import CommandShell.Proofs.Cut
import Mathlib.Data.List.TakeWhile

/-!
# Statements of a text

Statements are taken from lexemes, and lexemes are cut from a text. `statementAt` is the two steps
in one: the statement that a text holds from a position on, at a given nesting depth. It has one
equation per kind of piece, as `Lexeme.cut` has.

* `statementAt_piece` — a piece that gives tokens puts them in front of what the rest gives;
* `begins_of_statementAt` — conversely, where a statement has a first token, the text has a
  separator and then the piece of that token;
* `end_of_statementAt` — where a statement has no token, only blank characters come before its end;
* `tokenize_eq_ok_iff` — a text of one statement is a statement between blank characters.
-/

namespace CommandShell

/-! ### Putting tokens in front -/

/-- Puts tokens in front of those of a statement. -/
def withTokens {ε β : Type} (tokens : List Token) :
    Except ε (List Token × β) → Except ε (List Token × β) :=
  Except.map fun found => (tokens ++ found.1, found.2)

section WithTokens

variable {ε β : Type}

@[simp] theorem withTokens_error (tokens : List Token) (e : ε) :
    withTokens tokens (.error e : Except ε (List Token × β)) = .error e := rfl

@[simp] theorem withTokens_ok (tokens others : List Token) (rest : β) :
    withTokens tokens (.ok (others, rest) : Except ε (List Token × β)) =
      .ok (tokens ++ others, rest) := rfl

@[simp] theorem withTokens_nil (found : Except ε (List Token × β)) :
    withTokens [] found = found := by
  cases found <;> rfl

theorem withTokens_withTokens (tokens others : List Token) (found : Except ε (List Token × β)) :
    withTokens tokens (withTokens others found) = withTokens (tokens ++ others) found := by
  cases found with
  | error e => rfl
  | ok found => rw [withTokens_ok, withTokens_ok, withTokens_ok, List.append_assoc]

theorem withTokens_eq_ok_iff {tokens all : List Token} {rest : β}
    {found : Except ε (List Token × β)} :
    withTokens tokens found = .ok (all, rest) ↔
      ∃ others, found = .ok (others, rest) ∧ all = tokens ++ others := by
  cases found with
  | error e => simp
  | ok found =>
    rw [withTokens_ok]
    constructor
    · intro h
      cases h
      exact ⟨found.1, rfl, rfl⟩
    · rintro ⟨others, h, rfl⟩
      cases h
      rfl

end WithTokens

/-! ### The statement at a position -/

/-- The statement that a text holds from position `p` on, at nesting depth `depth`: its tokens and,
if a newline ends it, the position behind that newline and the lexemes that follow. -/
def statementAt (depth p : Nat) (cs : List Char) :
    Except Nat (List Token × Option (Nat × List Lexeme)) :=
  takeStatement depth (Lexeme.cut p cs)

/-- A run of blank characters that separates at nesting depth `depth`: a newline does so only
inside parentheses. -/
def IsSeparator (depth : Nat) (sep : List Char) : Prop :=
  IsBlankRun sep ∧ (depth = 0 → '\n' ∉ sep)

theorem isSeparator_nil (depth : Nat) : IsSeparator depth [] :=
  And.intro (fun _ h => nomatch h) (fun _ => List.not_mem_nil)

theorem isSeparator_cons {depth : Nat} {c : Char} {sep : List Char} :
    IsSeparator depth (c :: sep) ↔
      isBlank c = true ∧ (depth = 0 → c ≠ '\n') ∧ IsSeparator depth sep := by
  rw [IsSeparator, IsSeparator, IsBlankRun, IsBlankRun, List.forall_mem_cons]
  constructor
  · rintro ⟨⟨hc, hs⟩, hn⟩
    exact ⟨hc, fun h0 he => hn h0 (he ▸ List.mem_cons_self), hs,
      fun h0 hm => hn h0 (List.mem_cons_of_mem c hm)⟩
  · rintro ⟨hc, hnc, hs, hn⟩
    refine ⟨⟨hc, hs⟩, fun h0 hm => ?_⟩
    rcases List.mem_cons.1 hm with rfl | hm
    · exact hnc h0 rfl
    · exact hn h0 hm

/-- Inside parentheses every run of blank characters separates. -/
theorem IsBlankRun.isSeparator {sep : List Char} (h : IsBlankRun sep) (depth : Nat) :
    IsSeparator (depth + 1) sep :=
  ⟨h, fun h0 => nomatch h0⟩

@[simp] theorem statementAt_nil (depth p : Nat) : statementAt depth p [] = .ok ([], none) := by
  rw [statementAt, Lexeme.cut_nil, takeStatement]

theorem statementAt_newline_zero (p : Nat) (cs : List Char) :
    statementAt 0 p ('\n' :: cs) = .ok ([], some (p + 1, Lexeme.cut (p + 1) cs)) := by
  rw [statementAt, Lexeme.cut_newline, takeStatement]

theorem statementAt_newline_succ (depth p : Nat) (cs : List Char) :
    statementAt (depth + 1) p ('\n' :: cs) = statementAt (depth + 1) (p + 1) cs := by
  simp only [statementAt, Lexeme.cut_newline, takeStatement, Lexeme.depthAfter, Lexeme.tokens]
  cases takeStatement (depth + 1) (Lexeme.cut (p + 1) cs) <;> rfl

theorem statementAt_blank {c : Char} (hb : isBlank c = true) (hn : c ≠ '\n') (depth p : Nat)
    (cs : List Char) : statementAt depth p (c :: cs) = statementAt depth (p + 1) cs := by
  rw [statementAt, Lexeme.cut_blank hb hn]
  rfl

theorem statementAt_unclosed {cs : List Char} {e : Nat} (h : nesting charSide 0 cs = some e)
    (depth p : Nat) : statementAt depth p ('(' :: '#' :: cs) = .error p := by
  rw [statementAt, Lexeme.cut_unclosed h, takeStatement]

/-- Any separator only moves the position. -/
theorem statementAt_separator {depth : Nat} {sep : List Char} (h : IsSeparator depth sep) (p : Nat)
    (cs : List Char) :
    statementAt depth p (sep ++ cs) = statementAt depth (p + sep.length) cs := by
  induction sep generalizing p with
  | nil => rfl
  | cons c sep ih =>
    obtain ⟨hb, hn, hsep⟩ := isSeparator_cons.1 h
    rw [List.cons_append, List.length_cons, ← Nat.add_assoc, Nat.add_right_comm]
    by_cases hc : c = '\n'
    · subst hc
      cases depth with
      | zero => exact absurd rfl (hn rfl)
      | succ depth => rw [statementAt_newline_succ, ih hsep]
    · rw [statementAt_blank hb hc, ih hsep]

/-! ### Pieces -/

/-- `Piece depth p cs item depth' p' rest`: the text `cs` at position `p` begins with a piece that
gives the tokens `item`, behind which `rest` goes on at depth `depth'` and position `p'`. -/
inductive Piece (depth p : Nat) :
    List Char → List Token → (depth' p' : Nat) → List Char → Prop
  | word {w cs : List Char} : IsWord w → EndsWord cs →
      Piece depth p (w ++ cs) [.word (String.ofList w) p] depth (p + w.length) cs
  | opening {cs : List Char} : cs.head? ≠ some '#' →
      Piece depth p ('(' :: cs) [.opening p] (depth + 1) (p + 1) cs
  | closing {cs : List Char} :
      Piece depth p (')' :: cs) [.closing p] (depth - 1) (p + 1) cs
  | literal {raw cs : List Char} : Balanced raw →
      Piece depth p ('(' :: '#' :: (raw ++ ')' :: cs))
        [.opening p, .marker (p + 1), .word (String.ofList raw) (p + 2),
          .closing (p + 2 + raw.length)]
        depth (p + 2 + raw.length + 1) cs

/-- A lexeme that has tokens puts them in front, whatever the depth. -/
theorem takeStatement_cons {l : Lexeme} (h : l.tokens ≠ []) (depth : Nat) (ls : List Lexeme) :
    takeStatement depth (l :: ls) =
      withTokens l.tokens (takeStatement (l.depthAfter depth) ls) := by
  cases l with
  | unclosed q => exact absurd rfl h
  | newline q => exact absurd rfl h
  | _ =>
    simp only [takeStatement]
    cases takeStatement _ ls <;> rfl

/-- A piece puts its tokens in front of what the rest gives. -/
theorem statementAt_piece {depth p depth' p' : Nat} {cs rest : List Char} {item : List Token}
    (h : Piece depth p cs item depth' p' rest) :
    statementAt depth p cs = withTokens item (statementAt depth' p' rest) := by
  cases h with
  | word hw he =>
    rw [statementAt, Lexeme.cut_word hw he, takeStatement_cons]
    · rfl
    · exact List.cons_ne_nil _ _
  | opening ho =>
    rw [statementAt, Lexeme.cut_opening ho, takeStatement_cons]
    · rfl
    · exact List.cons_ne_nil _ _
  | closing =>
    rw [statementAt, Lexeme.cut_closing, takeStatement_cons]
    · rfl
    · exact List.cons_ne_nil _ _
  | literal hraw =>
    rw [statementAt, Lexeme.cut_literal hraw, takeStatement_cons, Lexeme.tokens,
      String.length_ofList]
    · rfl
    · exact List.cons_ne_nil _ _

/-- The text `cs` at position `p` is a separator, a piece and a rest, which together give the
statement of these tokens and this ending. -/
inductive Begins (depth p : Nat) (cs : List Char) (tokens : List Token)
    (ending : Option (Nat × List Lexeme)) : Prop
  | intro {sep body rest : List Char} {item others : List Token} {depth' p' : Nat} :
      cs = sep ++ body → IsSeparator depth sep →
      Piece depth (p + sep.length) body item depth' p' rest → tokens = item ++ others →
      statementAt depth' p' rest = .ok (others, ending) → Begins depth p cs tokens ending

theorem Begins.of_piece {depth p depth' p' : Nat} {cs rest : List Char} {item tokens : List Token}
    {ending : Option (Nat × List Lexeme)} (hp : Piece depth p cs item depth' p' rest)
    (h : statementAt depth p cs = .ok (tokens, ending)) : Begins depth p cs tokens ending := by
  rw [statementAt_piece hp] at h
  obtain ⟨others, hrest, htokens⟩ := withTokens_eq_ok_iff.1 h
  have hp' : Piece depth (p + ([] : List Char).length) cs item depth' p' rest := hp
  exact .intro rfl (isSeparator_nil depth) hp' htokens hrest

theorem Begins.of_blank {depth p : Nat} {c : Char} {cs : List Char} {tokens : List Token}
    {ending : Option (Nat × List Lexeme)} (hb : isBlank c = true) (hn : depth = 0 → c ≠ '\n')
    (h : Begins depth (p + 1) cs tokens ending) : Begins depth p (c :: cs) tokens ending := by
  obtain @⟨sep, body, rest, item, others, depth', p', rfl, hsep, hp, htokens, hrest⟩ := h
  rw [Nat.add_right_comm, Nat.add_assoc, ← List.length_cons (a := c)] at hp
  exact .intro rfl (isSeparator_cons.2 ⟨hb, hn, hsep⟩) hp htokens hrest

/-- **The piece of a first token.** Where a statement has a first token, the text begins with a
separator and the piece that gives the token. -/
theorem begins_of_statementAt {depth p : Nat} {cs : List Char} {token : Token}
    {tokens : List Token} {ending : Option (Nat × List Lexeme)}
    (h : statementAt depth p cs = .ok (token :: tokens, ending)) :
    Begins depth p cs (token :: tokens) ending := by
  induction cs using scan_induction generalizing p with
  | nil => simp at h
  | newline cs ih =>
    cases depth with
    | zero => simp [statementAt_newline_zero] at h
    | succ depth =>
      rw [statementAt_newline_succ] at h
      exact .of_blank isBlank_newline nofun (ih h)
  | blank c cs hb hn ih =>
    rw [statementAt_blank hb hn] at h
    exact .of_blank hb (fun _ => hn) (ih h)
  | opening cs ho => exact .of_piece (.opening ho) h
  | closing cs => exact .of_piece .closing h
  | literal raw cs hraw => exact .of_piece (.literal hraw) h
  | unclosed cs e he => simp [statementAt_unclosed he] at h
  | word w cs hw he => exact .of_piece (.word hw he) h

/-- The tokens of a piece are not empty. -/
theorem Piece.item_ne_nil {depth p depth' p' : Nat} {cs rest : List Char} {item : List Token}
    (h : Piece depth p cs item depth' p' rest) : item ≠ [] := by
  cases h <;> exact List.cons_ne_nil _ _

/-- **The end of a statement.** Where a statement has no token left, the text is blank, or it is
blank up to a newline outside parentheses. -/
theorem end_of_statementAt {depth p : Nat} {cs : List Char} {ending : Option (Nat × List Lexeme)}
    (h : statementAt depth p cs = .ok ([], ending)) :
    (IsSeparator depth cs ∧ ending = none) ∨
      depth = 0 ∧ ∃ sep rest q, IsSeparator 0 sep ∧ cs = sep ++ '\n' :: rest ∧
        ending = some (q, Lexeme.cut q rest) := by
  have hpiece : ∀ {p cs item depth' p' rest}, Piece depth p cs item depth' p' rest →
      statementAt depth p cs ≠ .ok ([], ending) := by
    intro p cs item depth' p' rest hp hs
    rw [statementAt_piece hp] at hs
    obtain ⟨others, -, htokens⟩ := withTokens_eq_ok_iff.1 hs
    exact hp.item_ne_nil (List.append_eq_nil_iff.1 htokens.symm).1
  induction cs using scan_induction generalizing p with
  | nil =>
    left
    rw [statementAt_nil] at h
    cases h
    exact ⟨isSeparator_nil depth, rfl⟩
  | newline cs ih =>
    cases depth with
    | zero =>
      right
      rw [statementAt_newline_zero] at h
      cases h
      exact ⟨rfl, [], cs, p + 1, isSeparator_nil 0, rfl, rfl⟩
    | succ depth =>
      rw [statementAt_newline_succ] at h
      rcases ih h with ⟨hsep, hend⟩ | ⟨h0, -⟩
      · exact .inl ⟨isSeparator_cons.2 ⟨isBlank_newline, nofun, hsep⟩, hend⟩
      · cases h0
  | blank c cs hb hn ih =>
    rw [statementAt_blank hb hn] at h
    rcases ih h with ⟨hsep, hend⟩ | ⟨h0, sep, rest, q, hsep, rfl, hend⟩
    · exact .inl ⟨isSeparator_cons.2 ⟨hb, fun _ => hn, hsep⟩, hend⟩
    · exact .inr ⟨h0, c :: sep, rest, q, isSeparator_cons.2 ⟨hb, fun _ => hn, hsep⟩, rfl, hend⟩
  | opening cs ho => exact absurd h (hpiece (.opening ho))
  | closing cs => exact absurd h (hpiece .closing)
  | literal raw cs hraw => exact absurd h (hpiece (.literal hraw))
  | unclosed cs e he => simp [statementAt_unclosed he] at h
  | word w cs hw he => exact absurd h (hpiece (.word hw he))

/-! ### Blank characters around statements -/

namespace Lexeme

/-- A text that does not start blank starts with a lexeme that is no newline. -/
theorem cut_of_not_blank {c : Char} (h : isBlank c = false) (p : Nat) (cs : List Char) :
    ∃ l ls, cut p (c :: cs) = l :: ls ∧ l.isNewline = false := by
  generalize htext : c :: cs = text
  induction text using scan_induction with
  | nil => cases htext
  | newline =>
    cases htext
    rw [isBlank_newline] at h
    cases h
  | blank d ds hb =>
    cases htext
    rw [hb] at h
    cases h
  | opening ds ho => exact ⟨_, _, cut_opening ho p, rfl⟩
  | closing ds => exact ⟨_, _, cut_closing p ds, rfl⟩
  | literal raw ds hraw => exact ⟨_, _, cut_literal hraw p ds, rfl⟩
  | unclosed ds e he => exact ⟨_, _, cut_unclosed he p, rfl⟩
  | word w ds hw he => exact ⟨_, _, cut_word hw he p, rfl⟩

/-- The newlines in front of the first statement go with the blank characters there. -/
theorem dropWhile_newline_cut (p : Nat) (cs : List Char) :
    (cut p cs).dropWhile isNewline =
      cut (p + (cs.takeWhile isBlank).length) (cs.dropWhile isBlank) := by
  induction cs generalizing p with
  | nil => simp
  | cons c cs ih =>
    by_cases hb : isBlank c = true
    · rw [List.takeWhile_cons_of_pos hb, List.dropWhile_cons_of_pos hb, List.length_cons,
        ← Nat.add_assoc, Nat.add_right_comm, ← ih]
      by_cases hn : c = '\n'
      · rw [hn, cut_newline, List.dropWhile_cons_of_pos rfl]
      · rw [cut_blank hb hn]
    · rw [List.takeWhile_cons_of_neg hb, List.dropWhile_cons_of_neg hb]
      obtain ⟨l, ls, hcut, hl⟩ := cut_of_not_blank (Bool.not_eq_true _ ▸ hb) p cs
      show (cut p (c :: cs)).dropWhile isNewline = cut p (c :: cs)
      rw [hcut, List.dropWhile_cons_of_neg (by rw [hl]; exact Bool.false_ne_true)]

/-- Only a blank text has no statement. -/
theorem dropWhile_newline_cut_eq_nil_iff (p : Nat) (cs : List Char) :
    (cut p cs).dropWhile isNewline = [] ↔ IsBlankRun cs := by
  rw [dropWhile_newline_cut]
  cases hd : cs.dropWhile isBlank with
  | nil =>
    rw [List.dropWhile_eq_nil_iff] at hd
    simp only [cut_nil, true_iff]
    exact hd
  | cons c body =>
    have hc : isBlank c = false := by
      have := List.head?_dropWhile_not isBlank cs
      rw [hd] at this
      simpa using this
    obtain ⟨l, ls, hcut, -⟩ := cut_of_not_blank hc (p + (cs.takeWhile isBlank).length) body
    rw [hcut]
    constructor
    · intro h
      cases h
    · intro h
      have : cs.dropWhile isBlank = [] := List.dropWhile_eq_nil_iff.2 h
      rw [hd] at this
      cases this

end Lexeme

/-! ### Texts of one statement -/

/-- The first statement of a text starts behind the blank characters at its beginning. -/
theorem nextStatement_cut (p : Nat) (cs : List Char) :
    nextStatement (Lexeme.cut p cs) =
      if cs.dropWhile isBlank = [] then .ok none
      else (statementAt 0 (p + (cs.takeWhile isBlank).length) (cs.dropWhile isBlank)).map some := by
  rw [nextStatement]
  by_cases h : cs.dropWhile isBlank = []
  · have hnil := (Lexeme.dropWhile_newline_cut_eq_nil_iff p cs).2 (List.dropWhile_eq_nil_iff.1 h)
    rw [if_pos h, hnil]
  · have hne : (Lexeme.cut p cs).dropWhile Lexeme.isNewline ≠ [] := fun hnil =>
      h (List.dropWhile_eq_nil_iff.2 ((Lexeme.dropWhile_newline_cut_eq_nil_iff p cs).1 hnil))
    rw [if_neg h, statementAt, ← Lexeme.dropWhile_newline_cut]
    cases hd : (Lexeme.cut p cs).dropWhile Lexeme.isNewline with
    | nil => exact absurd hd hne
    | cons l ls => rfl

/-- The ending of a statement behind which a text is blank. -/
def BlankEnding (ending : Option (Nat × List Lexeme)) : Prop :=
  ∀ q ls, ending = some (q, ls) → ls.dropWhile Lexeme.isNewline = []

theorem checkLength_eq_ok_iff (text : String) (maximum : Int) :
    checkLength text maximum = .ok () ↔ (text.length : Int) ≤ maximum := by
  rw [checkLength]
  split
  · rename_i h
    simp only [reduceCtorEq, false_iff]
    omega
  · rename_i h
    simp only [true_iff]
    omega

/-- Something behind the first statement is always an error, whatever it is. -/
theorem tokenize_ne_ok_of_extra {text : String} {maximum : Int} {first tokens : List Token}
    {q : Nat} {rest ls : List Lexeme} {extra : Lexeme}
    (hnext : nextStatement (Lexeme.cut 0 text.toList) = .ok (some (first, some (q, rest))))
    (hextra : rest.dropWhile Lexeme.isNewline = extra :: ls) :
    tokenize text maximum ≠ .ok tokens := by
  intro h
  rw [tokenize] at h
  cases hlen : checkLength text maximum with
  | error e =>
    rw [hlen] at h
    cases h
  | ok _ =>
    rw [hlen] at h
    simp only [hnext, hextra] at h
    rcases hst : statements rest with ⟨others, _ | p⟩
    · simp only [hst] at h
      cases hbal : checkBalance (first ++ others.flatten) text with
      | error e =>
        rw [hbal] at h
        cases h
      | ok _ =>
        rw [hbal] at h
        cases h
    · simp only [hst] at h
      cases h

/-- A text is accepted if it is not too long and its first statement, if it has one, is also its
last. -/
theorem tokenize_eq_ok_iff (text : String) (maximum : Int) (tokens : List Token) :
    tokenize text maximum = .ok tokens ↔
      (text.length : Int) ≤ maximum ∧
        ((nextStatement (Lexeme.cut 0 text.toList) = .ok none ∧ tokens = []) ∨
          ∃ ending, nextStatement (Lexeme.cut 0 text.toList) = .ok (some (tokens, ending)) ∧
            BlankEnding ending) := by
  constructor
  · intro h
    have hlen : (text.length : Int) ≤ maximum := by
      rw [← checkLength_eq_ok_iff]
      cases hc : checkLength text maximum with
      | error e =>
        rw [tokenize, hc] at h
        cases h
      | ok _ => rfl
    refine ⟨hlen, ?_⟩
    rcases hnext : nextStatement (Lexeme.cut 0 text.toList) with
      p | _ | ⟨first, _ | ⟨q, rest⟩⟩
    · rw [tokenize, (checkLength_eq_ok_iff text maximum).2 hlen] at h
      simp only [hnext] at h
      cases h
    · rw [tokenize, (checkLength_eq_ok_iff text maximum).2 hlen] at h
      simp only [hnext] at h
      cases h
      exact .inl ⟨rfl, rfl⟩
    · rw [tokenize, (checkLength_eq_ok_iff text maximum).2 hlen] at h
      simp only [hnext] at h
      cases h
      exact .inr ⟨none, rfl, nofun⟩
    · cases hextra : rest.dropWhile Lexeme.isNewline with
      | nil =>
        rw [tokenize, (checkLength_eq_ok_iff text maximum).2 hlen] at h
        simp only [hnext, hextra] at h
        cases h
        refine .inr ⟨some (q, rest), rfl, fun _ _ he => ?_⟩
        cases he
        exact hextra
      | cons extra ls => exact absurd h (tokenize_ne_ok_of_extra hnext hextra)
  · rintro ⟨hlen, ⟨hnext, rfl⟩ | ⟨ending, hnext, hblank⟩⟩
    · rw [tokenize, (checkLength_eq_ok_iff text maximum).2 hlen]
      simp only [hnext]
      rfl
    · rw [tokenize, (checkLength_eq_ok_iff text maximum).2 hlen]
      cases ending with
      | none =>
        simp only [hnext]
        rfl
      | some found =>
        simp only [hnext, hblank found.1 found.2 rfl]
        rfl

/-- **Texts of one statement.** A text is accepted with tokens if and only if it is not too long
and is a statement of these tokens between blank characters. -/
theorem tokenize_eq_ok_cons_iff (text : String) (maximum : Int) (token : Token)
    (tokens : List Token) :
    tokenize text maximum = .ok (token :: tokens) ↔
      (text.length : Int) ≤ maximum ∧ ∃ ending, BlankEnding ending ∧
        statementAt 0 (text.toList.takeWhile isBlank).length (text.toList.dropWhile isBlank) =
          .ok (token :: tokens, ending) := by
  rw [tokenize_eq_ok_iff, nextStatement_cut, Nat.zero_add]
  refine and_congr_right fun _ => ?_
  generalize hbody : text.toList.dropWhile isBlank = body
  cases body with
  | nil => simp
  | cons c body =>
    simp only [reduceCtorEq, if_false, and_false, false_or]
    refine exists_congr fun ending => ?_
    rw [and_comm]
    refine and_congr_right fun _ => ?_
    cases statementAt 0 (text.toList.takeWhile isBlank).length (c :: body) with
    | error p => simp [Except.map]
    | ok found => simp [Except.map]

end CommandShell
