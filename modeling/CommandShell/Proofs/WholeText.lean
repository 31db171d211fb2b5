import CommandShell.Proofs.Grammar
import CommandShell.Proofs.OpenParentheses
import CommandShell.Proofs.UnfinishedCall

/-!
# The tokens of whole texts

A text can hold several statements, and each of them is cut into tokens on its own. What is said of
the parentheses of a text is said of all its tokens in a row: they nest as the characters do, and
the one that they leave unmatched has no partner in the text.

* `tokensFrom` — the tokens of a whole text, whatever statements it holds;
* `takeStatement_ok`, `statements_spec` — statements are made of these tokens, none lost;
* `nesting_tokensFrom` — they nest as the characters of the text;
* `unmatched_of_imbalance`, `unmatched_of_unclosed` — an error of balance points at a parenthesis
  of the text that has no partner;
* `Unmatched.not_balanced` — and the text is then not balanced.
-/

namespace CommandShell

/-! ### Statements keep all tokens -/

/-- No literal region of the lexemes is unclosed. -/
def AllClosed (ls : List Lexeme) : Prop := ∀ q, .unclosed q ∉ ls

theorem allClosed_append {ls ms : List Lexeme} :
    AllClosed (ls ++ ms) ↔ AllClosed ls ∧ AllClosed ms := by
  simp only [AllClosed, List.mem_append, not_or, forall_and]

theorem allClosed_cons {l : Lexeme} {ls : List Lexeme} (h : ∀ q, l ≠ .unclosed q) :
    AllClosed (l :: ls) ↔ AllClosed ls := by
  simp only [AllClosed, List.mem_cons, not_or]
  exact ⟨fun hall q => (hall q).2, fun hall q => ⟨fun hq => h q hq.symm, hall q⟩⟩

theorem takeStatement_error {depth q : Nat} {ls : List Lexeme}
    (h : takeStatement depth ls = .error q) : .unclosed q ∈ ls := by
  fun_induction takeStatement depth ls with
  | case1 => cases h
  | case2 =>
    cases h
    exact List.mem_cons_self
  | case3 => cases h
  | case4 _ _ _ _ _ _ hrec ih =>
    cases h
    exact List.mem_cons_of_mem _ (ih hrec)
  | case5 => cases h

/-- What a statement leaves: nothing, or the lexemes behind the newline that ends it. -/
def Leaves (ls : List Lexeme) : Option (Nat × List Lexeme) → List Lexeme → Prop
  | none, front => ls = front
  | some (q, rest), front => ∃ n, q = n + 1 ∧ ls = front ++ .newline n :: rest

/-- A statement has all tokens of the lexemes up to its end. -/
theorem takeStatement_ok {depth : Nat} {ls : List Lexeme} {tokens : List Token}
    {ending : Option (Nat × List Lexeme)} (h : takeStatement depth ls = .ok (tokens, ending)) :
    ∃ front, AllClosed front ∧ tokens = front.flatMap Lexeme.tokens ∧ Leaves ls ending front := by
  fun_induction takeStatement depth ls generalizing tokens with
  | case1 =>
    cases h
    exact ⟨[], fun q => List.not_mem_nil, rfl, rfl⟩
  | case2 => cases h
  | case3 n ls =>
    cases h
    exact ⟨[], fun q => List.not_mem_nil, rfl, n, rfl, rfl⟩
  | case4 => cases h
  | case5 depth l ls hunclosed _ others ending' hrec ih =>
    cases h
    obtain ⟨front, hclosed, rfl, hleaves⟩ := ih hrec
    refine ⟨l :: front, (allClosed_cons ?_).2 hclosed, rfl, ?_⟩
    · exact fun q hq => hunclosed q hq
    · cases ending with
      | none =>
        obtain rfl : ls = front := hleaves
        rfl
      | some found =>
        obtain ⟨n, hn, rfl⟩ := hleaves
        exact ⟨n, hn, rfl⟩

/-- **Statements keep all tokens.** The statements of lexemes hold all their tokens in order,
unless a region is unclosed. -/
theorem statements_spec (ls : List Lexeme) :
    (∃ found q, statements ls = (found, some q) ∧ .unclosed q ∈ ls) ∨
      ∃ found, statements ls = (found, none) ∧ AllClosed ls ∧
        found.flatten = ls.flatMap Lexeme.tokens := by
  have hkeep : ∀ tokens : List Token, ([tokens].filter (· ≠ [])).flatten = tokens := by
    intro tokens
    cases tokens with
    | nil => rfl
    | cons token tokens => simp
  induction hn : ls.length using Nat.strongRecOn generalizing ls with
  | ind n ih =>
    subst hn
    rw [statements_eq]
    cases htake : takeStatement 0 ls with
    | error q => exact .inl ⟨[], q, rfl, takeStatement_error htake⟩
    | ok found =>
      obtain ⟨tokens, ending⟩ := found
      obtain ⟨front, hclosed, rfl, hleaves⟩ := takeStatement_ok htake
      cases ending with
      | none =>
        obtain rfl : ls = front := hleaves
        exact .inr ⟨_, rfl, hclosed, hkeep _⟩
      | some found =>
        obtain ⟨q, rest⟩ := found
        obtain ⟨m, rfl, rfl⟩ := hleaves
        have hshort : rest.length < (front ++ .newline m :: rest).length := by
          rw [List.length_append, List.length_cons]
          omega
        rcases ih rest.length hshort rest rfl with
          ⟨others, q, hothers, hmem⟩ | ⟨others, hothers, hclosed', hflat⟩
        · simp only [hothers]
          refine .inl ⟨_, q, rfl, ?_⟩
          exact List.mem_append_right _ (List.mem_cons_of_mem _ hmem)
        · simp only [hothers]
          refine .inr ⟨_, rfl, ?_, ?_⟩
          · rw [allClosed_append, allClosed_cons]
            · exact ⟨hclosed, hclosed'⟩
            · exact nofun
          · rw [List.flatten_append, hkeep, hflat, List.flatMap_append, List.flatMap_cons]
            rfl

/-- Newlines have no tokens. -/
theorem flatMap_dropWhile_newline (ls : List Lexeme) :
    (ls.dropWhile Lexeme.isNewline).flatMap Lexeme.tokens = ls.flatMap Lexeme.tokens := by
  induction ls with
  | nil => rfl
  | cons l ls ih =>
    cases l with
    | newline q =>
      rw [List.dropWhile_cons_of_pos rfl, ih]
      rfl
    | _ => rw [List.dropWhile_cons_of_neg (by exact Bool.false_ne_true)]

theorem allClosed_dropWhile_newline (ls : List Lexeme) :
    AllClosed (ls.dropWhile Lexeme.isNewline) ↔ AllClosed ls := by
  induction ls with
  | nil => rfl
  | cons l ls ih =>
    cases l with
    | newline q =>
      rw [List.dropWhile_cons_of_pos rfl, ih, allClosed_cons]
      exact nofun
    | _ => rw [List.dropWhile_cons_of_neg (by exact Bool.false_ne_true)]

theorem nextStatement_error {ls : List Lexeme} {q : Nat} (h : nextStatement ls = .error q) :
    .unclosed q ∈ ls := by
  rw [nextStatement] at h
  split at h
  · cases h
  · rename_i l others hskip
    cases htake : takeStatement 0 (l :: others) with
    | error q' =>
      rw [htake] at h
      cases h
      exact (List.dropWhile_sublist _).subset (hskip ▸ takeStatement_error htake)
    | ok found =>
      rw [htake] at h
      cases h

theorem nextStatement_none {ls : List Lexeme} (h : nextStatement ls = .ok none) :
    ls.dropWhile Lexeme.isNewline = [] := by
  rw [nextStatement] at h
  split at h
  · assumption
  · rename_i l others hskip
    cases htake : takeStatement 0 (l :: others) with
    | error q =>
      rw [htake] at h
      cases h
    | ok found =>
      rw [htake] at h
      cases h

/-- The first statement and what it leaves are the lexemes, newlines in front aside. -/
theorem nextStatement_ok {ls : List Lexeme} {tokens : List Token}
    {ending : Option (Nat × List Lexeme)} (h : nextStatement ls = .ok (some (tokens, ending))) :
    ∃ front, AllClosed front ∧ tokens = front.flatMap Lexeme.tokens ∧
      Leaves (ls.dropWhile Lexeme.isNewline) ending front := by
  rw [nextStatement] at h
  split at h
  · cases h
  · rename_i l others hskip
    rw [hskip]
    cases htake : takeStatement 0 (l :: others) with
    | error q =>
      rw [htake] at h
      cases h
    | ok found =>
      rw [htake] at h
      cases h
      exact takeStatement_ok htake

/-! ### The tokens of a whole text -/

/-- The tokens of a text from position `p` on, those of all its statements. -/
def tokensFrom (p : Nat) (cs : List Char) : List Token :=
  (Lexeme.cut p cs).flatMap Lexeme.tokens

section Tokens

variable {cs : List Char} {p : Nat}

@[simp] theorem tokensFrom_nil : tokensFrom p [] = [] := by
  rw [tokensFrom, Lexeme.cut_nil, List.flatMap_nil]

theorem tokensFrom_blank {c : Char} (hb : isBlank c = true) :
    tokensFrom p (c :: cs) = tokensFrom (p + 1) cs := by
  by_cases hn : c = '\n'
  · rw [tokensFrom, hn, Lexeme.cut_newline, List.flatMap_cons]
    rfl
  · rw [tokensFrom, Lexeme.cut_blank hb hn]
    rfl

theorem tokensFrom_piece {depth depth' p' : Nat} {rest : List Char} {item : List Token}
    (h : Piece depth p cs item depth' p' rest) : tokensFrom p cs = item ++ tokensFrom p' rest := by
  cases h with
  | word hw he =>
    rw [tokensFrom, Lexeme.cut_word hw he]
    rfl
  | opening ho =>
    rw [tokensFrom, Lexeme.cut_opening ho]
    rfl
  | closing =>
    rw [tokensFrom, Lexeme.cut_closing]
    rfl
  | literal hraw =>
    rw [tokensFrom, Lexeme.cut_literal hraw, List.flatMap_cons, Lexeme.tokens,
      String.length_ofList]
    rfl

/-- No text has tokens that start with the marker of a literal. -/
theorem tokensFrom_ne_marker (p : Nat) (cs : List Char) (q : Int) (more : List Token) :
    tokensFrom p cs ≠ .marker q :: more := by
  have hpiece : ∀ {p p' depth' : Nat} {cs rest : List Char} {item : List Token},
      Piece 0 p cs item depth' p' rest → tokensFrom p cs ≠ .marker q :: more := by
    intro p p' depth' cs rest item hp
    rw [tokensFrom_piece hp]
    cases hp <;> exact nofun
  induction cs using scan_induction generalizing p with
  | nil =>
    rw [tokensFrom_nil]
    exact nofun
  | newline cs ih =>
    rw [tokensFrom_blank isBlank_newline]
    exact ih (p + 1)
  | blank c cs hb hn ih =>
    rw [tokensFrom_blank hb]
    exact ih (p + 1)
  | opening cs ho => exact hpiece (.opening ho)
  | closing cs => exact hpiece .closing
  | literal raw cs hraw => exact hpiece (.literal hraw)
  | unclosed cs e he =>
    rw [tokensFrom, Lexeme.cut_unclosed he]
    exact nofun
  | word w cs hw he => exact hpiece (.word hw he)

theorem allClosed_blank {c : Char} (hb : isBlank c = true) :
    AllClosed (Lexeme.cut p (c :: cs)) ↔ AllClosed (Lexeme.cut (p + 1) cs) := by
  by_cases hn : c = '\n'
  · rw [hn, Lexeme.cut_newline, allClosed_cons]
    exact nofun
  · rw [Lexeme.cut_blank hb hn]

theorem allClosed_piece {depth depth' p' : Nat} {rest : List Char} {item : List Token}
    (h : Piece depth p cs item depth' p' rest) :
    AllClosed (Lexeme.cut p cs) ↔ AllClosed (Lexeme.cut p' rest) := by
  cases h with
  | word hw he =>
    rw [Lexeme.cut_word hw he, allClosed_cons]
    exact nofun
  | opening ho =>
    rw [Lexeme.cut_opening ho, allClosed_cons]
    exact nofun
  | closing =>
    rw [Lexeme.cut_closing, allClosed_cons]
    exact nofun
  | literal hraw =>
    rw [Lexeme.cut_literal hraw, allClosed_cons]
    exact nofun

theorem not_allClosed_unclosed {e : Nat} (h : nesting charSide 0 cs = some e) :
    ¬ AllClosed (Lexeme.cut p ('(' :: '#' :: cs)) := by
  rw [Lexeme.cut_unclosed h]
  exact fun hall => hall p List.mem_cons_self

end Tokens

/-- **Tokens nest as characters do.** Where every region is closed, the tokens of a text lead from
any depth to the same depth as its characters, or both fail. -/
theorem nesting_tokensFrom {cs : List Char} {p : Nat} (h : AllClosed (Lexeme.cut p cs)) (d : Nat) :
    nesting Token.side d (tokensFrom p cs) = nesting charSide d cs := by
  have hpiece : ∀ {p p' depth' : Nat} {cs rest : List Char} {item : List Token},
      Piece 0 p cs item depth' p' rest →
      (∀ p d, AllClosed (Lexeme.cut p rest) →
        nesting Token.side d (tokensFrom p rest) = nesting charSide d rest) →
      AllClosed (Lexeme.cut p cs) → ∀ d,
        nesting Token.side d (tokensFrom p cs) = nesting charSide d cs := by
    intro p p' depth' cs rest item hp ih h d
    rw [tokensFrom_piece hp, nesting_append, hp.nesting_eq]
    exact congrArg _ (funext fun e => ih p' e ((allClosed_piece hp).1 h))
  induction cs using scan_induction generalizing p d with
  | nil => rw [tokensFrom_nil, nesting_nil, nesting_nil]
  | newline cs ih =>
    rw [tokensFrom_blank isBlank_newline, nesting_neither (by rfl)]
    exact ih ((allClosed_blank isBlank_newline).1 h) d
  | blank c cs hb hn ih =>
    have hside := charSide_of_ne (ne_paren_of_isBlank hb).1 (ne_paren_of_isBlank hb).2
    rw [tokensFrom_blank hb, nesting_neither hside]
    exact ih ((allClosed_blank hb).1 h) d
  | opening cs ho ih => exact hpiece (.opening ho) (fun _ _ h => ih h _) h d
  | closing cs ih => exact hpiece .closing (fun _ _ h => ih h _) h d
  | literal raw cs hraw ih => exact hpiece (.literal hraw) (fun _ _ h => ih h _) h d
  | unclosed cs e he => exact absurd h (not_allClosed_unclosed he)
  | word w cs hw he ih => exact hpiece (.word hw he) (fun _ _ h => ih h _) h d

/-! ### Parentheses without a partner -/

section Partners

variable {cs rest : List Char} {p : Nat}

theorem openBefore_of_length_le (h : cs.length ≤ p) :
    openBefore cs p = openBefore cs cs.length := by
  induction p, h using Nat.le_induction with
  | base => rfl
  | succ p h ih =>
    have hnone (c : Char) : (none : Option Char) ≠ some c := (Option.some_ne_none c).symm
    rw [openBefore, List.getElem?_eq_none h, if_neg (hnone _), if_neg (hnone _), ih]

/-- The characters of a literal region. -/
def region (raw : List Char) : List Char := '(' :: '#' :: (raw ++ [')'])

theorem region_append (raw rest : List Char) :
    region raw ++ rest = '(' :: '#' :: (raw ++ ')' :: rest) := by
  simp [region]

theorem length_region (raw : List Char) : (region raw).length = 2 + raw.length + 1 := by
  simp only [region, List.length_cons, List.length_append, List.length_nil]
  omega

/-- A literal region closes what it opens. -/
theorem nesting_region {raw : List Char} (h : Balanced raw) :
    nesting charSide 0 (region raw) = some 0 := by
  have hinner := nesting_add ((balanced_iff_nesting raw).1 h) 1
  rw [Nat.zero_add] at hinner
  rw [region, nesting_opens charSide_open, nesting_neither (by rfl), nesting_append, hinner]
  rfl

/-- Behind a literal region the text goes on with the same open positions. -/
theorem openBefore_region {raw : List Char} (h : Balanced raw)
    (hdrop : cs.drop p = '(' :: '#' :: (raw ++ ')' :: rest)) :
    cs.drop (p + 2 + raw.length + 1) = rest ∧
      openBefore cs (p + 2 + raw.length + 1) = openBefore cs p := by
  rw [← region_append] at hdrop
  have hlen : p + 2 + raw.length + 1 = p + (region raw).length := by
    rw [length_region]
    omega
  rw [hlen]
  exact ⟨drop_add_of_drop hdrop, openBefore_balanced hdrop (nesting_region h)⟩

/-- **Errors of balance.** The parenthesis that the tokens of a text leave unmatched has no partner
in the text. -/
theorem unmatched_of_imbalance {defect : Defect} {q : Int} (hdrop : cs.drop p = rest)
    (hclosed : AllClosed (Lexeme.cut p rest))
    (h : imbalance ((openBefore cs p).map Int.ofNat) (tokensFrom p rest) = some (defect, q)) :
    ∃ n : Nat, q = n ∧ Unmatched cs n := by
  induction rest using scan_induction generalizing p with
  | nil =>
    rw [tokensFrom_nil, imbalance, List.head?_map, Option.map_map] at h
    obtain ⟨n, hn, hq⟩ := Option.map_eq_some_iff.1 h
    cases hq
    have hmem : n ∈ openBefore cs p := List.mem_of_head? hn
    refine ⟨n, rfl, .inr ⟨(opening_of_mem_openBefore hmem).2, ?_⟩⟩
    rwa [openBefore_of_length_le (List.drop_eq_nil_iff.1 hdrop)] at hmem
  | newline rest ih =>
    rw [tokensFrom_blank isBlank_newline,
      ← openBefore_neither (getElem?_of_drop hdrop) (by rfl)] at h
    exact ih (drop_succ_of_drop hdrop) ((allClosed_blank isBlank_newline).1 hclosed) h
  | blank c rest hb hn ih =>
    have hside := charSide_of_ne (ne_paren_of_isBlank hb).1 (ne_paren_of_isBlank hb).2
    rw [tokensFrom_blank hb, ← openBefore_neither (getElem?_of_drop hdrop) hside] at h
    exact ih (drop_succ_of_drop hdrop) ((allClosed_blank hb).1 hclosed) h
  | opening rest ho ih =>
    have hp : Piece 0 p ('(' :: rest) [.opening p] 1 (p + 1) rest := .opening ho
    rw [tokensFrom_piece hp, List.singleton_append, imbalance] at h
    refine ih (drop_succ_of_drop hdrop) ((allClosed_piece hp).1 hclosed) ?_
    rw [openBefore_opening (getElem?_of_drop hdrop)]
    exact h
  | closing rest ih =>
    have hp : Piece 0 p (')' :: rest) [.closing p] 0 (p + 1) rest := .closing
    have hget := getElem?_of_drop hdrop
    rw [tokensFrom_piece hp, List.singleton_append] at h
    cases hopen : openBefore cs p with
    | nil =>
      rw [hopen, List.map_nil, imbalance] at h
      cases h
      exact ⟨p, rfl, .inl ⟨hget, hopen⟩⟩
    | cons top below =>
      rw [hopen, List.map_cons, imbalance] at h
      refine ih (drop_succ_of_drop hdrop) ((allClosed_piece hp).1 hclosed) ?_
      rw [openBefore_closing hget, hopen]
      exact h
  | literal raw rest hraw ih =>
    have hp := @Piece.literal 0 p raw rest hraw
    obtain ⟨hdrop', hopen⟩ := openBefore_region hraw hdrop
    rw [tokensFrom_piece hp, ← hopen] at h
    exact ih hdrop' ((allClosed_piece hp).1 hclosed) h
  | unclosed rest e he => exact absurd hclosed (not_allClosed_unclosed he)
  | word w rest hw he ih =>
    have hp := @Piece.word 0 p w rest hw he
    have hopen := openBefore_balanced hdrop (nesting_of_neither hw.charSide 0)
    rw [tokensFrom_piece hp, ← hopen] at h
    exact ih (drop_add_of_drop hdrop) ((allClosed_piece hp).1 hclosed) h

/-- An unclosed region starts with a parenthesis that nothing behind it closes. -/
theorem region_of_unclosed {q : Nat} (hdrop : cs.drop p = rest)
    (h : .unclosed q ∈ Lexeme.cut p rest) :
    ∃ after e, cs.drop q = '(' :: '#' :: after ∧ nesting charSide 0 after = some e := by
  induction rest using scan_induction generalizing p with
  | nil =>
    rw [Lexeme.cut_nil] at h
    cases h
  | newline rest ih =>
    rw [Lexeme.cut_newline, List.mem_cons, or_iff_right nofun] at h
    exact ih (drop_succ_of_drop hdrop) h
  | blank c rest hb hn ih =>
    rw [Lexeme.cut_blank hb hn] at h
    exact ih (drop_succ_of_drop hdrop) h
  | opening rest ho ih =>
    rw [Lexeme.cut_opening ho, List.mem_cons, or_iff_right nofun] at h
    exact ih (drop_succ_of_drop hdrop) h
  | closing rest ih =>
    rw [Lexeme.cut_closing, List.mem_cons, or_iff_right nofun] at h
    exact ih (drop_succ_of_drop hdrop) h
  | literal raw rest hraw ih =>
    rw [Lexeme.cut_literal hraw, List.mem_cons, or_iff_right nofun] at h
    exact ih (openBefore_region hraw hdrop).1 h
  | unclosed after e he =>
    rw [Lexeme.cut_unclosed he, List.mem_singleton] at h
    cases h
    exact ⟨after, e, hdrop, he⟩
  | word w rest hw he ih =>
    rw [Lexeme.cut_word hw he, List.mem_cons, or_iff_right nofun] at h
    exact ih (drop_add_of_drop hdrop) h

/-- The parenthesis of an unclosed region has no partner in the text. -/
theorem unmatched_of_unclosed {q : Nat} (h : .unclosed q ∈ Lexeme.cut 0 cs) :
    Unmatched cs q := by
  obtain ⟨after, e, hdrop, hafter⟩ := region_of_unclosed (List.drop_zero (l := cs)) h
  have hget := getElem?_of_drop hdrop
  have hnest : nesting charSide 0 ('#' :: after) = some e := by
    rw [nesting_neither (by rfl), hafter]
  have hend : cs.drop (q + 1) = ('#' :: after) ++ [] := by
    rw [List.append_nil]
    exact drop_succ_of_drop hdrop
  obtain ⟨top, htop, -⟩ := openBefore_add hend hnest
  have hlen : cs.length ≤ q + 1 + ('#' :: after).length :=
    List.drop_eq_nil_iff.1 (drop_add_of_drop hend)
  rw [openBefore_of_length_le hlen, openBefore_opening hget] at htop
  refine .inr ⟨hget, ?_⟩
  rw [htop]
  exact List.mem_append_right top List.mem_cons_self

/-- **Partners and balance.** Where a parenthesis has no partner, the parentheses of the text are
not balanced. -/
theorem Unmatched.not_balanced (h : Unmatched cs p) : ¬ Balanced cs := by
  intro hbal
  have hnest := (balanced_iff_nesting cs).1 hbal
  rcases h with ⟨hclose, hopen⟩ | ⟨-, hmem⟩
  · obtain ⟨hlt, -⟩ := List.getElem?_eq_some_iff.1 hclose
    have hsplit : cs.drop 0 = cs.take p ++ cs.drop p := (List.take_append_drop p cs).symm
    rw [← List.take_append_drop p cs, nesting_append] at hnest
    obtain ⟨e, he, hrest⟩ := Option.bind_eq_some_iff.1 hnest
    obtain ⟨top, htop, hlen⟩ := openBefore_add hsplit he
    rw [List.length_take_of_le (Nat.le_of_lt hlt), Nat.zero_add, hopen] at htop
    obtain ⟨rfl, -⟩ := List.append_eq_nil_iff.1 htop.symm
    -- Nothing is open in front of the parenthesis, so the text closes too much there.
    rw [← hlen, List.drop_eq_getElem_cons hlt, (List.getElem?_eq_some_iff.1 hclose).2,
      List.length_nil, nesting_closes_zero charSide_close] at hrest
    cases hrest
  · have hsplit : cs.drop 0 = cs ++ [] := by rw [List.drop_zero, List.append_nil]
    have hall := openBefore_balanced hsplit hnest
    rw [Nat.zero_add] at hall
    rw [hall] at hmem
    cases hmem

end Partners

end CommandShell
