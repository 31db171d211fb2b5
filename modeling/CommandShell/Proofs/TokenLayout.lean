import CommandShell.Proofs.ErrorOrder
import CommandShell.Proofs.SingleStatement

/-!
# Where tokens stand in a text

The tokens of a text tell where they were cut out. Put back there, they stand one behind the other,
each of them on the characters it was made of, and only blank characters are left between them. A
word ends where no word can go on, unless it is the body of a literal region. The newlines outside
parentheses stand between statements and nowhere inside them.

* `Layout`, `Layout.append` — tokens in a stretch of a text, and in two stretches in a row;
* `Piece.layout` — **the tokens of a piece** stand on its characters;
* `statementAt_layout` — so do those of a statement;
* `Arranged`, `arranged_more` — statements one behind the other, and one more in front;
* `textStatements_arranged` — **the tokens and the statements of a text**.
-/

namespace CommandShell

namespace Token

/-- The position of the first character of a token. -/
def first : Token → Int
  | word _ p | opening p | closing p | marker p => p
  | foreign _ => 0

/-- The position behind the last character of a token. -/
def behind : Token → Int
  | word text p => p + text.length
  | opening p | closing p | marker p => p + 1
  | foreign _ => 0

/-- The characters at the position of a token are those of the token. -/
def StandsIn (cs : List Char) : Token → Prop
  | word text p => (cs.drop p.toNat).take text.length = text.toList
  | opening p => cs[p.toNat]? = some '('
  | closing p => cs[p.toNat]? = some ')'
  | marker p => cs[p.toNat]? = some '#'
  | foreign _ => False

end Token

/-- A word by itself: outside literal regions, and no word character stands right before it or right
behind it. -/
structure FreeWord (cs w : List Char) (q : Nat) : Prop where
  outside : ¬ InLiteral cs q
  word : IsWord w
  left : ∀ c, 0 < q → cs[q - 1]? = some c → isWordChar c = false
  right : EndsWord (cs.drop (q + w.length))

/-- The body of a literal region, with the other tokens of the region around it. -/
structure RegionBody (cs : List Char) (before : List Token) (w : String) (q : Nat)
    (after : List Token) : Prop where
  inside : InLiteral cs q
  balanced : Balanced w.toList
  opened : ∃ p front, q = p + 2 ∧ before = front ++ [.opening p, .marker (p + 1)]
  closed : ∃ later, after = .closing (q + w.length) :: later

/-- Tokens one behind the other in the stretch of a text from `lo` to `hi`. -/
structure Spans (cs : List Char) (lo hi : Nat) (tokens : List Token) : Prop where
  /-- They stand inside it. -/
  inside : ∀ t ∈ tokens, (lo : Int) ≤ t.first ∧ t.first ≤ t.behind ∧ t.behind ≤ hi
  /-- They do not overlap. -/
  ordered : tokens.Pairwise fun a b => a.behind ≤ b.first
  stands : ∀ t ∈ tokens, t.StandsIn cs
  /-- Only blank characters are left out. -/
  blank : ∀ i c, lo ≤ i → i < hi → cs[i]? = some c →
    (∀ t ∈ tokens, ¬ (t.first ≤ i ∧ (i : Int) < t.behind)) → isBlank c = true

/-- Tokens in a stretch of a text, every word of which stands by itself or in a literal region. -/
structure Layout (cs : List Char) (lo hi : Nat) (tokens : List Token) : Prop
    extends Spans cs lo hi tokens where
  words : ∀ before w (q : Nat) after, tokens = before ++ .word w q :: after →
    FreeWord cs w.toList q ∨ RegionBody cs before w q after

section Stretches

variable {cs : List Char} {lo mid hi p : Nat}

/-! ### Stretches of a text -/

theorem Spans.append {l m : List Token} (hl : Spans cs lo mid l) (hm : Spans cs mid hi m)
    (hlo : lo ≤ mid) (hhi : mid ≤ hi) : Spans cs lo hi (l ++ m) where
  inside t ht := by
    rcases List.mem_append.1 ht with ht | ht
    · have := hl.inside t ht
      omega
    · have := hm.inside t ht
      omega
  ordered := by
    refine List.pairwise_append.2 ⟨hl.ordered, hm.ordered, fun a ha b hb => ?_⟩
    have := hl.inside a ha
    have := hm.inside b hb
    omega
  stands t ht := (List.mem_append.1 ht).elim (hl.stands t) (hm.stands t)
  blank i c hli hih hc hout := by
    rcases Nat.lt_or_ge i mid with hlt | hge
    · exact hl.blank i c hli hlt hc fun t ht => hout t (List.mem_append_left m ht)
    · exact hm.blank i c hge hih hc fun t ht => hout t (List.mem_append_right l ht)

/-- A token alone fills its stretch. -/
theorem spans_singleton {t : Token} (hfirst : t.first = lo) (hbehind : t.behind = hi)
    (hle : lo ≤ hi) (hstands : t.StandsIn cs) : Spans cs lo hi [t] where
  inside := by
    rw [List.forall_mem_singleton, hfirst, hbehind]
    omega
  ordered := List.pairwise_singleton _ t
  stands := List.forall_mem_singleton.2 hstands
  blank i c hli hih _ hout := by
    rw [List.forall_mem_singleton, hfirst, hbehind] at hout
    omega

theorem RegionBody.append {before after : List Token} {w : String} {q : Nat}
    (h : RegionBody cs before w q after) (front later : List Token) :
    RegionBody cs (front ++ before) w q (after ++ later) := by
  obtain ⟨hinside, hbalanced, ⟨p, outer, rfl, rfl⟩, others, rfl⟩ := h
  exact ⟨hinside, hbalanced, ⟨p, front ++ outer, rfl, (List.append_assoc _ _ _).symm⟩,
    others ++ later, rfl⟩

/-- **Two stretches in a row.** -/
theorem Layout.append {l m : List Token} (hl : Layout cs lo mid l) (hm : Layout cs mid hi m)
    (hlo : lo ≤ mid) (hhi : mid ≤ hi) : Layout cs lo hi (l ++ m) where
  toSpans := hl.toSpans.append hm.toSpans hlo hhi
  words before w q after hsplit := by
    rcases List.append_eq_append_iff.1 hsplit with ⟨between, rfl, hword⟩ | ⟨between, rfl, hword⟩
    · refine (hm.words between w q after hword).imp_right fun hbody => ?_
      have := hbody.append l []
      rwa [List.append_nil] at this
    · cases between with
      | nil =>
        refine (hm.words [] w q after hword.symm).imp_right fun hbody => ?_
        have := hbody.append before []
        rwa [List.append_nil, List.append_nil] at this
      | cons token others =>
        obtain ⟨rfl, rfl⟩ := List.cons.inj hword
        exact (hl.words before w q others rfl).imp_right fun hbody => hbody.append [] m

/-- A stretch of blank characters has no tokens. -/
theorem layout_blank (h : ∀ i c, lo ≤ i → i < hi → cs[i]? = some c → isBlank c = true) :
    Layout cs lo hi [] where
  inside := List.forall_mem_nil _
  ordered := .nil
  stands := List.forall_mem_nil _
  blank i c hli hih hc _ := h i c hli hih hc
  words before _ _ _ hsplit :=
    absurd hsplit.symm (List.append_ne_nil_of_right_ne_nil before (List.cons_ne_nil _ _))

theorem layout_blank_char {c : Char} (hget : cs[p]? = some c) (hb : isBlank c = true) :
    Layout cs p (p + 1) [] := by
  refine layout_blank fun i d hlo hhi hd => ?_
  obtain rfl : i = p := by omega
  rw [hget] at hd
  cases hd
  exact hb

/-- Tokens without a word. -/
theorem Spans.layout {tokens : List Token} (h : Spans cs lo hi tokens)
    (hno : ∀ w q, .word w q ∉ tokens) : Layout cs lo hi tokens where
  toSpans := h
  words before w q after hsplit := by
    refine absurd ?_ (hno w q)
    rw [hsplit]
    exact List.mem_append_right before List.mem_cons_self

end Stretches

/-! ### Pieces -/

/-- A place at which no word goes on. -/
def WordBoundary (cs : List Char) (p : Nat) : Prop :=
  ∀ c d, 0 < p → cs[p - 1]? = some c → cs[p]? = some d → isWordChar c = true →
    isWordChar d = false

/-- A place of a text at which neither a word nor a literal region goes on. -/
structure Gap (cs : List Char) (p : Nat) : Prop where
  le : p ≤ cs.length
  outside : ¬ InLiteral cs p
  boundary : WordBoundary cs p

section Pieces

variable {cs rest : List Char} {p : Nat}

theorem wordBoundary_succ {c : Char} (h : cs[p]? = some c) (hc : isWordChar c = false) :
    WordBoundary cs (p + 1) := by
  intro c' d _ hc' _ hword
  rw [Nat.add_sub_cancel, h] at hc'
  cases hc'
  rw [hc] at hword
  cases hword

theorem gap_zero : Gap cs 0 where
  le := Nat.zero_le _
  outside := fun ⟨_, hq, _⟩ => nomatch hq
  boundary _ _ h := absurd h (Nat.lt_irrefl 0)

/-- Behind a blank character is a gap, if there is one before it. -/
theorem Gap.succ_of_blank {c : Char} (h : Gap cs p) (hget : cs[p]? = some c)
    (hb : isBlank c = true) : Gap cs (p + 1) where
  le := (List.getElem?_eq_some_iff.1 hget).1
  outside hin := by
    refine h.outside (hin.of_subset fun i hi => ?_)
    rwa [openBefore_neither hget
      (charSide_of_ne (ne_paren_of_isBlank hb).1 (ne_paren_of_isBlank hb).2)] at hi
  boundary := wordBoundary_succ hget (not_isWordChar_of_isBlank hb)

/-- Behind the end of a statement is a gap. -/
theorem EndsAt.gap (h : EndsAt cs p) : openBefore cs (p + 1) = [] ∧ Gap cs (p + 1) := by
  have hopen : openBefore cs (p + 1) = [] := by rw [openBefore_neither h.1 rfl, h.2]
  refine ⟨hopen, (List.getElem?_eq_some_iff.1 h.1).1, ?_, wordBoundary_succ h.1 rfl⟩
  rintro ⟨q, hq, -⟩
  rw [hopen] at hq
  cases hq

/-- A word token fills the stretch of its characters. -/
theorem spans_word {w : List Char} (hdrop : cs.drop p = w ++ rest) :
    Spans cs p (p + w.length) [.word (String.ofList w) p] := by
  refine spans_singleton rfl ?_ (Nat.le_add_right _ _) ?_
  · rw [Token.behind, String.length_ofList]
    rfl
  · show (cs.drop p).take (String.ofList w).length = (String.ofList w).toList
    rw [hdrop, String.length_ofList, List.take_left, String.toList_ofList]

/-- A literal region is four tokens one behind the other. -/
theorem spans_region {raw : List Char} (hdrop : cs.drop p = '(' :: '#' :: (raw ++ ')' :: rest)) :
    Spans cs p (p + 2 + raw.length + 1)
      [.opening p, .marker (p + 1), .word (String.ofList raw) (p + 2),
        .closing (p + 2 + raw.length)] := by
  have hmarker := drop_succ_of_drop hdrop
  have hbody : cs.drop (p + 2) = raw ++ ')' :: rest := drop_succ_of_drop hmarker
  have hclose := drop_add_of_drop hbody
  have hopening : Spans cs p (p + 1) [.opening p] :=
    spans_singleton rfl rfl (Nat.le_succ p) (getElem?_of_drop hdrop)
  have hmark : Spans cs (p + 1) (p + 2) [.marker (p + 1)] :=
    spans_singleton rfl rfl (Nat.le_succ _) (getElem?_of_drop hmarker)
  have hword : Spans cs (p + 2) (p + 2 + raw.length) [.word (String.ofList raw) (p + 2)] :=
    spans_word hbody
  have hclosing : Spans cs (p + 2 + raw.length) (p + 2 + raw.length + 1)
      [.closing (p + 2 + raw.length)] :=
    spans_singleton rfl rfl (Nat.le_succ _) (getElem?_of_drop hclose)
  exact hopening.append (hmark.append (hword.append hclosing (by omega) (by omega))
    (by omega) (by omega)) (by omega) (by omega)

theorem Piece.not_inLiteral {depth depth' p' : Nat} {rest' : List Char} {item : List Token}
    (h : Piece depth p rest item depth' p' rest') (hdrop : cs.drop p = rest)
    (hout : ¬ InLiteral cs p) : ¬ InLiteral cs p' := by
  have hsame {q : Nat} (hopen : openBefore cs q = openBefore cs p) : ¬ InLiteral cs q :=
    fun hin => hout (hin.of_subset fun i hi => hopen ▸ hi)
  cases h with
  | word hw _ => exact hsame (openBefore_balanced hdrop (nesting_of_neither hw.charSide 0))
  | opening ho =>
    have hcall : IsCallOpen cs p := by
      refine ⟨getElem?_of_drop hdrop, fun hmarker => ho ?_, hout⟩
      rw [← drop_succ_of_drop hdrop, List.head?_drop, hmarker]
    exact hcall.not_inLiteral_succ
  | closing =>
    refine fun hin => hout (hin.of_subset fun i hi => ?_)
    rw [openBefore_closing (getElem?_of_drop hdrop)] at hi
    exact List.mem_of_mem_tail hi
  | literal hraw => exact hsame (openBefore_region hraw hdrop).2

theorem Piece.wordBoundary {depth depth' p' : Nat} {rest' : List Char} {item : List Token}
    (h : Piece depth p rest item depth' p' rest') (hdrop : cs.drop p = rest) :
    WordBoundary cs p' := by
  cases h with
  | word _ he =>
    intro _ d _ _ hd _
    refine he d ?_
    rw [← drop_add_of_drop hdrop, List.head?_drop, hd]
  | opening _ => exact wordBoundary_succ (getElem?_of_drop hdrop) rfl
  | closing => exact wordBoundary_succ (getElem?_of_drop hdrop) rfl
  | literal _ =>
    have hbody : cs.drop (p + 2) = _ := drop_succ_of_drop (drop_succ_of_drop hdrop)
    exact wordBoundary_succ (getElem?_of_drop (drop_add_of_drop hbody)) rfl

/-- Behind a piece is a gap, if there is one before it. -/
theorem Piece.gap {depth depth' p' : Nat} {rest' : List Char} {item : List Token}
    (h : Piece depth p rest item depth' p' rest') (hdrop : cs.drop p = rest) (hgap : Gap cs p) :
    Gap cs p' where
  le := by
    have hlength := congrArg List.length hdrop
    rw [List.length_drop] at hlength
    have := h.length_eq
    have := hgap.le
    omega
  outside := h.not_inLiteral hdrop hgap.outside
  boundary := h.wordBoundary hdrop

/-- **The tokens of a piece** stand on its characters. -/
theorem Piece.layout {depth depth' p' : Nat} {rest' : List Char} {item : List Token}
    (h : Piece depth p rest item depth' p' rest') (hdrop : cs.drop p = rest) (hgap : Gap cs p) :
    Layout cs p p' item := by
  cases h with
  | @word w _ hw he =>
    refine ⟨spans_word hdrop, fun before w' q after hsplit => .inl ?_⟩
    have hmem : .word w' q ∈ [Token.word (String.ofList w) p] := by
      rw [hsplit]
      exact List.mem_append_right before List.mem_cons_self
    obtain ⟨rfl, hq⟩ := Token.word.inj (List.mem_singleton.1 hmem)
    obtain rfl := Int.ofNat.inj hq
    rw [String.toList_ofList]
    refine ⟨hgap.outside, hw, fun c hpos hc => ?_, ?_⟩
    · obtain ⟨d, w', rfl, hd⟩ := hw.exists_cons
      by_contra hword
      rw [hgap.boundary c d hpos hc (getElem?_of_drop hdrop) (eq_true_of_ne_false hword)] at hd
      cases hd
    · rw [drop_add_of_drop hdrop]
      exact he
  | opening _ =>
    have hspans : Spans cs p (p + 1) [.opening p] :=
      spans_singleton rfl rfl (Nat.le_succ p) (getElem?_of_drop hdrop)
    exact hspans.layout (by simp)
  | closing =>
    have hspans : Spans cs p (p + 1) [.closing p] :=
      spans_singleton rfl rfl (Nat.le_succ p) (getElem?_of_drop hdrop)
    exact hspans.layout (by simp)
  | @literal raw _ hraw =>
    refine ⟨spans_region hdrop, fun before w q after hsplit => .inr ?_⟩
    -- The only word of the region is its third token.
    rcases before with _ | ⟨first, _ | ⟨second, _ | ⟨third, _ | ⟨fourth, before⟩⟩⟩⟩
    · cases hsplit
    · cases hsplit
    · simp only [List.cons_append, List.nil_append, List.cons.injEq, Token.word.injEq] at hsplit
      obtain ⟨rfl, rfl, ⟨rfl, hq⟩, rfl⟩ := hsplit
      obtain rfl : p + 2 = q := Int.ofNat.inj hq
      refine ⟨inLiteral_of_region hdrop hraw (by omega) (by omega), ?_, ⟨p, [], rfl, rfl⟩, [], ?_⟩
      · rwa [String.toList_ofList]
      · rw [String.length_ofList]
        rfl
    · cases hsplit
    · simp at hsplit

end Pieces

/-! ### Statements -/

/-- Where the characters of a statement end: at the newline that ends it, or with the text. -/
def stretchEnd (cs : List Char) : Option (Nat × List Lexeme) → Nat
  | none => cs.length
  | some (q, _) => q - 1

/-- Statements one behind the other, from `lo` to the end of a text. -/
structure Arranged (cs : List Char) (lo : Nat) (found : List (List Token)) : Prop where
  layout : Layout cs lo cs.length found.flatten
  nonempty : ∀ tokens ∈ found, tokens ≠ []
  /-- A newline outside parentheses stands between two statements. -/
  apart : found.Pairwise fun tokens others => ∃ i : Nat, EndsAt cs i ∧
    (∀ t ∈ tokens, t.behind ≤ (i : Int)) ∧ ∀ t ∈ others, (i : Int) < t.first
  /-- None stands between two tokens of one statement. -/
  together : ∀ tokens ∈ found, ∀ a ∈ tokens, ∀ b ∈ tokens, ∀ i : Nat, EndsAt cs i →
    ¬ (a.behind ≤ i ∧ (i : Int) < b.first)

section Statements

variable {cs : List Char} {p : Nat} {tokens : List Token}

/-- **The tokens of a statement** stand on its characters. -/
theorem statementAt_layout {ending : Option (Nat × List Lexeme)} (hgap : Gap cs p)
    (h : statementAt (openBefore cs p).length p (cs.drop p) = .ok (tokens, ending)) :
    p ≤ stretchEnd cs ending ∧ Layout cs p (stretchEnd cs ending) tokens := by
  revert hgap
  refine statement_induction (motive := fun p tokens => Gap cs p →
    p ≤ stretchEnd cs ending ∧ Layout cs p (stretchEnd cs ending) tokens)
    ?finished ?ended ?blank ?piece rfl h
  case finished =>
    rintro p hp rfl hgap
    refine ⟨hgap.le, layout_blank fun i _ hlo hhi => ?_⟩
    exact absurd hhi (Nat.not_lt.2 (Nat.le_trans hp hlo))
  case ended =>
    rintro p hends rfl -
    refine ⟨Nat.le_refl p, layout_blank fun i _ hlo hhi => ?_⟩
    exact absurd hhi (Nat.not_lt.2 hlo)
  case blank =>
    intro p c tokens hget hb _ ih hgap
    obtain ⟨hle, hlayout⟩ := ih (hgap.succ_of_blank hget hb)
    exact ⟨Nat.le_of_succ_le hle,
      (layout_blank_char hget hb).append hlayout (Nat.le_succ p) hle⟩
  case piece =>
    intro p rest item depth' p' rest' tokens hdrop hp ih hgap
    obtain ⟨-, -, hforward, -⟩ := hp.in_text hdrop
    obtain ⟨hle, hlayout⟩ := ih (hp.gap hdrop hgap)
    exact ⟨Nat.le_trans hforward hle, (hp.layout hdrop hgap).append hlayout hforward hle⟩

/-- Where no statement ends, none does between two tokens. -/
theorem Layout.together {hi : Nat} (h : Layout cs p hi tokens)
    (hno : ∀ i, p ≤ i → i < hi → ¬ EndsAt cs i) {a b : Token} (ha : a ∈ tokens) (hb : b ∈ tokens)
    {i : Nat} (hends : EndsAt cs i) : ¬ (a.behind ≤ i ∧ (i : Int) < b.first) := by
  rintro ⟨hai, hib⟩
  have := h.inside a ha
  have := h.inside b hb
  exact hno i (by omega) (by omega) hends

/-- The last statement, if there is one. -/
theorem arranged_last (h : Layout cs p cs.length tokens) (hno : ∀ i, p ≤ i → ¬ EndsAt cs i) :
    Arranged cs p ([tokens].filter (· ≠ [])) := by
  by_cases hne : tokens = []
  · subst hne
    exact ⟨h, List.forall_mem_nil _, .nil, List.forall_mem_nil _⟩
  · rw [List.filter_cons_of_pos (by simpa using hne), List.filter_nil]
    refine ⟨?_, List.forall_mem_singleton.2 hne, List.pairwise_singleton _ _, ?_⟩
    · rwa [List.flatten_singleton]
    · rw [List.forall_mem_singleton]
      exact fun a ha b hb i => h.together (fun i hpi _ => hno i hpi) ha hb

/-- **One statement more.** A statement, if it is one, and those behind the newline that ends it. -/
theorem arranged_more {i : Nat} {found : List (List Token)} (hle : p ≤ i)
    (h : Layout cs p i tokens) (hends : EndsAt cs i) (hno : ∀ j, p ≤ j → j < i → ¬ EndsAt cs j)
    (hlater : Arranged cs (i + 1) found) :
    Arranged cs p ([tokens].filter (· ≠ []) ++ found) := by
  have hlt : i < cs.length := (List.getElem?_eq_some_iff.1 hends.1).1
  have hnewline : Layout cs i (i + 1) [] := layout_blank_char hends.1 isBlank_newline
  have hall : Layout cs p cs.length (tokens ++ found.flatten) :=
    h.append (hnewline.append hlater.layout (Nat.le_succ i) hlt) hle (Nat.le_of_lt hlt)
  by_cases hne : tokens = []
  · subst hne
    exact ⟨hall, hlater.nonempty, hlater.apart, hlater.together⟩
  · rw [List.filter_cons_of_pos (by simpa using hne), List.filter_nil, List.singleton_append]
    refine ⟨?_, List.forall_mem_cons.2 ⟨hne, hlater.nonempty⟩,
      List.pairwise_cons.2 ⟨fun others hothers => ⟨i, hends, fun t ht => ?_, fun t ht => ?_⟩,
        hlater.apart⟩,
      List.forall_mem_cons.2 ⟨fun a ha b hb j => h.together hno ha hb, hlater.together⟩⟩
    · rwa [List.flatten_cons]
    · exact (h.inside t ht).2.2
    · have := (hlater.layout.inside t (List.mem_flatten_of_mem hothers ht)).1
      omega

/-- **The statements of a text**, from a gap outside parentheses on. -/
theorem statements_arranged {found : List (List Token)} (hgap : Gap cs p)
    (hopen : openBefore cs p = []) (h : statements (Lexeme.cut p (cs.drop p)) = (found, none)) :
    Arranged cs p found := by
  -- The induction is on what is left of the text behind `p`.
  induction hleft : cs.length - p using Nat.strong_induction_on generalizing p found with
  | _ left ih =>
    rw [statements_eq] at h
    rcases htake : takeStatement 0 (Lexeme.cut p (cs.drop p)) with q | ⟨tokens, ending⟩
    · rw [htake] at h
      cases h
    · have hstatement :
          statementAt (openBefore cs p).length p (cs.drop p) = .ok (tokens, ending) := by
        rw [hopen]
        exact htake
      obtain ⟨-, hlayout⟩ := statementAt_layout hgap hstatement
      have hending := statementAt_ending rfl hstatement
      rw [htake] at h
      cases ending with
      | none =>
        cases h
        exact arranged_last hlayout hending
      | some behind =>
        obtain ⟨i, hpi, hends, hno, hq, hls⟩ := hending
        obtain ⟨q, ls⟩ := behind
        subst hq hls
        obtain ⟨hfound, hnone⟩ := Prod.mk.inj h
        obtain ⟨hopen', hgap'⟩ := hends.gap
        have hlt := (List.getElem?_eq_some_iff.1 hends.1).1
        rw [← hfound]
        exact arranged_more hpi hlayout hends hno
          (ih (cs.length - (i + 1)) (by omega) hgap' hopen' (Prod.ext rfl hnone) rfl)

end Statements

/-- **Tokens in their text.** Take any text whose statements are found without an error. Its tokens,
put where they say they are, lie inside the text one behind the other. Each stands on its own
characters, and all that is left out is blank. A word outside literal regions is as long as it can
be. No statement is empty, a newline outside parentheses stands between any two of them, and none
stands inside one. -/
theorem textStatements_arranged (text : String) (maximum : Int) (found : List (List Token))
    (h : textStatements text maximum = (found, none)) : Arranged text.toList 0 found :=
  statements_arranged gap_zero rfl (within_of_found h).2

/-- A call over three lines with a literal over two of them, a blank line, and a parenthesis without
a partner. -/
def scatteredText : String := "note (a\n(#\tb\n(c)))\n\n) d"

/-- Its two statements are arranged. The first of the newlines between them is at position 18, and
those before it are inside parentheses. -/
theorem textStatements_arranged_scattered :
    (textStatements scatteredText 40).1 =
        [[.word "note" 0, .opening 5, .word "a" 6, .opening 8, .marker 9, .word "\tb\n(c)" 10,
          .closing 16, .closing 17], [.closing 20, .word "d" 22]] ∧
      Arranged scatteredText.toList 0 (textStatements scatteredText 40).1 ∧
      EndsAt scatteredText.toList 18 ∧ ∀ i < 18, ¬ EndsAt scatteredText.toList i := by
  have hfound : (textStatements scatteredText 40).1 =
      [[.word "note" 0, .opening 5, .word "a" 6, .opening 8, .marker 9, .word "\tb\n(c)" 10,
        .closing 16, .closing 17], [.closing 20, .word "d" 22]] := by decide +kernel
  have hnone : (textStatements scatteredText 40).2.isNone = true := by decide +kernel
  exact ⟨hfound,
    textStatements_arranged scatteredText 40 _ (Prod.ext rfl (Option.isNone_iff_eq_none.1 hnone)),
    by decide +kernel, by decide +kernel⟩

end CommandShell
