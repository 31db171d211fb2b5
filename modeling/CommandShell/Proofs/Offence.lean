import CommandShell.Proofs.ErrorOrder

/-!
# Where the builder stops in a text

The builder sees tokens; what it objects to can be seen in the text itself: a parenthesis that
opens where a name is due, a parenthesis that closes a call without a name, and a call that opens
where as many calls are open as the limit allows. `Stands` ties a scope of the builder to a
position of a text with balanced parentheses, and each piece of the text leads from one such
position to the next, or is the first place with something to object to.

* `Stands.blank`, `Stands.word`, `Stands.opening`, `Stands.closing`, `Stands.literal` — one step
  for each piece;
* `proceeds` — the builder, from any such position on;
* `verdict_of_balanced` — **the builder stops at the first objectionable parenthesis of a text, or
  builds a call**.
-/

namespace CommandShell

/-- The builder stops at this place of a text. -/
def Objection (max : Nat) (cs : List Char) (p : Nat) : Prop :=
  OpensForName cs p ∨ ClosesUnnamed cs p ∨ OpensTooDeep max cs p

section Stops

variable {max : Nat} {cs : List Char} {p : Nat}

/-- The builder stops only at parentheses outside literal regions. -/
theorem Objection.paren (h : Objection max cs p) :
    (cs[p]? = some '(' ∨ cs[p]? = some ')') ∧ ¬ InLiteral cs p := by
  have hle : ∀ {c : Char}, cs[p]? = some c → p ≤ cs.length := fun h =>
    Nat.le_of_lt (List.getElem?_eq_some_iff.1 h).1
  rcases h with ⟨hopen, hdue⟩ | ⟨hclose, q, hfollows⟩ | ⟨hcall, -⟩
  · exact ⟨.inl hopen, hdue.not_inLiteral (hle hopen)⟩
  · exact ⟨.inr hclose, NameDueAt.not_inLiteral (.inr ⟨q, hfollows⟩) (hle hclose)⟩
  · exact ⟨.inl hcall.opens, hcall.outside⟩

theorem not_objection_of_neither {c : Char} (h : cs[p]? = some c) (hs : charSide c = .neither) :
    ¬ Objection max cs p := by
  intro hobjection
  rcases hobjection.paren.1 with hp | hp
  · rw [h] at hp
    cases hp
    cases hs
  · rw [h] at hp
    cases hp
    cases hs

/-- An opening parenthesis is no place to stop if a name is not due and there is room. -/
theorem not_objection_of_opening (h : cs[p]? = some '(') (hdue : ¬ NameDueAt cs p)
    (hroom : IsCallOpen cs p → (openBefore cs p).length < max) : ¬ Objection max cs p := by
  rintro (⟨-, hname⟩ | ⟨hclose, -⟩ | hdeep)
  · exact hdue hname
  · rw [h] at hclose
    cases hclose
  · obtain ⟨hcall, hmax⟩ := opensTooDeep_iff.1 hdeep
    exact Nat.not_lt.2 hmax (hroom hcall)

theorem not_objection_of_closing (h : cs[p]? = some ')') (hdue : ¬ NameDueAt cs p) :
    ¬ Objection max cs p := by
  rintro (⟨hopen, -⟩ | ⟨-, q, hfollows⟩ | ⟨hcall, -⟩)
  · rw [h] at hopen
    cases hopen
  · exact hdue (.inr ⟨q, hfollows⟩)
  · have hopen := hcall.opens
    rw [h] at hopen
    cases hopen

end Stops

/-! ### A scope of the builder in a text -/

/-- The name of the innermost call is due. -/
def Scope.IsFresh : Scope → Prop
  | .fresh _ => True
  | .named _ _ => False

/-- The builder is in a scope at a position of a text: as many parentheses are open as the scope
has calls around it, within the limit, and the rest of the text closes them. -/
structure Stands (max : Nat) (cs : List Char) (p : Nat) (scope : Scope) : Prop where
  bound : p ≤ cs.length
  outside : ¬ InLiteral cs p
  level : (openBefore cs p).length = scope.level
  due : scope.IsFresh ↔ NameDueAt cs p
  within : scope.level ≤ max
  closes : nesting charSide scope.level (cs.drop p) = some 0

section Steps

variable {max : Nat} {cs rest : List Char} {p : Nat} {outer : List Frame} {frame : Frame}

theorem NameDueAt.succ_of_blank {c : Char} (h : cs[p]? = some c) (hb : isBlank c = true) :
    NameDueAt cs (p + 1) ↔ NameDueAt cs p := by
  rw [nameDueAt_succ h]
  constructor
  · rintro (hcall | hdue)
    · have hopen := hcall.opens
      rw [h] at hopen
      cases hopen
      rw [isBlank_open] at hb
      cases hb
    · exact hdue.1
  · exact fun hdue => .inr ⟨hdue, hb⟩

/-- Behind a character that is neither blank nor the parenthesis of a call, no name is due. -/
theorem not_nameDueAt_succ {c : Char} (h : cs[p]? = some c) (hb : isBlank c = false)
    (ho : c ≠ '(') : ¬ NameDueAt cs (p + 1) := by
  rw [nameDueAt_succ h]
  rintro (hcall | ⟨-, hblank⟩)
  · have hopen := hcall.opens
    rw [h] at hopen
    cases hopen
    exact ho rfl
  · rw [hb] at hblank
    cases hblank

/-- Behind a piece the text is not exceeded. -/
theorem add_length_le (hp : p ≤ cs.length) {s : List Char} (h : cs.drop p = s ++ rest) :
    p + s.length ≤ cs.length := by
  have hlen := congrArg List.length h
  rw [List.length_drop, List.length_append] at hlen
  omega

theorem Stands.blank {scope : Scope} (h : Stands max cs p scope) {c : Char}
    (hdrop : cs.drop p = c :: rest) (hb : isBlank c = true) : Stands max cs (p + 1) scope := by
  have hget := getElem?_of_drop hdrop
  have hside := charSide_of_ne (ne_paren_of_isBlank hb).1 (ne_paren_of_isBlank hb).2
  have hopen := openBefore_neither hget hside
  refine ⟨add_length_le (s := [c]) h.bound hdrop,
    fun hin => h.outside (hin.of_subset fun i hi => hopen ▸ hi), ?_, ?_, h.within, ?_⟩
  · rw [hopen, h.level]
  · rw [h.due, NameDueAt.succ_of_blank hget hb]
  · have hcloses := h.closes
    rwa [hdrop, nesting_neither hside, ← drop_succ_of_drop hdrop] at hcloses

/-- A piece that closes what it opens leads to a scope with a name, if its last character is not
blank and opens nothing. -/
theorem Stands.piece {scope : Scope} (h : Stands max cs p scope)
    (hlevel : scope.level = outer.length) {s : List Char} {c : Char}
    (hdrop : cs.drop p = (s ++ [c]) ++ rest) (hs : nesting charSide 0 (s ++ [c]) = some 0)
    (hb : isBlank c = false) (ho : c ≠ '(') :
    Stands max cs (p + (s ++ [c]).length) (.named frame outer) := by
  have hopen := openBefore_balanced hdrop hs
  have hlast : cs[p + s.length]? = some c := by
    rw [List.append_assoc] at hdrop
    exact getElem?_of_drop (drop_add_of_drop hdrop)
  refine ⟨add_length_le h.bound hdrop,
    fun hin => h.outside (hin.of_subset fun i hi => hopen ▸ hi), ?_, ?_, ?_, ?_⟩
  · rw [hopen, h.level, hlevel]
    rfl
  · rw [List.length_append, List.length_singleton, ← Nat.add_assoc]
    exact iff_of_false id (not_nameDueAt_succ hlast hb ho)
  · show outer.length ≤ max
    rw [← hlevel]
    exact h.within
  · have hcloses := h.closes
    have hkeep := nesting_add hs scope.level
    rw [Nat.zero_add] at hkeep
    rw [hdrop, nesting_append, hkeep] at hcloses
    rw [drop_add_of_drop hdrop]
    show nesting charSide outer.length rest = some 0
    rw [← hlevel]
    exact hcloses

theorem Stands.word {scope : Scope} (h : Stands max cs p scope)
    (hlevel : scope.level = outer.length) {w : List Char} (hw : IsWord w)
    (hdrop : cs.drop p = w ++ rest) : Stands max cs (p + w.length) (.named frame outer) := by
  obtain ⟨s, c, rfl⟩ : ∃ s c, w = s ++ [c] :=
    ⟨w.dropLast, w.getLast hw.nonempty, (List.dropLast_append_getLast hw.nonempty).symm⟩
  obtain ⟨hb, ho, -⟩ := (isWordChar_iff c).1 (hw.chars c (by simp))
  exact h.piece hlevel hdrop (nesting_of_neither hw.charSide 0) hb ho

theorem Stands.literal (h : Stands max cs p (.named frame outer)) {raw : List Char}
    (hraw : Balanced raw) (hdrop : cs.drop p = '(' :: '#' :: (raw ++ ')' :: rest))
    {frame' : Frame} : Stands max cs (p + 2 + raw.length + 1) (.named frame' outer) := by
  have hsplit : region raw = ('(' :: '#' :: raw) ++ [')'] := rfl
  have hlen : p + 2 + raw.length + 1 = p + (region raw).length := by
    rw [length_region]
    omega
  rw [← region_append, hsplit] at hdrop
  rw [hlen, hsplit]
  exact h.piece rfl hdrop (nesting_region hraw) isBlank_close (by decide)

/-- A call that there is room for is opened. -/
theorem Stands.opening (h : Stands max cs p (.named frame outer)) (hcall : IsCallOpen cs p)
    (hdrop : cs.drop p = '(' :: rest) (hroom : outer.length < max) :
    Stands max cs (p + 1) (.fresh (frame :: outer)) := by
  refine ⟨add_length_le (s := ['(']) h.bound hdrop, hcall.not_inLiteral_succ, ?_, ?_, hroom, ?_⟩
  · rw [openBefore_opening hcall.opens, List.length_cons, h.level]
    rfl
  · rw [nameDueAt_succ hcall.opens]
    exact iff_of_true trivial (.inl hcall)
  · have hcloses := h.closes
    rw [hdrop, nesting_opens charSide_open] at hcloses
    rw [drop_succ_of_drop hdrop]
    exact hcloses

/-- A call that has a name is closed. -/
theorem Stands.closing {parent : Frame} (h : Stands max cs p (.named frame (parent :: outer)))
    (hdrop : cs.drop p = ')' :: rest) {frame' : Frame} :
    Stands max cs (p + 1) (.named frame' outer) := by
  have hget := getElem?_of_drop hdrop
  have hopen := openBefore_closing hget
  refine ⟨add_length_le (s := [')']) h.bound hdrop,
    fun hin => h.outside (hin.of_subset fun i hi => ?_), ?_, ?_, ?_, ?_⟩
  · rw [hopen] at hi
    exact List.mem_of_mem_tail hi
  · rw [hopen, List.length_tail, h.level]
    rfl
  · exact iff_of_false id (not_nameDueAt_succ hget isBlank_close (by decide))
  · exact Nat.le_of_succ_le h.within
  · have hcloses := h.closes
    rw [hdrop, Scope.level, List.length_cons, nesting_closes_succ charSide_close] at hcloses
    rw [drop_succ_of_drop hdrop]
    exact hcloses

end Steps

/-! ### The verdict -/

/-- What the builder says of a text from position `p` on. -/
inductive Verdict (max : Nat) (cs : List Char) (p : Nat) : Except Located Call → Prop
  | built {call : Call} : ¬ IsBlankRun cs → (∀ q, p ≤ q → ¬ Objection max cs q) →
      Verdict max cs p (.ok call)
  | nothing : IsBlankRun cs → Verdict max cs p (.error (.nothing, some 0))
  | openForName {q : Nat} : p ≤ q → (∀ x, p ≤ x → x < q → ¬ Objection max cs x) →
      OpensForName cs q → Verdict max cs p (.error (.openForName, some q))
  | emptyScope {q : Nat} : p ≤ q → (∀ x, p ≤ x → x < q → ¬ Objection max cs x) →
      ClosesUnnamed cs q → Verdict max cs p (.error (.emptyScope, some q))
  | tooDeep {q : Nat} : p ≤ q → (∀ x, p ≤ x → x < q → ¬ Objection max cs x) →
      IsCallOpen cs q → (openBefore cs q).length = max → ¬ NameDueAt cs q →
      Verdict max cs p (.error (.tooDeep (max + 1) max, some q))

/-- A verdict holds from any earlier position on, if there is no place to stop in between. -/
theorem Verdict.of_le {max : Nat} {cs : List Char} {p p' : Nat} {result : Except Located Call}
    (h : Verdict max cs p' result) (hle : p ≤ p')
    (hno : ∀ x, p ≤ x → x < p' → ¬ Objection max cs x) : Verdict max cs p result := by
  have hjoin : ∀ {q : Nat}, (∀ x, p' ≤ x → x < q → ¬ Objection max cs x) →
      ∀ x, p ≤ x → x < q → ¬ Objection max cs x := by
    intro q hq x hx hlt
    rcases Nat.lt_or_ge x p' with hbefore | hbehind
    · exact hno x hx hbefore
    · exact hq x hbehind hlt
  cases h with
  | built hblank hall =>
    refine .built hblank fun x hx => ?_
    rcases Nat.lt_or_ge x p' with hbefore | hbehind
    · exact hno x hx hbefore
    · exact hall x hbehind
  | nothing hblank => exact .nothing hblank
  | openForName hq hfirst hopen => exact .openForName (Nat.le_trans hle hq) (hjoin hfirst) hopen
  | emptyScope hq hfirst hclose => exact .emptyScope (Nat.le_trans hle hq) (hjoin hfirst) hclose
  | tooDeep hq hfirst hcall hlen hdue =>
    exact .tooDeep (Nat.le_trans hle hq) (hjoin hfirst) hcall hlen hdue

section Run

variable {max : Nat} {cs rest : List Char} {p : Nat}

/-- One character at which the builder does not stop. -/
theorem Verdict.of_succ {result : Except Located Call} (h : Verdict max cs (p + 1) result)
    (hno : ¬ Objection max cs p) : Verdict max cs p result := by
  refine h.of_le (Nat.le_succ p) fun x hx hlt => ?_
  obtain rfl : x = p := by omega
  exact hno

/-- Where a name is due and a parenthesis is open, the call of that parenthesis has no name. -/
theorem NameDueAt.exists_followsCall (h : NameDueAt cs p) (hp : p ≤ cs.length)
    (hopen : openBefore cs p ≠ []) : ∃ q, FollowsCall cs q p := by
  rcases h with hblank | hfollows
  · exact absurd (openBefore_of_isBlankRun hblank hp) hopen
  · exact hfollows

/-- Wherever the builder stands in front of the characters `rest`, it goes on to its verdict. -/
def Proceeds (max : Nat) (cs rest : List Char) : Prop :=
  ∀ p scope, Stands max cs p scope → cs.drop p = rest →
    Verdict max cs p (buildFrom max scope (tokensFrom p rest))

/-- The end of a text: a name is due there only if the text is blank. -/
theorem Proceeds.nil : Proceeds max cs [] := by
  intro p scope h hdrop
  have hlen : cs.length ≤ p := List.drop_eq_nil_iff.1 hdrop
  have htake : cs.take p = cs := List.take_of_length_le hlen
  have hcloses := h.closes
  rw [hdrop, nesting_nil, Option.some.injEq] at hcloses
  rw [tokensFrom_nil]
  cases scope with
  | fresh outer =>
    rw [buildFrom]
    refine .nothing ?_
    rcases h.due.1 trivial with hblank | ⟨q, hfollows⟩
    · rwa [htake] at hblank
    · have hlevel := h.level
      rw [hfollows.openBefore_eq h.bound, hcloses] at hlevel
      cases hlevel
  | named frame outer =>
    rw [buildFrom]
    refine .built (fun hblank => h.due.2 (.inl ?_)) fun q hq hobjection => ?_
    · rwa [htake]
    · have hnone : cs[q]? = none := List.getElem?_eq_none (Nat.le_trans hlen hq)
      rcases hobjection.paren.1 with hparen | hparen
      · rw [hnone] at hparen
        cases hparen
      · rw [hnone] at hparen
        cases hparen

theorem Proceeds.blank {c : Char} (hb : isBlank c = true) (ih : Proceeds max cs rest) :
    Proceeds max cs (c :: rest) := by
  intro p scope h hdrop
  have hside := charSide_of_ne (ne_paren_of_isBlank hb).1 (ne_paren_of_isBlank hb).2
  rw [tokensFrom_blank hb]
  exact (ih _ _ (h.blank hdrop hb) (drop_succ_of_drop hdrop)).of_succ
    (not_objection_of_neither (getElem?_of_drop hdrop) hside)

/-- The parenthesis of a call: no place for it where a name is due, and none beyond the limit. -/
theorem Proceeds.opening (ho : rest.head? ≠ some '#') (ih : Proceeds max cs rest) :
    Proceeds max cs ('(' :: rest) := by
  intro p scope h hdrop
  have hget := getElem?_of_drop hdrop
  have hp : Piece 0 p ('(' :: rest) [.opening p] 1 (p + 1) rest := .opening ho
  have hcall : IsCallOpen cs p := by
    refine ⟨hget, ?_, h.outside⟩
    rwa [← List.head?_drop, drop_succ_of_drop hdrop]
  rw [tokensFrom_piece hp, List.singleton_append]
  cases scope with
  | fresh outer =>
    rw [buildFrom]
    exact .openForName (Nat.le_refl p) (by omega) ⟨hget, h.due.1 trivial⟩
  | named frame outer =>
    have hlevel : (openBefore cs p).length = outer.length := h.level
    have hwithin : outer.length ≤ max := h.within
    have hdue : ¬ NameDueAt cs p := h.due.2
    rw [buildFrom_opening (tokensFrom_ne_marker (p + 1) rest)]
    by_cases hroom : outer.length < max
    · rw [if_neg (by omega)]
      exact (ih _ _ (h.opening hcall hdrop hroom) (drop_succ_of_drop hdrop)).of_succ
        (not_objection_of_opening hget hdue fun _ => hlevel ▸ hroom)
    · obtain rfl : outer.length = max := by omega
      rw [if_pos (by omega)]
      exact .tooDeep (Nat.le_refl p) (by omega) hcall hlevel hdue

/-- A closing parenthesis: no place for it where a name is due. -/
theorem Proceeds.closing (ih : Proceeds max cs rest) : Proceeds max cs (')' :: rest) := by
  intro p scope h hdrop
  have hget := getElem?_of_drop hdrop
  have hp : Piece 0 p (')' :: rest) [.closing p] 0 (p + 1) rest := .closing
  have hcloses := h.closes
  rw [hdrop] at hcloses
  rw [tokensFrom_piece hp, List.singleton_append]
  -- Something is open, since the text closes no more than it opens.
  have hsome : scope.level ≠ 0 := by
    intro hzero
    rw [hzero, nesting_closes_zero charSide_close] at hcloses
    cases hcloses
  cases scope with
  | fresh outer =>
    rw [buildFrom]
    refine .emptyScope (Nat.le_refl p) (by omega) ⟨hget, ?_⟩
    refine (h.due.1 trivial).exists_followsCall h.bound fun hnone => hsome ?_
    rw [← h.level, hnone, List.length_nil]
  | named frame outer =>
    cases outer with
    | nil => exact absurd rfl hsome
    | cons parent outer =>
      rw [buildFrom]
      exact (ih _ _ (h.closing hdrop) (drop_succ_of_drop hdrop)).of_succ
        (not_objection_of_closing hget h.due.2)

/-- A literal region: no place for it where a name is due, and nothing to object to inside it. -/
theorem Proceeds.literal {raw : List Char} (hraw : Balanced raw) (ih : Proceeds max cs rest) :
    Proceeds max cs ('(' :: '#' :: (raw ++ ')' :: rest)) := by
  intro p scope h hdrop
  have hget := getElem?_of_drop hdrop
  have hp := @Piece.literal 0 p raw rest hraw
  rw [tokensFrom_piece hp]
  cases scope with
  | fresh outer =>
    simp only [List.cons_append, buildFrom]
    exact .openForName (Nat.le_refl p) (by omega) ⟨hget, h.due.1 trivial⟩
  | named frame outer =>
    have hmarker : cs[p + 1]? = some '#' := getElem?_of_drop (drop_succ_of_drop hdrop)
    simp only [List.cons_append, List.nil_append, buildFrom]
    refine (ih _ _ (h.literal hraw hdrop) (openBefore_region hraw hdrop).1).of_le (by omega) ?_
    intro x hx hlt
    rcases Nat.eq_or_lt_of_le hx with rfl | hx
    · exact not_objection_of_opening hget h.due.2 fun hcall => absurd hmarker hcall.no_marker
    · exact fun hobjection => hobjection.paren.2 (inLiteral_of_region hdrop hraw hx (by omega))

/-- A region that is not closed would leave parentheses open. -/
theorem Proceeds.unclosed {e : Nat} (he : nesting charSide 0 rest = some e) :
    Proceeds max cs ('(' :: '#' :: rest) := by
  intro p scope h hdrop
  have hcloses := h.closes
  have hkeep := nesting_add he (scope.level + 1)
  rw [hdrop, nesting_opens charSide_open, nesting_neither (by rfl)] at hcloses
  rw [Nat.zero_add, hcloses] at hkeep
  cases hkeep

/-- A word is the name that is due, or an argument. -/
theorem Proceeds.word {w : List Char} (hw : IsWord w) (he : EndsWord rest)
    (ih : Proceeds max cs rest) : Proceeds max cs (w ++ rest) := by
  intro p scope h hdrop
  have hp := @Piece.word 0 p w rest hw he
  have hstep : ∀ frame outer, scope.level = outer.length →
      Verdict max cs p (buildFrom max (.named frame outer) (tokensFrom (p + w.length) rest)) := by
    intro frame outer hlevel
    refine (ih _ _ (h.word hlevel hw hdrop) (drop_add_of_drop hdrop)).of_le
      (Nat.le_add_right p _) fun x hx hlt => ?_
    obtain ⟨c, hc, hget⟩ := exists_mem_of_drop hdrop hx hlt
    exact not_objection_of_neither hget (hw.charSide c hc)
  rw [tokensFrom_piece hp, List.singleton_append]
  cases scope with
  | fresh outer =>
    rw [buildFrom]
    exact hstep _ outer rfl
  | named frame outer =>
    rw [buildFrom]
    exact hstep _ outer rfl

/-- **The builder in a text.** From a position where it stands in a scope, the builder goes on to
the first place to stop, or to the end of the text. -/
theorem proceeds (max : Nat) (cs rest : List Char) : Proceeds max cs rest := by
  induction rest using scan_induction with
  | nil => exact .nil
  | newline rest ih => exact .blank isBlank_newline ih
  | blank c rest hb _ ih => exact .blank hb ih
  | opening rest ho ih => exact .opening ho ih
  | closing rest ih => exact .closing ih
  | literal raw rest hraw ih => exact .literal hraw ih
  | unclosed rest e he => exact .unclosed he
  | word w rest hw he ih => exact .word hw he ih

/-- **The verdict on a text.** On a text with balanced parentheses the builder stops at the first
place to stop, or it builds a call; on a blank text it finds nothing. -/
theorem verdict_of_balanced (max : Nat) (h : Balanced cs) :
    Verdict max cs 0 (buildFrom max (.fresh []) (tokensFrom 0 cs)) := by
  refine proceeds max cs cs 0 (.fresh []) ⟨Nat.zero_le _, ?_, rfl, ?_, Nat.zero_le _, ?_⟩ rfl
  · rintro ⟨q, hq, -⟩
    cases hq
  · exact iff_of_true trivial (.inl nofun)
  · exact (balanced_iff_nesting cs).1 h

end Run

end CommandShell
