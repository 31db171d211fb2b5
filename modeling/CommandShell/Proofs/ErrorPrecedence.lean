import CommandShell.Proofs.Offence

/-!
# Which error a text gives

Errors are found in several places, in an order that depends on the text. The outcome does not
depend on the places: the length of a text, a count of its parentheses, what follows its first
statement and the first parenthesis that offends against the shape of calls decide it, in this
order.

A parenthesis offends if it opens where a name is due, if it opens a call that is closed with only
blank characters inside, or if it opens a call beyond the limit of depth. The builder finds the
second kind only at the closing parenthesis, so a call that is empty and too deep is reported for
its depth.

* `Verdict.ruling` — what the builder objects to first is the first offence;
* `raises_iff_of_error` — one parse has one kind of error;
* `parse_kind_iff` — **the kind of error of every text**.
-/

namespace CommandShell

/-! ### Offences -/

/-- A call is closed with only blank characters inside; the position is that of its opening
parenthesis. -/
def LeftEmpty (cs : List Char) (p : Nat) : Prop := ∃ r, cs[r]? = some ')' ∧ FollowsCall cs p r

/-- A parenthesis that offends against the shape of calls. -/
def Offends (max : Nat) (cs : List Char) (p : Nat) : Prop :=
  OpensForName cs p ∨ LeftEmpty cs p ∨ OpensTooDeep max cs p

/-- The leftmost parenthesis that offends. -/
structure FirstOffence (max : Nat) (cs : List Char) (p : Nat) : Prop where
  offends : Offends max cs p
  first : ∀ q < p, ¬ Offends max cs q

section Offences

variable {max : Nat} {cs : List Char} {p q : Nat}

theorem FirstOffence.unique (hp : FirstOffence max cs p) (hq : FirstOffence max cs q) : p = q := by
  rcases Nat.lt_trichotomy p q with hlt | heq | hlt
  · exact absurd hp.offends (hq.first p hlt)
  · exact heq
  · exact absurd hq.offends (hp.first q hlt)

/-- What offends is an opening parenthesis. -/
theorem Offends.opening (h : Offends max cs p) : cs[p]? = some '(' := by
  rcases h with ⟨hopen, -⟩ | ⟨r, -, hfollows⟩ | ⟨hcall, -⟩
  · exact hopen
  · exact hfollows.call.opens
  · exact hcall.opens

theorem not_offends_of_isBlankRun (h : IsBlankRun cs) : ¬ Offends max cs p := by
  intro hoffends
  have hblank := h '(' (List.mem_of_getElem? hoffends.opening)
  rw [isBlank_open] at hblank
  cases hblank

theorem FollowsCall.isBlank_between {r : Nat} {c : Char} (h : FollowsCall cs p r) (hpq : p < q)
    (hqr : q < r) (hget : cs[q]? = some c) : isBlank c = true := by
  refine h.blank c (List.mem_of_getElem? (i := q - (p + 1)) ?_)
  rw [List.getElem?_drop, Nat.add_sub_cancel' hpq, List.getElem?_take_of_lt hqr, hget]

/-- In front of an opening parenthesis up to which the builder objects to nothing, nothing
offends: a call that starts there cannot be empty and end behind it. -/
theorem not_offends_before {r : Nat} (hno : ∀ x < r, ¬ Objection max cs x)
    (hq : cs[q]? = some '(') (hqr : q ≤ r) : ∀ x < q, ¬ Offends max cs x := by
  rintro x hx (hname | ⟨s, hclose, hfollows⟩ | hdeep)
  · exact hno x (by omega) (.inl hname)
  · have hs : r ≤ s := Nat.le_of_not_lt fun hlt => hno s hlt (.inr (.inl ⟨hclose, x, hfollows⟩))
    have hne : q ≠ s := by
      rintro rfl
      rw [hq] at hclose
      cases hclose
    have hblank := hfollows.isBlank_between hx (by omega) hq
    rw [isBlank_open] at hblank
    cases hblank
  · exact hno x (by omega) (.inr (.inr hdeep))

end Offences

/-! ### Rulings -/

/-- What the builder says of a text, by its first offence. -/
inductive Ruling (max : Nat) (cs : List Char) : Except Located Call → Prop
  | built {call : Call} : ¬ IsBlankRun cs → (∀ p, ¬ Offends max cs p) → Ruling max cs (.ok call)
  | blank {e : Located} : IsBlankRun cs → e.1.kind = .emptyCommand → Ruling max cs (.error e)
  | name {e : Located} {p : Nat} : FirstOffence max cs p →
      (OpensForName cs p ∨ ¬ OpensTooDeep max cs p) → e.1.kind = .emptyCommand →
      Ruling max cs (.error e)
  | depth {e : Located} {p : Nat} : FirstOffence max cs p → OpensTooDeep max cs p →
      ¬ OpensForName cs p → e.1.kind = .depthExceeded → Ruling max cs (.error e)

/-- **First objections are first offences.** The builder objects to an empty call at its closing
parenthesis; the offence is the opening one, and it is not too deep. -/
theorem Verdict.ruling {max : Nat} {cs : List Char} {result : Except Located Call}
    (h : Verdict max cs 0 result) : Ruling max cs result := by
  have hbelow : ∀ {q : Nat}, (∀ x, 0 ≤ x → x < q → ¬ Objection max cs x) →
      ∀ x < q, ¬ Objection max cs x := fun hfirst x hx => hfirst x (Nat.zero_le x) hx
  cases h with
  | built hblank hall =>
    refine .built hblank fun p hoffends => ?_
    rcases hoffends with hname | ⟨r, hclose, hfollows⟩ | hdeep
    · exact hall p (Nat.zero_le p) (.inl hname)
    · exact hall r (Nat.zero_le r) (.inr (.inl ⟨hclose, p, hfollows⟩))
    · exact hall p (Nat.zero_le p) (.inr (.inr hdeep))
  | nothing hblank => exact .blank hblank rfl
  | @openForName q _ hfirst hopen =>
    have hbefore := not_offends_before (hbelow hfirst) hopen.1 (Nat.le_refl q)
    exact .name ⟨.inl hopen, hbefore⟩ (.inl hopen) rfl
  | @emptyScope r _ hfirst hclose =>
    obtain ⟨hget, q, hfollows⟩ := hclose
    have hbefore := not_offends_before (hbelow hfirst) hfollows.call.opens
      (Nat.le_of_lt hfollows.lt)
    have hroom : ¬ OpensTooDeep max cs q := fun hdeep =>
      hbelow hfirst q hfollows.lt (.inr (.inr hdeep))
    exact .name ⟨.inr (.inl ⟨r, hget, hfollows⟩), hbefore⟩ (.inr hroom) rfl
  | @tooDeep q _ hfirst hcall hlen hdue =>
    have hbefore := not_offends_before (hbelow hfirst) hcall.opens (Nat.le_refl q)
    have hdeep : OpensTooDeep max cs q := opensTooDeep_iff.2 ⟨hcall, Nat.le_of_eq hlen.symm⟩
    exact .depth ⟨.inr (.inr hdeep), hbefore⟩ hdeep (fun hopen => hdue hopen.2) rfl

/-! ### Kinds of errors -/

/-- Parsing a text gives an error of a kind. -/
def Raises (text : String) (limits : Limits) (kind : ErrorKind) : Prop :=
  ∃ e, parse text limits = .error e ∧ e.kind = kind

section Kinds

variable {text : String} {limits : Limits}

/-- One parse has one kind of error. -/
theorem raises_iff_of_error {e : ParseError} (h : parse text limits = .error e)
    (kind : ErrorKind) : Raises text limits kind ↔ e.kind = kind := by
  constructor
  · rintro ⟨e', he', hkind⟩
    rw [h] at he'
    cases he'
    exact hkind
  · exact fun hkind => ⟨e, h, hkind⟩

theorem not_raises_of_ok {call : Call} (h : parse text limits = .ok call) (kind : ErrorKind) :
    ¬ Raises text limits kind := by
  rintro ⟨e, he, -⟩
  rw [h] at he
  cases he

end Kinds

/-- An offence for the sake of a name: the text is blank, or the leftmost parenthesis that offends
opens where a name is due, or is at least not too deep. -/
def LacksName (max : Nat) (cs : List Char) : Prop :=
  IsBlankRun cs ∨ ∃ p, FirstOffence max cs p ∧ (OpensForName cs p ∨ ¬ OpensTooDeep max cs p)

/-- An offence for the sake of depth: the leftmost parenthesis that offends opens a call beyond
the limit, and not where a name is due. -/
def TooDeep (max : Nat) (cs : List Char) : Prop :=
  ∃ p, FirstOffence max cs p ∧ OpensTooDeep max cs p ∧ ¬ OpensForName cs p

/-- A name and the depth are never both at fault. -/
theorem LacksName.not_tooDeep {max : Nat} {cs : List Char} (h : LacksName max cs) :
    ¬ TooDeep max cs := by
  rintro ⟨q, hq, hdeep, hdue⟩
  rcases h with hblank | ⟨p, hp, hname⟩
  · exact not_offends_of_isBlankRun hblank hq.offends
  · obtain rfl := hp.unique hq
    rcases hname with hopen | hroom
    · exact hdue hopen
    · exact hroom hdeep

/-- Nothing is wrong with the shape of the calls of a text. -/
def WellShaped (max : Nat) (cs : List Char) : Prop := ¬ IsBlankRun cs ∧ ∀ p, ¬ Offends max cs p

theorem LacksName.not_wellShaped {max : Nat} {cs : List Char} (h : LacksName max cs) :
    ¬ WellShaped max cs := by
  rintro ⟨hblank, hall⟩
  rcases h with h | ⟨p, hp, -⟩
  · exact hblank h
  · exact hall p hp.offends

theorem TooDeep.not_wellShaped {max : Nat} {cs : List Char} (h : TooDeep max cs) :
    ¬ WellShaped max cs := by
  obtain ⟨p, hp, -⟩ := h
  exact fun hshape => hshape.2 p hp.offends

theorem Ruling.of_ok {max : Nat} {cs : List Char} {call : Call} (h : Ruling max cs (.ok call)) :
    WellShaped max cs := by
  cases h with
  | built hblank hall => exact ⟨hblank, hall⟩

theorem Ruling.of_error {max : Nat} {cs : List Char} {e : Located} (h : Ruling max cs (.error e)) :
    (e.1.kind = .emptyCommand ∧ LacksName max cs) ∨
      e.1.kind = .depthExceeded ∧ TooDeep max cs := by
  cases h with
  | blank hblank hkind => exact .inl ⟨hkind, .inl hblank⟩
  | name hfirst hname hkind => exact .inl ⟨hkind, .inr ⟨_, hfirst, hname⟩⟩
  | depth hfirst hdeep hdue hkind => exact .inr ⟨hkind, _, hfirst, hdeep, hdue⟩

/-- A text that reaches the builder: not too long, with balanced parentheses and nothing behind
its first statement. -/
structure ReachesBuilder (text : String) (limits : Limits) : Prop where
  fits : text.length ≤ limits.maxLength
  balanced : Balanced text.toList
  single : ¬ HasTrailingInput text.toList

/-- **The kind of error of every text.** For any text and limits, parsing gives

* an error of length exactly if the text is too long;
* else one of parentheses exactly if those of the whole text, literal regions included, are not
  balanced;
* else one of an unexpected token exactly if something that is not blank follows the first newline
  outside parentheses behind something that is not blank;
* else an error exactly if the text is blank or some parenthesis offends; the leftmost one decides.
  It is an error of depth if that parenthesis opens a call beyond the limit, unless it opens where
  a name is due, and an error of an empty command in every other case. -/
theorem parse_kind_iff (text : String) (limits : Limits) :
    (Raises text limits .inputTooLong ↔ limits.maxLength < text.length) ∧
    (Raises text limits .unbalancedParentheses ↔
      text.length ≤ limits.maxLength ∧ ¬ Balanced text.toList) ∧
    (Raises text limits .unexpectedToken ↔
      text.length ≤ limits.maxLength ∧ Balanced text.toList ∧ HasTrailingInput text.toList) ∧
    (Raises text limits .emptyCommand ↔
      ReachesBuilder text limits ∧ LacksName limits.maxDepth text.toList) ∧
    (Raises text limits .depthExceeded ↔
      ReachesBuilder text limits ∧ TooDeep limits.maxDepth text.toList) ∧
    ((∃ call, parse text limits = .ok call) ↔
      ReachesBuilder text limits ∧ WellShaped limits.maxDepth text.toList) := by
  rcases Nat.lt_or_ge limits.maxLength text.length with hlong | hlen
  · obtain ⟨e, hparse, hdefect⟩ := parse_tooLong hlong
    have hkind : e.kind = .inputTooLong := by rw [ParseError.kind, hdefect]; rfl
    have hlen : ¬ text.length ≤ limits.maxLength := Nat.not_le.2 hlong
    have hreach : ¬ ReachesBuilder text limits := fun h => hlen h.fits
    simp [raises_iff_of_error hparse, hkind, hlong, hlen, hreach, hparse]
  · have hlong : ¬ limits.maxLength < text.length := Nat.not_lt.2 hlen
    have hparsing : Parsing text limits (parse text limits) := parse_isParsing hlen
    generalize hparse : parse text limits = result at hparsing
    cases hparsing with
    | @unclosed q hmem =>
      have hbal := (unmatched_of_unclosed hmem).not_balanced
      have hreach : ¬ ReachesBuilder text limits := fun h => hbal h.balanced
      have hkind : (ParseError.pointing text .unclosedLiteral q).kind = .unbalancedParentheses :=
        rfl
      simp [raises_iff_of_error hparse, hkind, hlong, hlen, hbal, hreach]
    | @unbalanced defect q hclosed himbalance =>
      obtain ⟨n, -, hunmatched⟩ :=
        unmatched_of_imbalance (List.drop_zero (l := text.toList)) hclosed himbalance
      have hbal := hunmatched.not_balanced
      have hreach : ¬ ReachesBuilder text limits := fun h => hbal h.balanced
      have hkind : (ParseError.pointing text defect q).kind = .unbalancedParentheses :=
        kind_of_imbalance himbalance
      simp [raises_iff_of_error hparse, hkind, hlong, hlen, hbal, hreach]
    | @trailing i hclosed himbalance hfirst hmore =>
      have hbal := balanced_of_imbalance hclosed himbalance
      have htrailing : HasTrailingInput text.toList := ⟨i, hfirst, hmore⟩
      have hreach : ¬ ReachesBuilder text limits := fun h => h.single htrailing
      have hkind : ∀ q, (ParseError.pointing text .trailingInput q).kind = .unexpectedToken :=
        fun _ => rfl
      simp [raises_iff_of_error hparse, hkind, hlong, hlen, hbal, htrailing, hreach]
    | single hclosed himbalance htrailing =>
      have hbal := balanced_of_imbalance hclosed himbalance
      have hreach : ReachesBuilder text limits := ⟨hlen, hbal, htrailing⟩
      have hruling := (verdict_of_balanced limits.maxDepth hbal).ruling
      cases hbuild : buildFrom limits.maxDepth (.fresh []) (tokensFrom 0 text.toList) with
      | ok call =>
        rw [hbuild] at hparse hruling
        replace hparse : parse text limits = .ok call := hparse
        have hshape := hruling.of_ok
        have hname : ¬ LacksName limits.maxDepth text.toList := fun h => h.not_wellShaped hshape
        have hdeep : ¬ TooDeep limits.maxDepth text.toList := fun h => h.not_wellShaped hshape
        simp [not_raises_of_ok hparse, hlong, hlen, hbal, htrailing, hreach, hshape, hname, hdeep,
          Except.mapError]
      | error found =>
        rw [hbuild] at hparse hruling
        replace hparse : parse text limits = .error (located text found) := hparse
        have hkind := kind_located text found.1 found.2
        rcases hruling.of_error with ⟨hempty, hname⟩ | ⟨hdepth, hdeep⟩
        · rw [hempty] at hkind
          simp [raises_iff_of_error hparse, hkind, hlong, hlen, hbal, htrailing, hreach, hname,
            hname.not_tooDeep, hname.not_wellShaped, Except.mapError]
        · rw [hdepth] at hkind
          have hname : ¬ LacksName limits.maxDepth text.toList := fun h => h.not_tooDeep hdeep
          simp [raises_iff_of_error hparse, hkind, hlong, hlen, hbal, htrailing, hreach, hname,
            hdeep, hdeep.not_wellShaped, Except.mapError]

/-- **Depth before emptiness.** In `a ()` under a depth of zero one parenthesis offends twice: its
call is too deep, and it is closed with nothing inside. The depth is reported, so an empty call
does not win over the depth as a parenthesis in the place of a name does. -/
theorem emptyCall_not_emptyCommand :
    ReachesBuilder "a ()" { maxDepth := 0 } ∧
      ¬ (Raises "a ()" { maxDepth := 0 } .emptyCommand ↔
        IsBlankRun "a ()".toList ∨ ∃ p, FirstOffence 0 "a ()".toList p ∧
          (OpensForName "a ()".toList p ∨ LeftEmpty "a ()".toList p)) := by
  have hparse : parse "a ()" { maxDepth := 0 } =
      .error (.pointing "a ()" (.tooDeep 1 0) 2) := by decide +kernel
  have hempty : LeftEmpty "a ()".toList 2 := ⟨3, by decide, by decide⟩
  have hfirst : FirstOffence 0 "a ()".toList 2 := by
    refine ⟨.inr (.inl hempty), fun q hq hoffends => ?_⟩
    have hopen := hoffends.opening
    match q, hq with
    | 0, _ => exact absurd hopen (by decide)
    | 1, _ => exact absurd hopen (by decide)
  refine ⟨⟨by decide, by decide, ?_⟩, fun hiff => ?_⟩
  · rintro ⟨i, hends, -⟩
    exact absurd (List.mem_of_getElem? hends.ends.1) (by decide)
  · have hraises := hiff.2 (.inr ⟨2, hfirst, .inr hempty⟩)
    rw [raises_iff_of_error hparse] at hraises
    cases hraises

end CommandShell
