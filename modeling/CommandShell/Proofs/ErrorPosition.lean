import CommandShell.Proofs.Offence

/-!
# What errors point at

Every error of parsing has a position, and its kind says what is found there. The positions come
from tokens, from a stack of open positions and from a scan of their own behind the marker of a
literal; `Culprit` speaks of the characters of the text only.

* `culprit_of_trailing`, `Verdict.culprit` — what follows the first statement, and what the builder
  objects to;
* `parse_culprit` — **every error of parsing points at its culprit**.
-/

namespace CommandShell

/-- What stands at the position of an error, by its kind: a parenthesis without a partner, the
first thing behind the first statement, the first call with as many open parentheses before it as
the limit allows, or a parenthesis in the place of a name. A text that is too long and a blank one
are pointed at as a whole. Parsing has no errors of other kinds. -/
def Culprit (max : Nat) (cs : List Char) (p : Nat) : ErrorKind → Prop
  | .inputTooLong => p = 0
  | .unbalancedParentheses => Unmatched cs p
  | .unexpectedToken => ∃ i c, EndsFirst cs i ∧ i < p ∧
      IsBlankRun ((cs.take p).drop (i + 1)) ∧ cs[p]? = some c ∧ isBlank c = false
  | .depthExceeded => IsCallOpen cs p ∧ (openBefore cs p).length = max ∧
      ∀ q < p, IsCallOpen cs q → (openBefore cs q).length ≠ max
  | .emptyCommand => (IsBlankRun cs ∧ p = 0) ∨ OpensForName cs p ∨ ClosesUnnamed cs p
  | _ => False

/-- The first character behind the first statement that is not blank. -/
theorem culprit_of_trailing {max i : Nat} {cs : List Char} (hfirst : EndsFirst cs i)
    (hmore : ¬ IsBlankRun (cs.drop (i + 1))) :
    Culprit max cs (i + 1 + ((cs.drop (i + 1)).takeWhile isBlank).length) .unexpectedToken := by
  obtain ⟨c, body, hbody, hc⟩ := exists_dropWhile_blank hmore
  have hblank := isBlankRun_leading (cs.drop (i + 1))
  have hrest := drop_length_takeWhile (cs.drop (i + 1))
  rw [List.drop_drop, hbody] at hrest
  refine ⟨i, c, hfirst, by omega, ?_, getElem?_of_drop hrest, hc⟩
  rwa [List.drop_take, Nat.add_sub_cancel_left]

/-- What the builder objects to stands where it says. -/
theorem Verdict.culprit {max : Nat} {cs : List Char} {defect : Defect} {at? : Option Int}
    (h : Verdict max cs 0 (.error (defect, at?))) :
    ∃ p : Nat, at? = some (p : Int) ∧ Culprit max cs p defect.kind := by
  cases h with
  | nothing hblank => exact ⟨0, rfl, .inl ⟨hblank, rfl⟩⟩
  | @openForName q _ _ hopen => exact ⟨q, rfl, .inr (.inl hopen)⟩
  | @emptyScope q _ _ hclose => exact ⟨q, rfl, .inr (.inr hclose)⟩
  | @tooDeep q _ hfirst hcall hlen _ =>
    refine ⟨q, rfl, hcall, hlen, fun x hx hcallx hlenx => ?_⟩
    have hdeep := opensTooDeep_iff.2 ⟨hcallx, Nat.le_of_eq hlenx.symm⟩
    exact hfirst x (Nat.zero_le x) hx (.inr (.inr hdeep))

theorem position_located (text : Option String) (defect : Defect) (p : Int) :
    (located text (defect, some p)).position = some p := by
  unfold located
  split
  · rename_i h
    cases h
    rfl
  · rename_i h
    cases h
    rfl
  · rename_i h
    cases h

/-- **Errors point at their culprits.** Every error of parsing has a position in the text, and what
its kind says is found there. -/
theorem parse_culprit (text : String) (limits : Limits) (e : ParseError)
    (h : parse text limits = .error e) :
    ∃ p : Nat, e.position = some (p : Int) ∧ Culprit limits.maxDepth text.toList p e.kind := by
  rcases Nat.lt_or_ge limits.maxLength text.length with hlong | hlen
  · have hlt : (limits.maxLength : Int) < text.length := Int.ofNat_lt.2 hlong
    rw [parse, tokenize, checkLength, if_pos hlt] at h
    cases h
    exact ⟨0, rfl, rfl⟩
  · have hparsing := parse_isParsing hlen
    rw [h] at hparsing
    generalize hresult : Except.error e = result at hparsing
    cases hparsing with
    | @unclosed q hmem =>
      cases hresult
      exact ⟨q, rfl, unmatched_of_unclosed hmem⟩
    | @unbalanced defect q hclosed hbal =>
      cases hresult
      obtain ⟨n, rfl, hunmatched⟩ :=
        unmatched_of_imbalance (List.drop_zero (l := text.toList)) hclosed hbal
      refine ⟨n, rfl, ?_⟩
      have hkind : (ParseError.pointing text defect n).kind = .unbalancedParentheses :=
        kind_of_imbalance hbal
      rw [hkind]
      exact hunmatched
    | trailing _ _ hfirst hmore =>
      cases hresult
      exact ⟨_, rfl, culprit_of_trailing hfirst hmore⟩
    | single hclosed hbal _ =>
      have hverdict := verdict_of_balanced limits.maxDepth (balanced_of_imbalance hclosed hbal)
      cases hbuild : buildFrom limits.maxDepth (.fresh []) (tokensFrom 0 text.toList) with
      | ok call =>
        rw [hbuild] at hresult
        cases hresult
      | error found =>
        obtain ⟨defect, at?⟩ := found
        rw [hbuild] at hresult hverdict
        cases hresult
        obtain ⟨p, rfl, hculprit⟩ := hverdict.culprit
        rw [position_located, kind_located]
        exact ⟨p, rfl, hculprit⟩

/-- A literal region with a parenthesis and a newline in it, and a call inside a call. -/
def nestedLine : String := "f (#(\n)) (g (h) x\n) y"

/-- Under a limit of one, the parenthesis of the inner call is pointed at: one call is open before
it, and the region before that does not count. -/
theorem parse_culprit_nestedLine :
    parse nestedLine { maxDepth := 1 } = .error (.pointing nestedLine (.tooDeep 2 1) 12) ∧
      ∃ p : Nat, (some 12 : Option Int) = some (p : Int) ∧
        Culprit 1 nestedLine.toList p .depthExceeded := by
  have hparse : parse nestedLine { maxDepth := 1 } =
      .error (.pointing nestedLine (.tooDeep 2 1) 12) := by decide +kernel
  exact ⟨hparse, parse_culprit nestedLine { maxDepth := 1 } _ hparse⟩

end CommandShell
