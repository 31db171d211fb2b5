import CommandShell.Proofs.Segment
import CommandShell.Proofs.TokenGrammar

/-!
# Parts of a text

A part of a text is read like the whole text, from where the part starts. Its tokens have lower
positions, its calls are the same, and an error that points into the part points into the text,
that much further on.

* `checkBalance_relocate`, `located_relocate` — the two stages of building;
* `build_relocate` — **tokens at lower positions build the same call, or fail with the same defect**.
-/

namespace CommandShell

/-- The error of a part of `text` that starts at `start`, as an error of the whole text. An error
without an excerpt points at no place. -/
def ParseError.relocate (text : String) (start : Nat) (e : ParseError) : ParseError :=
  match e.position, e.excerpt with
  | some p, some _ => .pointing text e.defect (p + start)
  | _, _ => e

theorem ParseError.relocate_pointing (text part : String) (start : Nat) (defect : Defect) (p : Int) :
    (pointing part defect p).relocate text start = pointing text defect (p + start) := rfl

theorem ParseError.relocate_pointing_lower (text part : String) (start : Nat) (defect : Defect)
    (p : Int) : (pointing part defect (p - start)).relocate text start = pointing text defect p := by
  rw [relocate_pointing, Int.sub_add_cancel]

/-! ### Balance -/

theorem imbalance_lower (k : Nat) (opened : List Int) (tokens : List Token) :
    imbalance (opened.map (· - (k : Int))) (tokens.map (Token.lower k)) =
      (imbalance opened tokens).map fun found => (found.1, found.2 - (k : Int)) := by
  fun_induction imbalance opened tokens with
  | case1 opened => cases opened <;> rfl
  | case2 opened p tokens ih => exact ih
  | case3 p tokens => rfl
  | case4 p tokens q opened ih => exact ih
  | case5 opened token tokens hopening hclosing ih =>
    cases token with
    | opening p => exact absurd rfl (hopening p)
    | closing p => exact absurd rfl (hclosing p)
    | _ => exact ih

theorem checkBalance_relocate (text part : String) (k : Nat) (tokens : List Token) :
    checkBalance tokens text =
      (checkBalance (tokens.map (Token.lower k)) part).mapError (·.relocate text k) := by
  have hlower := imbalance_lower k [] tokens
  rw [List.map_nil] at hlower
  rw [checkBalance, checkBalance, hlower]
  rcases imbalance [] tokens with _ | ⟨defect, p⟩
  · rfl
  · exact congrArg Except.error (ParseError.relocate_pointing_lower text part k defect p).symm

/-! ### Calls -/

theorem not_marker_of_lower {k : Nat} {tokens : List Token}
    (h : ∀ q rest, tokens ≠ .marker q :: rest) (q : Int) (rest : List Token) :
    tokens.map (Token.lower k) ≠ .marker q :: rest := by
  intro hmap
  obtain ⟨token, rest', rfl, htoken, -⟩ := List.map_eq_cons_iff.1 hmap
  cases token with
  | marker p => exact h p rest' rfl
  | _ => cases htoken

theorem exists_body_of_lower {k : Nat} {tokens tail : List Token} {body : String} {p q : Int}
    (h : tokens.map (Token.lower k) = .word body p :: .closing q :: tail) :
    ∃ p' q' rest, tokens = .word body p' :: .closing q' :: rest := by
  obtain ⟨first, rest, rfl, hfirst, h⟩ := List.map_eq_cons_iff.1 h
  obtain ⟨second, rest, rfl, hsecond, -⟩ := List.map_eq_cons_iff.1 h
  cases first with
  | word body' p' =>
    cases second with
    | closing q' =>
      cases hfirst
      exact ⟨p', q', rest, rfl⟩
    | _ => cases hsecond
  | _ => cases hfirst

/-- **The builder.** It puts calls together from tokens wherever they stand. -/
theorem located_relocate (text part : String) (k : Nat) (maxDepth : Int) (scope : Scope)
    (tokens : List Token) :
    (buildFrom maxDepth scope tokens).mapError (located text) =
      ((buildFrom maxDepth scope (tokens.map (Token.lower k))).mapError (located part)).mapError
        (·.relocate text k) := by
  have hpoint : ∀ (defect : Defect) (p : Int),
      (Except.error (.pointing text defect p) : Except ParseError Call) =
        .error ((ParseError.pointing part defect (p - k)).relocate text k) :=
    fun defect p => congrArg _ (ParseError.relocate_pointing_lower text part k defect p).symm
  fun_induction buildFrom maxDepth scope tokens with
  | case1 outer => rfl
  | case2 frame outer => rfl
  | case3 outer p tail => exact hpoint .openForName p
  | case4 outer p tail => exact hpoint .emptyScope p
  | case5 outer name p tokens ih => simpa only [List.map_cons, Token.lower, buildFrom] using ih
  | case6 frame outer p q body r s tokens ih =>
    simpa only [List.map_cons, Token.lower, buildFrom] using ih
  | case7 frame outer p q tail hliteral =>
    rw [List.map_cons, List.map_cons, Token.lower, Token.lower, buildFrom]
    · exact hpoint .malformedLiteral p
    · intro body r s rest h
      obtain ⟨r', s', rest', rfl⟩ := exists_body_of_lower h
      exact hliteral body r' s' rest' rfl
  | case8 frame outer p tokens hliteral hmarker hdeep =>
    rw [List.map_cons, Token.lower, buildFrom_opening (not_marker_of_lower hmarker), if_pos hdeep]
    exact hpoint _ p
  | case9 frame outer p tokens hliteral hmarker hfits ih =>
    rw [List.map_cons, Token.lower, buildFrom_opening (not_marker_of_lower hmarker), if_neg hfits]
    exact ih
  | case10 frame parent outer p tokens ih =>
    simpa only [List.map_cons, Token.lower, buildFrom] using ih
  | case11 frame p tail => exact hpoint .unmatchedClose p
  | case12 frame outer body p tokens ih =>
    simpa only [List.map_cons, Token.lower, buildFrom] using ih
  | case13 scope p tail =>
    cases scope <;> exact hpoint .strayMarker p
  | case14 scope shown tail => cases scope <;> rfl

/-- Tokens are checked for balance and then put together. -/
theorem build_eq_bind (tokens : List Token) (maxDepth : Int) (text : Option String) :
    build tokens maxDepth text =
      (checkBalance tokens text).bind fun _ =>
        (buildFrom maxDepth (.fresh []) tokens).mapError (located text) := by
  unfold build
  cases buildFrom maxDepth (.fresh []) tokens <;> rfl

/-- **Building a part.** The tokens of a part build the call that they build in the whole text, or
fail with the error that is that of the whole text. -/
theorem build_relocate (text part : String) (k : Nat) (maxDepth : Int) (tokens : List Token) :
    build tokens maxDepth text =
      (build (tokens.map (Token.lower k)) maxDepth part).mapError (·.relocate text k) := by
  rw [build_eq_bind, build_eq_bind, located_relocate text part k, checkBalance_relocate text part k]
  cases checkBalance (tokens.map (Token.lower k)) part <;> rfl

end CommandShell
