import CommandShell.Proofs.Evaluation
import CommandShell.Proofs.TokenGrammar

/-!
# Reading under raised limits

A text is read under two limits, that of its length and that of its nesting. Raising them never
changes what was read, nor an error that was not about a limit: the length is only looked at before
anything else, and the nesting only where a scope opens.

Two results of reading are compared by `Unlimited`: the second one is the first, unless the
first one reports that a limit is exceeded.

* `Unlimited.bind` — reading in steps;
* `buildFrom_raised` — the builder of trees under a higher limit;
* `Input.trees_raised` — **the trees of an input under raised limits**.
-/

namespace CommandShell

/-- Whether an error reports a text that is too long or a nesting that is too deep. -/
def ParseError.exceedsLimit (e : ParseError) : Bool :=
  e.kind == .inputTooLong || e.kind == .depthExceeded

/-- The second limits allow all that the first ones allow. -/
structure Limits.Raised (limits limits' : Limits) : Prop where
  maxDepth : limits.maxDepth ≤ limits'.maxDepth
  maxLength : limits.maxLength ≤ limits'.maxLength

theorem Limits.Raised.refl (limits : Limits) : limits.Raised limits :=
  ⟨Nat.le_refl _, Nat.le_refl _⟩

/-- The second result is the first one, unless that reports an exceeded limit. -/
def Unlimited {α : Type} (x x' : Except ParseError α) : Prop :=
  x' = x ∨ ∃ error, x = .error error ∧ error.exceedsLimit = true

namespace Unlimited

variable {α β : Type} {x x' : Except ParseError α}

theorem refl (x : Except ParseError α) : Unlimited x x := .inl rfl

/-- **Reading in steps.** A limit that a step exceeds is exceeded by all of the reading. -/
theorem bind {f f' : α → Except ParseError β} (hx : Unlimited x x')
    (hf : ∀ a, Unlimited (f a) (f' a)) : Unlimited (x >>= f) (x' >>= f') := by
  rcases hx with rfl | ⟨error, rfl, hlimit⟩
  · cases x' with
    | error error => exact .refl _
    | ok a => exact hf a
  · exact .inr ⟨error, rfl, hlimit⟩

end Unlimited

variable {limits limits' : Limits}

theorem checkLength_raised (text : String) {maximum maximum' : Int} (h : maximum ≤ maximum') :
    Unlimited (checkLength text maximum) (checkLength text maximum') := by
  unfold checkLength
  by_cases hlong : maximum < text.length
  · rw [if_pos hlong]
    exact .inr ⟨_, rfl, rfl⟩
  · rw [if_neg hlong, if_neg (by omega)]
    exact .refl _

/-- **The builder.** It looks at the limit only where a scope opens. If the nesting fits there, it
fits a higher limit. -/
theorem buildFrom_raised {maxDepth maxDepth' : Int} (h : maxDepth ≤ maxDepth') (scope : Scope)
    (tokens : List Token) :
    buildFrom maxDepth' scope tokens = buildFrom maxDepth scope tokens ∨
      ∃ depth p, buildFrom maxDepth scope tokens = .error (.tooDeep depth maxDepth, some p) := by
  fun_induction buildFrom maxDepth scope tokens with
  | case5 outer text p tokens ih => simpa only [buildFrom] using ih
  | case6 frame outer p q text r s tokens ih => simpa only [buildFrom] using ih
  | case7 frame outer p q tail hliteral => exact .inl (by rw [buildFrom]; exact hliteral)
  | case8 frame outer p tokens hliteral hmarker hdeep => exact .inr ⟨_, _, rfl⟩
  | case9 frame outer p tokens hliteral hmarker hfits ih =>
    rw [buildFrom_opening hmarker, if_neg (by omega)]
    exact ih
  | case10 frame parent outer p tokens ih => simpa only [buildFrom] using ih
  | case12 frame outer text p tokens ih => simpa only [buildFrom] using ih
  | _ => exact .inl (by simp only [buildFrom])

theorem build_raised {maxDepth maxDepth' : Int} (h : maxDepth ≤ maxDepth') (tokens : List Token)
    (text : Option String) :
    Unlimited (build tokens maxDepth text) (build tokens maxDepth' text) := by
  refine Unlimited.bind (.refl _) fun _ => ?_
  rcases buildFrom_raised h (.fresh []) tokens with heq | ⟨depth, p, hdeep⟩
  · rw [heq]
    exact .refl _
  · rw [hdeep]
    exact .inr ⟨_, rfl, rfl⟩

/-- **Lines.** -/
theorem parse_raised (h : limits.Raised limits') (text : String) :
    Unlimited (parse text limits) (parse text limits') := by
  have hlength := checkLength_raised text (Int.ofNat_le.2 h.maxLength)
  exact (hlength.bind fun _ => .refl _).bind fun tokens =>
    build_raised (Int.ofNat_le.2 h.maxDepth) tokens text

theorem buildAll_raised {maxDepth maxDepth' : Int} (h : maxDepth ≤ maxDepth') (text : String)
    (found : List (List Token)) :
    Unlimited (buildAll maxDepth text found) (buildAll maxDepth' text found) := by
  induction found with
  | nil => exact .refl _
  | cons tokens found ih =>
    exact (build_raised h tokens text).bind fun _ => ih.bind fun _ => .refl _

/-- **Scripts.** Their statements are found before the nesting of the first one is looked at. -/
theorem parseScript_raised (h : limits.Raised limits') (text : String) :
    Unlimited (parseScript text limits) (parseScript text limits') := by
  have hlength := checkLength_raised text (Int.ofNat_le.2 h.maxLength)
  rcases hlength with hlength | ⟨error, hlength, hlimit⟩
  · have hbuild := buildAll_raised (Int.ofNat_le.2 h.maxDepth) text
      (textStatements text limits.maxLength).1
    have hfound : textStatements text limits'.maxLength = textStatements text limits.maxLength := by
      simp only [textStatements, hlength]
    simp only [parseScript, hfound]
    rcases hbuild with heq | ⟨error, herror, hlimit⟩
    · rw [heq]
      exact .refl _
    · rw [herror]
      exact .inr ⟨error, rfl, hlimit⟩
  · refine .inr ⟨error, ?_, hlimit⟩
    simp only [parseScript, textStatements, hlength, buildAll]

/-- **Inputs.** Under raised limits an input has the trees it had, and an input that could not be
read has the error it had, unless that was about a limit. -/
theorem Input.trees_raised (h : limits.Raised limits') (input : Input) :
    Unlimited (input.trees limits) (input.trees limits') := by
  cases input with
  | line text =>
    rcases parse_raised h text with heq | ⟨error, herror, hlimit⟩
    · simp only [trees, heq]
      exact .refl _
    · simp only [trees, herror]
      exact .inr ⟨error, rfl, hlimit⟩
  | script text => exact parseScript_raised h text
  | tree call => exact .refl _

end CommandShell
