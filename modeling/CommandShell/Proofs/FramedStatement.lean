import CommandShell.Proofs.StatementText

/-!
# What a framer hands on

A framer reads a stream chunk by chunk, and hands on a statement only after it has looked at every
character of it: a statement that was too long or closed too much is reported instead. So what it
hands on can still fail to parse in two ways only, by a call without a name and by its depth.

* `feedEach_eq_run` — how a stream is cut into chunks does not matter;
* `Sound.step`, `Sound.run` — what a framer holds is within its limit, nests as its splitter says
  and has no newline that ends a statement;
* `Reads.buildFrom_cases` — the builder, on the tokens of a text whose parentheses match;
* `framed_parse_cases` — **a framed statement parses, or has an empty command, or is too deep**.
-/

namespace CommandShell

namespace Framer

/-! ### Streams in chunks -/

/-- Takes chunks in order; gives the frames of all of them. -/
def feedEach (f : Framer) : List String → Framer × List StreamFrame
  | [] => (f, [])
  | chunk :: chunks =>
    let (f, frames) := f.feed chunk
    let (f, others) := feedEach f chunks
    (f, frames ++ others)

/-- **Chunks do not matter.** Chunks are taken as the characters of all of them in a row. -/
theorem feedEach_eq_run (f : Framer) (chunks : List String) :
    f.feedEach chunks = f.run (chunks.flatMap String.toList) := by
  induction chunks generalizing f with
  | nil => rfl
  | cons chunk chunks ih =>
    rw [feedEach, List.flatMap_cons, run_append, ← ih, feed_eq_run]

/-! ### What a framer holds -/

/-- A framer in a state that a stream can lead to. As long as it does not skip a statement, its
buffer is the statement so far. -/
structure Sound (f : Framer) : Prop where
  fits : (f.buffer.size : Int) ≤ f.maximum
  poisoned : f.splitter.poisoned = f.discarding
  gathered : f.discarding = false → f.overflowed = false →
    nesting charSide 0 f.buffer.toList = some f.splitter.depth ∧
      Splitter.Unbroken {} f.buffer.toList

/-- A statement that a framer may hand on. -/
structure Framed (maximum : Int) (cs : List Char) : Prop where
  not_blank : ¬ IsBlankRun cs
  fits : (cs.length : Int) ≤ maximum
  balanced : Balanced cs
  unbroken : Splitter.Unbroken {} cs

theorem sound_new {maximum : Int} (h : 0 ≤ maximum) : Sound { maximum } :=
  ⟨h, rfl, fun _ _ => ⟨rfl, trivial⟩⟩

/-- A newline that ends a statement makes the framer new again. -/
theorem step_of_ready {f : Framer} {c : Char} (h : (f.splitter.feed c).2 = .ready) :
    f.step c =
      ({ maximum := f.maximum },
        if f.discarding || f.overflowed || Text.allBlank f.pending then none
        else some (.statement f.pending)) := by
  obtain ⟨rfl, h0⟩ := (Splitter.feed_ready_iff f.splitter c).1 h
  obtain ⟨maximum, ⟨depth, poisoned⟩, buffer, discarding, overflowed⟩ := f
  obtain rfl : depth = 0 := h0
  simp only [step, Splitter.feed_newline_zero]
  rfl

theorem step_of_discard {f : Framer} {c : Char} (h : (f.splitter.feed c).2 = .discard) :
    f.step c =
      ({ f with splitter := (f.splitter.feed c).1, discarding := true, buffer := #[] },
        if f.discarding then none else some (.error .unbalanced)) := by
  unfold step
  rcases hfeed : f.splitter.feed c with ⟨s, advice⟩
  rw [hfeed] at h
  obtain rfl : advice = .discard := h
  rfl

theorem step_of_unready {f : Framer} {c : Char} (h : (f.splitter.feed c).2 = .unready) :
    f.step c =
      if f.overflowed then ({ f with splitter := (f.splitter.feed c).1 }, none)
      else if f.maximum < (f.buffer.push c).size then
        ({ f with splitter := (f.splitter.feed c).1, overflowed := true, buffer := #[] },
          some (.error (.tooLong f.maximum)))
      else ({ f with splitter := (f.splitter.feed c).1, buffer := f.buffer.push c }, none) := by
  unfold step
  rcases hfeed : f.splitter.feed c with ⟨s, advice⟩
  rw [hfeed] at h
  obtain rfl : advice = .unready := h
  rfl

end Framer

namespace Splitter

/-- A splitter that wants everything dropped is poisoned. -/
theorem poisoned_of_discard {s : Splitter} {c : Char} (h : (s.feed c).2 = .discard) :
    (s.feed c).1.poisoned = true := by
  obtain ⟨depth, poisoned⟩ := s
  have hready : (feed ⟨depth, poisoned⟩ c).2 ≠ .ready := by
    rw [h]
    exact nofun
  rcases feed_cases hready with ⟨rfl, rfl⟩ | ⟨e, hfeed, -⟩
  · rw [feed_close_zero]
  · rw [hfeed] at h ⊢
    cases poisoned with
    | true => rfl
    | false => cases h

/-- A splitter that keeps gathering is not poisoned, and follows the nesting. -/
theorem feed_of_unready {s : Splitter} {c : Char} (h : (s.feed c).2 = .unready) :
    s.poisoned = false ∧ (s.feed c).1.poisoned = false ∧
      ∀ cs, nesting charSide s.depth (c :: cs) = nesting charSide (s.feed c).1.depth cs := by
  obtain ⟨depth, poisoned⟩ := s
  have hready : (feed ⟨depth, poisoned⟩ c).2 ≠ .ready := by
    rw [h]
    exact nofun
  rcases feed_cases hready with ⟨rfl, rfl⟩ | ⟨e, hfeed, hnest⟩
  · rw [feed_close_zero] at h
    cases h
  · rw [hfeed] at h ⊢
    cases poisoned with
    | true => cases h
    | false => exact ⟨rfl, rfl, hnest⟩

/-- **Gathered characters.** Characters that never close more than is open and hold no end of a
statement lead the splitter to the depth to which they nest. -/
theorem feedAll_of_unbroken {d e : Nat} {cs : List Char} (h : nesting charSide d cs = some e)
    (hun : Unbroken ⟨d, false⟩ cs) : feedAll ⟨d, false⟩ cs = ⟨e, false⟩ := by
  induction cs generalizing d with
  | nil =>
    rw [nesting_nil, Option.some.injEq] at h
    rw [feedAll_nil, h]
  | cons c cs ih =>
    obtain ⟨hready, hun⟩ := hun
    rcases feed_cases hready with ⟨rfl, rfl⟩ | ⟨d', hfeed, hnest⟩
    · rw [nesting_closes_zero charSide_close] at h
      cases h
    · rw [hfeed] at hun
      rw [hnest] at h
      rw [feedAll_cons, hfeed]
      exact ih h hun

end Splitter

namespace Framer

/-- One more character is gathered: the buffer goes on to nest as the splitter says. -/
theorem Sound.push {f : Framer} (h : f.Sound) {c : Char}
    (hfeed : (f.splitter.feed c).2 = .unready) (hroom : ((f.buffer.push c).size : Int) ≤ f.maximum)
    (hoverflowed : f.overflowed = false) :
    Sound { f with splitter := (f.splitter.feed c).1, buffer := f.buffer.push c } := by
  obtain ⟨hclean, hclean', hnest⟩ := Splitter.feed_of_unready hfeed
  have hdiscarding : f.discarding = false := h.poisoned.symm.trans hclean
  obtain ⟨hnests, hun⟩ := h.gathered hdiscarding hoverflowed
  have hall : Splitter.feedAll {} f.buffer.toList = f.splitter := by
    rw [Splitter.feedAll_of_unbroken hnests hun, ← hclean]
  refine ⟨hroom, hclean'.trans hdiscarding.symm, fun _ _ => ⟨?_, ?_⟩⟩
  · show nesting charSide 0 (f.buffer.push c).toList = _
    rw [Array.toList_push, nesting_append, hnests, Option.bind_some, hnest]
    rfl
  · show Splitter.Unbroken {} (f.buffer.push c).toList
    rw [Array.toList_push, Splitter.unbroken_append, hall]
    refine ⟨hun, ?_, trivial⟩
    rw [hfeed]
    exact nofun

/-- **One character.** It leads from a sound state to a sound state, and the statement that it
completes, if any, is as it should be. -/
theorem Sound.step {f : Framer} (h : f.Sound) (c : Char) :
    (f.step c).1.Sound ∧ (f.step c).1.maximum = f.maximum ∧
      ∀ text, (f.step c).2 = some (.statement text) → Framed f.maximum text.toList := by
  have hmax : 0 ≤ f.maximum := by
    have := h.fits
    omega
  cases hfeed : (f.splitter.feed c).2 with
  | ready =>
    rw [step_of_ready hfeed]
    refine ⟨sound_new hmax, rfl, fun text htext => ?_⟩
    dsimp only at htext
    split at htext
    · cases htext
    · rename_i hkept
      simp only [Bool.or_eq_true, not_or, Bool.not_eq_true] at hkept
      obtain ⟨⟨hdiscarding, hoverflowed⟩, hblank⟩ := hkept
      cases htext
      have hdepth := ((Splitter.feed_ready_iff f.splitter c).1 hfeed).2
      obtain ⟨hnests, hun⟩ := h.gathered hdiscarding hoverflowed
      rw [hdepth] at hnests
      rw [pending, String.toList_ofList]
      refine ⟨fun hall => ?_, h.fits, (balanced_iff_nesting _).2 hnests, hun⟩
      rw [pending, Text.allBlank, String.toList_ofList, List.all_eq_true.2 hall] at hblank
      cases hblank
  | discard =>
    rw [step_of_discard hfeed]
    refine ⟨⟨hmax, Splitter.poisoned_of_discard hfeed, fun hno => by cases hno⟩, rfl,
      fun text htext => ?_⟩
    dsimp only at htext
    split at htext <;> cases htext
  | unready =>
    obtain ⟨hclean, hclean', -⟩ := Splitter.feed_of_unready hfeed
    have hpoisoned : (f.splitter.feed c).1.poisoned = f.discarding :=
      hclean'.trans (hclean.symm.trans h.poisoned)
    rw [step_of_unready hfeed]
    split
    · rename_i hoverflowed
      refine ⟨⟨h.fits, hpoisoned, fun _ hno => ?_⟩, rfl, fun text htext => by cases htext⟩
      exact absurd hoverflowed (by rw [hno]; exact Bool.false_ne_true)
    · rename_i hoverflowed
      split
      · exact ⟨⟨hmax, hpoisoned, fun _ hno => by cases hno⟩, rfl, fun text htext => by cases htext⟩
      · rename_i hroom
        exact ⟨h.push hfeed (by omega) (Bool.eq_false_iff.2 hoverflowed), rfl,
          fun text htext => by cases htext⟩

/-- **Streams.** Every statement that a framer in a sound state hands on is as it should be. -/
theorem Sound.run {f : Framer} (h : f.Sound) (cs : List Char) {text : String}
    (hmem : .statement text ∈ (f.run cs).2) : Framed f.maximum text.toList := by
  induction cs generalizing f with
  | nil => cases hmem
  | cons c cs ih =>
    obtain ⟨hsound, hmaximum, hframed⟩ := h.step c
    rw [Framer.run, List.mem_append, Option.mem_toList] at hmem
    rcases hmem with hnow | hlater
    · exact hframed text hnow
    · rw [← hmaximum]
      exact ih hsound hlater

/-- In a statement that is handed on, every newline stands inside parentheses. -/
theorem Framed.newline_inside {maximum : Int} {cs before after : List Char}
    (h : Framed maximum cs) (hsplit : cs = before ++ '\n' :: after) :
    before.count ')' < before.count '(' := by
  have hnest := (balanced_iff_nesting cs).1 h.balanced
  have hun := h.unbroken
  rw [hsplit, Splitter.unbroken_append] at hun
  rw [hsplit, nesting_append] at hnest
  obtain ⟨e, he, -⟩ := Option.bind_eq_some_iff.1 hnest
  have hdepth : e ≠ 0 := by
    rintro rfl
    -- At a depth of zero the splitter would have been ready.
    rw [Splitter.feedAll_of_unbroken he hun.1] at hun
    exact hun.2.1 ((Splitter.feed_ready_iff _ _).2 ⟨rfl, rfl⟩)
  have hcount := ((nesting_eq_some_iff charSide 0 e before).1 he).2
  rw [countSide_opens, countSide_closes] at hcount
  omega

end Framer

/-! ### Trees of matched parentheses -/

/-- How many calls are open around a scope. -/
def Scope.level : Scope → Nat
  | .fresh outer | .named _ outer => outer.length

/-- The defects that are left for the builder where all parentheses match: a name that is missing,
and a nesting that is too deep. -/
def Defect.IsOfShape (d : Defect) : Prop := d.kind = .emptyCommand ∨ d.kind = .depthExceeded

/-- A tree, or a defect of its shape. -/
def BuildsOrShape (result : Except Located Call) : Prop :=
  (∃ call, result = .ok call) ∨ ∃ defect p, result = .error (defect, p) ∧ defect.IsOfShape

/-- No text is read into tokens that start with the marker of a literal. -/
theorem Reads.ne_marker {depth p : Nat} {cs : List Char} {tokens : List Token}
    (h : Reads depth p cs tokens) : ∀ q rest, tokens ≠ .marker q :: rest := by
  induction h with
  | nil => exact nofun
  | blank _ _ _ ih => exact ih
  | piece hp _ _ => cases hp <;> exact nofun

/-- **The builder on matched parentheses.** Where the tokens of a text close what is open around
them and no more, the builder gives a tree or finds a defect of its shape. -/
theorem Reads.buildFrom_cases {depth p : Nat} {cs : List Char} {tokens : List Token}
    (h : Reads depth p cs tokens) (maxDepth : Int) (scope : Scope)
    (hnest : nesting Token.side scope.level tokens = some 0) :
    BuildsOrShape (buildFrom maxDepth scope tokens) := by
  induction h generalizing scope with
  | nil =>
    cases scope with
    | fresh outer =>
      rw [buildFrom]
      exact .inr ⟨_, _, rfl, .inl rfl⟩
    | named frame outer =>
      rw [buildFrom]
      exact .inl ⟨_, rfl⟩
  | blank _ _ _ ih => exact ih scope hnest
  | piece hp hrest ih =>
    cases hp with
    | word hw _ =>
      rw [List.singleton_append, nesting_neither rfl] at hnest
      cases scope with
      | fresh outer =>
        rw [List.singleton_append, buildFrom]
        exact ih _ hnest
      | named frame outer =>
        rw [List.singleton_append, buildFrom]
        exact ih _ hnest
    | opening _ =>
      rw [List.singleton_append, nesting_opens rfl] at hnest
      cases scope with
      | fresh outer =>
        rw [List.singleton_append, buildFrom]
        exact .inr ⟨_, _, rfl, .inl rfl⟩
      | named frame outer =>
        rw [List.singleton_append, buildFrom_opening hrest.ne_marker]
        split
        · exact .inr ⟨_, _, rfl, .inr rfl⟩
        · exact ih _ hnest
    | closing =>
      cases scope with
      | fresh outer =>
        rw [List.singleton_append, buildFrom]
        exact .inr ⟨_, _, rfl, .inl rfl⟩
      | named frame outer =>
        cases outer with
        | nil =>
          rw [List.singleton_append, Scope.level, List.length_nil,
            nesting_closes_zero rfl] at hnest
          cases hnest
        | cons parent outer =>
          rw [List.singleton_append, Scope.level, List.length_cons,
            nesting_closes_succ rfl] at hnest
          rw [List.singleton_append, buildFrom]
          exact ih _ hnest
    | literal _ =>
      have hinside : nesting Token.side scope.level _ = some 0 := hnest
      simp only [List.cons_append, List.nil_append] at hinside ⊢
      rw [nesting_opens rfl, nesting_neither rfl, nesting_neither rfl, nesting_closes_succ rfl]
        at hinside
      cases scope with
      | fresh outer =>
        rw [buildFrom]
        exact .inr ⟨_, _, rfl, .inl rfl⟩
      | named frame outer =>
        rw [buildFrom]
        exact ih _ hinside

/-- Tokens that close all that is open around them, and no more, are balanced. -/
theorem imbalance_of_nesting (opened : List Int) {tokens : List Token}
    (h : nesting Token.side opened.length tokens = some 0) : imbalance opened tokens = none := by
  fun_induction imbalance opened tokens with
  | case1 opened =>
    cases opened with
    | nil => rfl
    | cons p opened => cases h
  | case2 opened p tokens ih => exact ih h
  | case3 p tokens => cases h
  | case4 p tokens q opened ih => exact ih h
  | case5 opened token tokens hopening hclosing ih =>
    cases token with
    | opening p => exact absurd rfl (hopening p)
    | closing p => exact absurd rfl (hclosing p)
    | _ => exact ih h

theorem kind_located (text : Option String) (defect : Defect) (p : Option Int) :
    (located text (defect, p)).kind = defect.kind := by
  unfold located
  split
  · rename_i h
    cases h
    rfl
  · rename_i h
    cases h
    rfl
  · rename_i h
    cases h
    rfl

/-- **Balanced statements.** A statement as a framer hands it on is parsed, or it lacks the name of
a command, or it is too deep. -/
theorem Framer.Framed.parse_cases {limits : Limits} {text : String}
    (h : Framer.Framed limits.maxLength text.toList) :
    (∃ call, parse text limits = .ok call) ∨
      ∃ error, parse text limits = .error error ∧
        (error.kind = .emptyCommand ∨ error.kind = .depthExceeded) := by
  have hnest := (balanced_iff_nesting _).1 h.balanced
  have hend : (Splitter.feedAll {} text.toList).depth = 0 := by
    rw [Splitter.feedAll_of_unbroken hnest h.unbroken]
  obtain ⟨tokens, htokens, -⟩ := exists_isStatement h.unbroken hend 0
  have hread := statementAt_eq_ok_none_iff.1 htokens
  have hmatched : nesting Token.side 0 tokens = some 0 := (hread.nesting_eq 0).trans hnest
  have htokenize : tokenize text limits.maxLength = .ok tokens := by
    cases tokens with
    | nil => exact absurd hread.isBlankRun h.not_blank
    | cons token tokens =>
      refine tokenize_of_reads ?_ hread
      rw [← String.length_toList]
      exact h.fits
  have hbalance : checkBalance tokens (some text) = .ok () := by
    rw [checkBalance, imbalance_of_nesting [] hmatched]
  rw [parse, htokenize]
  show (∃ call, build tokens limits.maxDepth (some text) = .ok call) ∨
    ∃ error, build tokens limits.maxDepth (some text) = .error error ∧ _
  rw [build_eq_bind, hbalance]
  rcases hread.buildFrom_cases limits.maxDepth (.fresh []) hmatched with
    ⟨call, hcall⟩ | ⟨defect, p, herror, hshape⟩
  · rw [hcall]
    exact .inl ⟨call, rfl⟩
  · rw [herror]
    refine .inr ⟨located (some text) (defect, p), rfl, ?_⟩
    rw [kind_located]
    exact hshape

/-- **Framing errors are complete.** Whatever chunks a framer is fed, a statement that it hands on
is not blank, has at most the allowed number of characters, balanced parentheses and no newline
outside of them; and under limits of that length and any depth it is parsed, unless a command in it
has no name or is nested too deep. -/
theorem framed_parse_cases (limits : Limits) (chunks : List String) (text : String)
    (hmem : .statement text ∈ (({ maximum := limits.maxLength } : Framer).feedEach chunks).2) :
    Text.allBlank text = false ∧ text.length ≤ limits.maxLength ∧ Balanced text.toList ∧
      (∀ before after, text.toList = before ++ '\n' :: after →
        before.count ')' < before.count '(') ∧
      ((∃ call, parse text limits = .ok call) ∨
        ∃ error, parse text limits = .error error ∧
          (error.kind = .emptyCommand ∨ error.kind = .depthExceeded)) := by
  rw [Framer.feedEach_eq_run] at hmem
  have hnew : Framer.Sound { maximum := limits.maxLength } :=
    Framer.sound_new (Int.natCast_nonneg _)
  have hframed := hnew.run _ hmem
  refine ⟨?_, ?_, hframed.balanced, fun before after => hframed.newline_inside,
    hframed.parse_cases⟩
  · rw [← Bool.not_eq_true]
    exact fun hblank => hframed.not_blank (List.all_eq_true.1 hblank)
  · have hfits := hframed.fits
    rw [String.length_toList] at hfits
    exact Int.ofNat_le.1 hfits

/-- A stream in chunks that cut through statements: one that is too long, one that closes too much,
a blank one, and three that are handed on. -/
def choppedStream : List String :=
  ["put (get", "\nk)\n0123456789abcdefg\n x) (\n", ")\n \n(", ") z\nput (#)", "\n"]

/-- The first of them is too deep for a limit of zero, the second has no name, and the last one is
parsed. -/
theorem framed_parse_cases_chopped :
    (({ maximum := 16 } : Framer).feedEach choppedStream).2 =
      [.statement "put (get\nk)", .error (.tooLong 16), .error .unbalanced, .statement "() z",
        .statement "put (#)"] ∧
    Balanced "put (get\nk)".toList ∧
    (∀ text ∈ ["put (get\nk)", "() z", "put (#)"],
      (∃ call, parse text { maxDepth := 0, maxLength := 16 } = .ok call) ∨
        ∃ error, parse text { maxDepth := 0, maxLength := 16 } = .error error ∧
          (error.kind = .emptyCommand ∨ error.kind = .depthExceeded)) := by
  have hframes : (({ maximum := 16 } : Framer).feedEach choppedStream).2 =
      [.statement "put (get\nk)", .error (.tooLong 16), .error .unbalanced, .statement "() z",
        .statement "put (#)"] := by decide
  have hmem : ∀ text ∈ ["put (get\nk)", "() z", "put (#)"],
      .statement text ∈ (({ maximum := 16 } : Framer).feedEach choppedStream).2 := by
    rw [hframes]
    decide
  have hall := fun text htext => framed_parse_cases { maxDepth := 0, maxLength := 16 }
    choppedStream text (hmem text htext)
  exact ⟨hframes, (hall _ (by decide)).2.2.1, fun text htext => (hall text htext).2.2.2.2⟩

end CommandShell
