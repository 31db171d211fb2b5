import CommandShell.Proofs.Grammar

/-!
# Writing and parsing calls

`Call.text` writes a call as a command line. A call can be the result of parsing if and only if it
is well formed: its names, and those of all calls in it, are words, and its literal texts have
balanced parentheses. Every well-formed call is what its own text is parsed to, so the texts of
two different calls always differ.

* `argText_charsAll` — a well-formed row of arguments is written as the grammar has it, at every
  depth;
* `ArgText.allWellFormed` — the grammar gives well-formed arguments only;
* `parse_text_round_trip` — what parsing makes of the text of a call, for every call and all limits.
-/

namespace CommandShell

mutual

/-- An argument that a command line can hold. -/
def Arg.WellFormed : Arg → Prop
  | literal text => Balanced text.toList
  | call name args => IsWord name.toList ∧ Arg.AllWellFormed args

/-- A row of arguments that a command line can hold. -/
def Arg.AllWellFormed : List Arg → Prop
  | [] => True
  | arg :: args => arg.WellFormed ∧ Arg.AllWellFormed args

end

/-- A call that a command line can hold: every name in it is a word, and every literal text in it
has balanced parentheses. -/
def Call.WellFormed (c : Call) : Prop := c.toArg.WellFormed

mutual

/-- Decides whether an argument is well formed. -/
def Arg.decWellFormed : (arg : Arg) → Decidable arg.WellFormed
  | literal text => inferInstanceAs (Decidable (Balanced text.toList))
  | call name args =>
    have := Arg.decAllWellFormed args
    inferInstanceAs (Decidable (IsWord name.toList ∧ Arg.AllWellFormed args))

/-- Decides whether a row of arguments is well formed. -/
def Arg.decAllWellFormed : (args : List Arg) → Decidable (Arg.AllWellFormed args)
  | [] => isTrue trivial
  | arg :: args =>
    have := arg.decWellFormed
    have := Arg.decAllWellFormed args
    inferInstanceAs (Decidable (arg.WellFormed ∧ Arg.AllWellFormed args))

end

instance : DecidablePred Call.WellFormed := fun call => call.toArg.decWellFormed

/-! ### Written calls are lines of the grammar -/

theorem isSeparator_space (depth : Nat) : IsSeparator depth [' '] :=
  isSeparator_cons.2 ⟨isBlank_space, fun _ => by decide, isSeparator_nil depth⟩

mutual

/-- A well-formed argument, written behind a space, in front of any row of arguments. -/
theorem Arg.argText_chars (depth : Nat) (afterWord : Bool) (cs : List Char) (args : List Arg)
    (hargs : ∀ after, ArgText depth after cs args) :
    (arg : Arg) → arg.WellFormed →
      ArgText depth afterWord (' ' :: (arg.chars ++ cs)) (arg :: args)
  | .literal text, h => by
    rw [Arg.WellFormed] at h
    rw [Arg.chars]
    split
    · rename_i hplain
      have hword := @ArgText.word depth afterWord _ _ _ _ (isSeparator_space depth)
        (fun _ => List.cons_ne_nil _ _) ((isPlainWord_iff text).1 hplain) (hargs true)
      rwa [String.ofList_toList] at hword
    · have hliteral := @ArgText.literal depth afterWord _ _ _ _ (isSeparator_space depth) h
        (hargs false)
      rw [String.ofList_toList] at hliteral
      simpa using hliteral
  | .call name inside, h => by
    rw [Arg.WellFormed] at h
    have hinside := argText_charsAll (depth + 1) true inside h.2
    have hcall := fun before hblank hmark => @ArgText.call depth afterWord _ before _ _ [] _ _ _
      (isSeparator_space depth) hblank h.1 hmark hinside nofun (hargs false)
    simp only [String.ofList_toList] at hcall
    rw [Arg.chars]
    split
    · have hspaced := hcall [' '] (isSeparator_space (depth + 1)).1 nofun
      simpa using hspaced
    · rename_i hmark
      have hdirect := hcall [] nofun fun _ hhead => hmark (by rw [startsWithMarker, hhead]; rfl)
      simpa using hdirect

/-- **Written arguments derive themselves.** -/
theorem argText_charsAll (depth : Nat) (afterWord : Bool) :
    (args : List Arg) → Arg.AllWellFormed args →
      ArgText depth afterWord (Arg.charsAll args) args
  | [], _ => .nil
  | arg :: args, h => by
    rw [Arg.AllWellFormed] at h
    rw [Arg.charsAll]
    exact Arg.argText_chars depth afterWord _ args
      (fun after => argText_charsAll depth after args h.2) arg h.1

end

/-- The text of a well-formed call is a line of the grammar for that call. -/
theorem lineText_text {call : Call} (h : call.WellFormed) : LineText call.text.toList call := by
  rw [Call.WellFormed, Call.toArg, Arg.WellFormed] at h
  have hline := @LineText.intro [] _ _ [] _ nofun h.1 (argText_charsAll 0 true call.args h.2) nofun
  rw [String.ofList_toList] at hline
  rw [Call.text, String.toList_ofList, Call.chars]
  simpa using hline

/-! ### Lines of the grammar give well-formed calls -/

theorem ArgText.allWellFormed {depth : Nat} {afterWord : Bool} {cs : List Char} {args : List Arg}
    (h : ArgText depth afterWord cs args) : Arg.AllWellFormed args := by
  induction h with
  | nil => trivial
  | word _ _ hw _ ih =>
    refine ⟨?_, ih⟩
    rw [Arg.WellFormed, String.toList_ofList, balanced_iff_nesting]
    exact nesting_of_neither hw.charSide 0
  | call _ _ hw _ _ _ _ ihInside ih =>
    refine ⟨?_, ih⟩
    rw [Arg.WellFormed, String.toList_ofList]
    exact ⟨hw, ihInside⟩
  | literal _ hraw _ ih =>
    refine ⟨?_, ih⟩
    rw [Arg.WellFormed, String.toList_ofList]
    exact hraw

theorem LineText.wellFormed {cs : List Char} {call : Call} (h : LineText cs call) :
    call.WellFormed := by
  obtain ⟨-, hw, hargs, -⟩ := h
  rw [Call.WellFormed, Call.toArg, Arg.WellFormed, String.toList_ofList]
  exact ⟨hw, hargs.allWellFormed⟩

/-- Limits that a call and its text keep. -/
def Call.roomyLimits (call : Call) : Limits :=
  { maxDepth := call.depth, maxLength := call.text.length + 1, maxLength_pos := Nat.succ_pos _ }

/-- **Writing and parsing.** The calls that parsing can give are the well-formed ones, and each of
them is given back by its own text, unless the text is too long or, failing that, the call too
deep. -/
theorem parse_text_round_trip (call : Call) :
    ((∃ text limits, parse text limits = .ok call) ↔ call.WellFormed) ∧
      (call.WellFormed → ∀ limits : Limits,
        (call.text.length ≤ limits.maxLength → call.depth ≤ limits.maxDepth →
          parse call.text limits = .ok call) ∧
        (limits.maxLength < call.text.length →
          ∃ e, parse call.text limits = .error e ∧ e.kind = .inputTooLong) ∧
        (call.text.length ≤ limits.maxLength → limits.maxDepth < call.depth →
          ∃ e, parse call.text limits = .error e ∧ e.kind = .depthExceeded)) := by
  refine ⟨⟨?_, ?_⟩, ?_⟩
  · rintro ⟨text, limits, h⟩
    exact (lineText_of_parse h).2.2.wellFormed
  · intro h
    exact ⟨call.text, call.roomyLimits,
      parse_lineText (lineText_text h) (Nat.le_succ _) (Nat.le_refl _)⟩
  · intro h limits
    refine ⟨fun hlen hdepth => parse_lineText (lineText_text h) hlen hdepth, ?_, ?_⟩
    · intro hlong
      obtain ⟨e, he, hdefect⟩ := parse_tooLong hlong
      exact ⟨e, he, by rw [ParseError.kind, hdefect]; rfl⟩
    · intro hlen hdeep
      obtain ⟨p, he⟩ := parse_lineText_deep (lineText_text h) hlen hdeep
      exact ⟨_, he, rfl⟩

/-- A call with an empty literal, a literal of several lines with parentheses, and a nested call
whose name starts with the marker. -/
def markedCall : Call :=
  ⟨"#", [.literal "", .literal "(\n) #", .call "#x" [.literal "#y", .call "z" []]]⟩

/-- The call above is given back by its text, and refused by limits that are one too small. -/
theorem parse_text_round_trip_marked :
    markedCall.WellFormed ∧ parse markedCall.text = .ok markedCall ∧
      ∃ e, parse markedCall.text { maxDepth := 1 } = .error e ∧ e.kind = .depthExceeded := by
  have h : markedCall.WellFormed := by decide
  have hlen : markedCall.text.length ≤ 10000 := by decide
  obtain ⟨-, hround⟩ := parse_text_round_trip markedCall
  exact ⟨h, (hround h .standard).1 hlen (by decide), (hround h _).2.2 hlen (by decide)⟩

end CommandShell
