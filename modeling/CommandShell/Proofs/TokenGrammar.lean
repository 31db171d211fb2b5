import CommandShell.Proofs.Balance
import CommandShell.Tree.Build

/-!
# The grammar of tokens

A statement is a call: a word that names it and a row of arguments. An argument is a word, a call
in parentheses, or the four tokens of a literal region. `ArgTokens` is this grammar, without any
stack and without any limit.

* `buildFrom_argTokens`, `buildFrom_argTokens_deep` — the builder reads a row of arguments from any
  state, whatever follows the row, if its calls fit under the limit, and reports the limit if they
  do not;
* `completed_of_buildFrom` — whatever balanced tokens the builder accepts are a row of arguments
  behind each call that is open;
* `build_eq_ok_iff` — so the builder accepts exactly the tokens of a call within the limit.
-/

namespace CommandShell

/-- The tokens that spell a row of arguments, at any positions. -/
inductive ArgTokens : List Token → List Arg → Prop
  | nil : ArgTokens [] []
  | word {text : String} {p : Int} {tokens : List Token} {args : List Arg} :
      ArgTokens tokens args → ArgTokens (.word text p :: tokens) (.literal text :: args)
  | literal {text : String} {p q r s : Int} {tokens : List Token} {args : List Arg} :
      ArgTokens tokens args →
      ArgTokens (.opening p :: .marker q :: .word text r :: .closing s :: tokens)
        (.literal text :: args)
  | call {name : String} {p q r : Int} {inner tokens : List Token} {inside args : List Arg} :
      ArgTokens inner inside → ArgTokens tokens args →
      ArgTokens (.opening p :: .word name q :: (inner ++ .closing r :: tokens))
        (.call name inside :: args)

/-- The tokens that spell a call: its name and its arguments. -/
def CallTokens (tokens : List Token) (call : Call) : Prop :=
  ∃ p row, tokens = .word call.name p :: row ∧ ArgTokens row call.args

/-! ### Frames -/

namespace Frame

/-- The frame with a row of further arguments. -/
def pushAll (f : Frame) (args : List Arg) : Frame := { f with args := args.reverse ++ f.args }

@[simp] theorem pushAll_nil (f : Frame) : f.pushAll [] = f := rfl

theorem pushAll_cons (f : Frame) (arg : Arg) (args : List Arg) :
    f.pushAll (arg :: args) = (f.push arg).pushAll args := by
  simp [pushAll, push]

/-- A call that was opened with a name and then given arguments is that call. -/
theorem close_pushAll (name : String) (args : List Arg) :
    (pushAll ⟨name, []⟩ args).close = ⟨name, args⟩ := by
  simp [pushAll, close]

end Frame

/-! ### Balance of derived tokens -/

theorem imbalance_argTokens {row : List Token} {args : List Arg} (h : ArgTokens row args)
    (opened : List Int) (rest : List Token) :
    imbalance opened (row ++ rest) = imbalance opened rest := by
  induction h generalizing opened rest with
  | nil => rfl
  | word _ ih => simpa only [List.cons_append, imbalance] using ih opened rest
  | literal _ ih => simpa only [List.cons_append, imbalance] using ih opened rest
  | call _ _ ihInner ih =>
    rw [List.cons_append, List.cons_append, List.append_assoc, imbalance, imbalance]
    · rw [ihInner, List.cons_append, imbalance]
      exact ih opened rest
    · intro _ h
      cases h
    · intro _ h
      cases h

theorem checkBalance_callTokens {tokens : List Token} {call : Call} (h : CallTokens tokens call)
    (text : Option String) : checkBalance tokens text = .ok () := by
  obtain ⟨p, row, rfl, hrow⟩ := h
  have hb : imbalance [] (.word call.name p :: row) = none := by
    rw [imbalance]
    · have := imbalance_argTokens hrow [] []
      rw [List.append_nil] at this
      rw [this]
      rfl
    · intro _ h
      cases h
    · intro _ h
      cases h
  rw [checkBalance, hb]

/-! ### The builder reads what the grammar derives -/

/-- A parenthesis that no marker follows opens a scope, if the limit allows it. -/
theorem buildFrom_opening {tokens : List Token} (h : ∀ q rest, tokens ≠ .marker q :: rest)
    (maxDepth : Int) (frame : Frame) (outer : List Frame) (p : Int) :
    buildFrom maxDepth (.named frame outer) (.opening p :: tokens) =
      if maxDepth < outer.length + 1 then
        .error (.tooDeep (outer.length + 1) maxDepth, some p)
      else buildFrom maxDepth (.fresh (frame :: outer)) tokens := by
  rw [buildFrom]
  · exact fun q _ _ _ _ => h q _
  · exact h

/-- **Rows that fit.** The builder reads a row of arguments into the innermost call, if the calls
of the row fit under the limit. -/
theorem buildFrom_argTokens {row : List Token} {args : List Arg} (h : ArgTokens row args)
    {maxDepth : Int} (frame : Frame) (outer : List Frame) (rest : List Token)
    (hfit : (outer.length + Arg.heights args : Int) ≤ maxDepth) :
    buildFrom maxDepth (.named frame outer) (row ++ rest) =
      buildFrom maxDepth (.named (frame.pushAll args) outer) rest := by
  induction h generalizing frame outer rest with
  | nil => rfl
  | word _ ih =>
    rw [Arg.heights, Arg.height, Nat.zero_max] at hfit
    rw [List.cons_append, buildFrom, Frame.pushAll_cons]
    exact ih _ outer rest hfit
  | literal _ ih =>
    rw [Arg.heights, Arg.height, Nat.zero_max] at hfit
    simp only [List.cons_append, buildFrom, Frame.pushAll_cons]
    exact ih _ outer rest hfit
  | @call name p q r inner tokens inside args _ _ ihInner ih =>
    rw [Arg.heights, Arg.height] at hfit
    have hroom : ¬ maxDepth < (outer.length + 1 : Int) := by omega
    have hinner : ((frame :: outer).length + Arg.heights inside : Int) ≤ maxDepth := by
      rw [List.length_cons]
      omega
    have houter : (outer.length + Arg.heights args : Int) ≤ maxDepth := by omega
    simp only [List.cons_append, List.append_assoc, buildFrom]
    rw [if_neg hroom, ihInner ⟨name, []⟩ (frame :: outer) _ hinner, buildFrom,
      Frame.close_pushAll, ih _ outer rest houter, Frame.pushAll_cons]
    rfl

/-- **Rows that are too deep.** From a state within the limit, a row whose calls do not fit ends in
the report of the first call that is one level too deep. -/
theorem buildFrom_argTokens_deep {row : List Token} {args : List Arg} (h : ArgTokens row args)
    {maxDepth : Int} (frame : Frame) (outer : List Frame) (rest : List Token)
    (hwithin : (outer.length : Int) ≤ maxDepth)
    (hdeep : maxDepth < (outer.length + Arg.heights args : Int)) :
    ∃ p, buildFrom maxDepth (.named frame outer) (row ++ rest) =
      .error (.tooDeep (maxDepth.toNat + 1) maxDepth, some p) := by
  induction h generalizing frame outer rest with
  | nil =>
    rw [Arg.heights] at hdeep
    omega
  | word _ ih =>
    rw [Arg.heights, Arg.height, Nat.zero_max] at hdeep
    rw [List.cons_append, buildFrom]
    exact ih _ outer rest hwithin hdeep
  | literal _ ih =>
    rw [Arg.heights, Arg.height, Nat.zero_max] at hdeep
    simp only [List.cons_append, buildFrom]
    exact ih _ outer rest hwithin hdeep
  | @call name p q r inner tokens inside args hinner _ ihInner ih =>
    rw [Arg.heights, Arg.height] at hdeep
    simp only [List.cons_append, List.append_assoc, buildFrom]
    by_cases hroom : maxDepth < (outer.length + 1 : Int)
    · have hdepth : outer.length = maxDepth.toNat := by omega
      rw [if_pos hroom, hdepth]
      exact ⟨p, rfl⟩
    · rw [if_neg hroom]
      have hwithin' : ((frame :: outer).length : Int) ≤ maxDepth := by
        rw [List.length_cons]
        omega
      by_cases hfit : ((frame :: outer).length + Arg.heights inside : Int) ≤ maxDepth
      · -- The call itself fits, so one of the later arguments is too deep.
        rw [buildFrom_argTokens hinner ⟨name, []⟩ (frame :: outer) _ hfit, buildFrom]
        rw [List.length_cons] at hfit
        exact ih _ outer rest hwithin (by omega)
      · exact ihInner ⟨name, []⟩ (frame :: outer) _ hwithin' (by omega)

/-! ### The grammar derives what the builder reads -/

/-- Tokens that complete the open calls to a call: a row of arguments for the innermost one, and
behind each closing parenthesis a row for the next one. -/
inductive Completes : Frame → List Frame → List Token → Call → Prop
  | root {frame : Frame} {row : List Token} {args : List Arg} :
      ArgTokens row args → Completes frame [] row (frame.pushAll args).close
  | inner {frame parent : Frame} {outer : List Frame} {row tokens : List Token} {args : List Arg}
      {p : Int} {call : Call} :
      ArgTokens row args →
      Completes (parent.push (frame.pushAll args).close.toArg) outer tokens call →
      Completes frame (parent :: outer) (row ++ .closing p :: tokens) call

/-- An argument in front of completing tokens goes to the innermost call. -/
theorem Completes.cons {frame : Frame} {outer : List Frame} {item tokens : List Token} {arg : Arg}
    {call : Call} (h : Completes (frame.push arg) outer tokens call)
    (hitem : ∀ row args, ArgTokens row args → ArgTokens (item ++ row) (arg :: args)) :
    Completes frame outer (item ++ tokens) call := by
  cases h with
  | root hrow =>
    rw [← Frame.pushAll_cons]
    exact .root (hitem _ _ hrow)
  | inner hrow hrest =>
    rw [← Frame.pushAll_cons] at hrest
    rw [← List.append_assoc]
    exact .inner (hitem _ _ hrow) hrest

/-- Tokens that complete a scope to a call; a fresh scope is due its name first. -/
def Scope.Completed : Scope → List Token → Call → Prop
  | .named frame outer, tokens, call => Completes frame outer tokens call
  | .fresh outer, tokens, call =>
    ∃ name p row, tokens = .word name p :: row ∧ Completes ⟨name, []⟩ outer row call

/-- How many calls are open around the innermost scope. -/
def Scope.around : Scope → Nat
  | .named _ outer | .fresh outer => outer.length

/-- **Accepted tokens are derived.** If the builder accepts tokens that close each open call once
and nothing else, they complete the open calls to its result. -/
theorem completed_of_buildFrom {maxDepth : Int} {scope : Scope} {tokens : List Token}
    {call : Call} (opened : List Int) (hlen : opened.length = scope.around)
    (hbal : imbalance opened tokens = none) :
    buildFrom maxDepth scope tokens = .ok call → scope.Completed tokens call := by
  fun_induction buildFrom maxDepth scope tokens generalizing opened with
  | case1 => exact nofun
  | case2 frame outer =>
    intro h
    cases h
    cases outer with
    | nil => exact .root .nil
    | cons parent outer =>
      -- An open call would be an open parenthesis, which balance excludes.
      cases opened with
      | nil => cases hlen
      | cons p opened => simp [imbalance] at hbal
  | case3 => exact nofun
  | case4 => exact nofun
  | case5 outer text p tokens ih =>
    intro h
    exact ⟨text, p, tokens, rfl, ih opened hlen (by simpa [imbalance] using hbal) h⟩
  | case6 frame outer p q text r s tokens ih =>
    intro h
    have hrest : Completes (frame.push (.literal text)) outer tokens call :=
      ih opened hlen (by simpa [imbalance] using hbal) h
    have hitem : ∀ row args, ArgTokens row args →
        ArgTokens ([.opening p, .marker q, .word text r, .closing s] ++ row)
          (.literal text :: args) := fun _ _ hrow => .literal hrow
    exact hrest.cons hitem
  | case7 => exact nofun
  | case8 => exact nofun
  | case9 frame outer p tokens _ _ _ ih =>
    intro h
    obtain ⟨name, q, row, rfl, hrow⟩ :=
      ih (p :: opened) (by rw [List.length_cons, hlen]; rfl) (by simpa [imbalance] using hbal) h
    -- The new scope ends with a parenthesis of its own; behind it goes on what was open before.
    cases hrow with
    | @inner _ _ _ row tokens inside r _ hinner hrest =>
      rw [Frame.close_pushAll] at hrest
      have hitem : ∀ later args, ArgTokens later args →
          ArgTokens ((.opening p :: .word name q :: (row ++ [.closing r])) ++ later)
            (.call name inside :: args) := by
        intro later args hlater
        simpa using @ArgTokens.call name p q r row later inside args hinner hlater
      have hall := hrest.cons hitem
      rw [List.cons_append, List.cons_append, List.append_assoc] at hall
      exact hall
  | case10 frame parent outer p tokens ih =>
    intro h
    cases opened with
    | nil => cases hlen
    | cons q opened =>
      have hrest : Completes (parent.push frame.close.toArg) outer tokens call :=
        ih opened (Nat.succ.inj hlen) (by simpa [imbalance] using hbal) h
      rw [← List.nil_append (Token.closing p :: tokens)]
      exact .inner .nil hrest
  | case11 => exact nofun
  | case12 frame outer text p tokens ih =>
    intro h
    have hrest : Completes (frame.push (.literal text)) outer tokens call :=
      ih opened hlen (by simpa [imbalance] using hbal) h
    have hitem : ∀ row args, ArgTokens row args →
        ArgTokens ([.word text p] ++ row) (.literal text :: args) := fun _ _ hrow => .word hrow
    exact hrest.cons hitem
  | case13 => exact nofun
  | case14 => exact nofun

/-! ### The builder and the grammar -/

/-- A derived statement is built, or refused for its depth alone. -/
theorem build_callTokens {tokens : List Token} {call : Call} (h : CallTokens tokens call)
    {maxDepth : Int} (text : Option String) (hfit : (call.depth : Int) ≤ maxDepth) :
    build tokens maxDepth text = .ok call := by
  rw [build, checkBalance_callTokens h text]
  obtain ⟨p, row, rfl, hrow⟩ := h
  have hfit' : (([] : List Frame).length + Arg.heights call.args : Int) ≤ maxDepth := by
    simpa [Call.depth] using hfit
  have hrun := buildFrom_argTokens hrow ⟨call.name, []⟩ [] [] hfit'
  rw [List.append_nil, buildFrom, Frame.close_pushAll] at hrun
  have hbuild : buildFrom maxDepth (.fresh []) (.word call.name p :: row) = .ok call := by
    rw [buildFrom, hrun]
  simp only [hbuild]
  rfl

theorem build_callTokens_deep {tokens : List Token} {call : Call} (h : CallTokens tokens call)
    {maxDepth : Int} (hmax : 0 ≤ maxDepth) (text : Option String)
    (hdeep : maxDepth < (call.depth : Int)) :
    ∃ p, build tokens maxDepth text =
      .error (.pointing text (.tooDeep (maxDepth.toNat + 1) maxDepth) p) := by
  rw [build, checkBalance_callTokens h text]
  obtain ⟨p, row, rfl, hrow⟩ := h
  have hdeep' : maxDepth < (([] : List Frame).length + Arg.heights call.args : Int) := by
    simpa [Call.depth] using hdeep
  obtain ⟨q, hrun⟩ := buildFrom_argTokens_deep hrow ⟨call.name, []⟩ [] [] hmax hdeep'
  rw [List.append_nil] at hrun
  have hbuild : buildFrom maxDepth (.fresh []) (.word call.name p :: row) =
      .error (.tooDeep (maxDepth.toNat + 1) maxDepth, some q) := by
    rw [buildFrom, hrun]
  refine ⟨q, ?_⟩
  simp only [hbuild]
  rfl

theorem callTokens_of_build {tokens : List Token} {call : Call} {maxDepth : Int}
    {text : Option String} (h : build tokens maxDepth text = .ok call) :
    CallTokens tokens call := by
  rw [build] at h
  cases hbal : imbalance [] tokens with
  | some found =>
    rw [checkBalance, hbal] at h
    cases h
  | none =>
    rw [checkBalance, hbal] at h
    cases hbuild : buildFrom maxDepth (.fresh []) tokens with
    | error e =>
      simp only [hbuild] at h
      cases h
    | ok built =>
      obtain rfl : built = call := by
        simp only [hbuild] at h
        cases h
        rfl
      obtain ⟨name, p, row, rfl, hrow⟩ := completed_of_buildFrom [] rfl hbal hbuild
      cases hrow with
      | root hargs =>
        rw [Frame.close_pushAll]
        exact ⟨p, row, rfl, hargs⟩

/-- **The builder accepts exactly the token grammar**, within the limit of depth. -/
theorem build_eq_ok_iff (tokens : List Token) {maxDepth : Int} (hmax : 0 ≤ maxDepth)
    (text : Option String) (call : Call) :
    build tokens maxDepth text = .ok call ↔
      (call.depth : Int) ≤ maxDepth ∧ CallTokens tokens call := by
  constructor
  · intro h
    have htokens := callTokens_of_build h
    refine ⟨Int.not_lt.1 fun hdeep => ?_, htokens⟩
    obtain ⟨p, herror⟩ := build_callTokens_deep htokens hmax text hdeep
    rw [h] at herror
    cases herror
  · rintro ⟨hfit, htokens⟩
    exact build_callTokens htokens text hfit

end CommandShell
