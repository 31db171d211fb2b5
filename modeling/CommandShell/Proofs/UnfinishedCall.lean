import CommandShell.Proofs.FramedStatement

/-!
# Calls that are not finished

Where the builder stops, it has read the beginning of a call: the tokens so far would be a call if
only its open parentheses were closed. `Unfinished` says so in terms of the grammar, without any
frame: behind a call stand an opening parenthesis and the call inside it, as often as parentheses
are open.

* `Unfinished.row`, `Unfinished.closed` — what a further argument, and what a closing parenthesis
  does to the beginning of a call;
* `buildFrom_tooDeep` — the builder reports the depth only at the parenthesis of a call behind a
  beginning with as many open parentheses as the limit allows;
* `Unfinished.buildFrom_cases` — conversely, it reads every such beginning, or reports the depth
  inside it;
* `build_depthExceeded_iff` — **so the depth is reported exactly where balanced tokens have a call
  beyond the limit in front of any other defect**.
-/

namespace CommandShell

/-! ### Beginnings of calls -/

/-- The tokens begin a call and leave `n` of its parentheses open: what stands between them, and
behind the last one, are calls as far as they go. -/
def Unfinished : Nat → List Token → Prop
  | 0, tokens => ∃ call, CallTokens tokens call
  | n + 1, tokens => ∃ front p inner call,
      tokens = front ++ .opening p :: inner ∧ Unfinished n front ∧ CallTokens inner call

/-- Two rows of arguments are one row. -/
theorem ArgTokens.append {row later : List Token} {args others : List Arg}
    (h : ArgTokens row args) (hlater : ArgTokens later others) :
    ArgTokens (row ++ later) (args ++ others) := by
  induction h with
  | nil => exact hlater
  | word _ ih => exact .word ih
  | literal _ ih => exact .literal ih
  | call hinner _ _ ih =>
    rw [List.cons_append, List.cons_append, List.append_assoc]
    exact .call hinner ih

theorem CallTokens.row {tokens row : List Token} {call : Call} {args : List Arg}
    (h : CallTokens tokens call) (hrow : ArgTokens row args) :
    CallTokens (tokens ++ row) ⟨call.name, call.args ++ args⟩ := by
  obtain ⟨p, own, rfl, hown⟩ := h
  exact ⟨p, own ++ row, rfl, hown.append hrow⟩

/-- A call in parentheses is an argument. -/
theorem CallTokens.argTokens {tokens : List Token} {call : Call} (h : CallTokens tokens call)
    (p r : Int) : ArgTokens (.opening p :: (tokens ++ [.closing r])) [call.toArg] := by
  obtain ⟨q, row, rfl, hrow⟩ := h
  exact .call hrow .nil

/-- A row of arguments goes to the innermost call. -/
theorem Unfinished.row {n : Nat} {tokens row : List Token} {args : List Arg}
    (h : Unfinished n tokens) (hrow : ArgTokens row args) : Unfinished n (tokens ++ row) := by
  cases n with
  | zero =>
    obtain ⟨call, hcall⟩ := h
    exact ⟨_, hcall.row hrow⟩
  | succ n =>
    obtain ⟨front, p, inner, call, rfl, hfront, hcall⟩ := h
    exact ⟨front, p, inner ++ row, _, by simp, hfront, hcall.row hrow⟩

/-- A closing parenthesis makes the innermost call an argument of the one around it. -/
theorem Unfinished.closed {n : Nat} {tokens : List Token} (h : Unfinished (n + 1) tokens)
    (r : Int) : Unfinished n (tokens ++ [.closing r]) := by
  obtain ⟨front, p, inner, call, rfl, hfront, hcall⟩ := h
  rw [List.append_assoc]
  exact hfront.row (hcall.argTokens p r)

/-! ### What the builder has read -/

/-- The tokens behind which the builder stands in a scope: a call that is begun, or a parenthesis
behind one where the name is due. -/
def Scope.Behind : Scope → List Token → Prop
  | .named _ outer, read => Unfinished outer.length read
  | .fresh [], read => read = []
  | .fresh (_ :: outer), read =>
    ∃ front p, read = front ++ [.opening p] ∧ Unfinished outer.length front

theorem Scope.Behind.named {outer : List Frame} {read : List Token}
    (h : (Scope.fresh outer).Behind read) (name : String) (p : Int) (frame : Frame) :
    (Scope.named frame outer).Behind (read ++ [.word name p]) := by
  have hname : CallTokens [.word name p] ⟨name, []⟩ := ⟨p, [], rfl, .nil⟩
  cases outer with
  | nil =>
    obtain rfl : read = [] := h
    exact ⟨_, hname⟩
  | cons parent outer =>
    obtain ⟨front, q, rfl, hfront⟩ := h
    exact ⟨front, q, [.word name p], _, by simp, hfront, hname⟩

/-- The tokens have a parenthesis of a call that is nested beyond the limit, and up to there they
begin a call. -/
def OpensBeyond (maxDepth : Int) (tokens : List Token) : Prop :=
  ∃ front p rest, tokens = front ++ .opening p :: rest ∧ Unfinished maxDepth.toNat front ∧
    ∀ q more, rest ≠ .marker q :: more

/-- **Reports of the depth.** The builder reports the depth only where, behind the beginning of a
call, a call is opened beyond the limit. -/
theorem buildFrom_tooDeep {maxDepth : Int} {scope : Scope} {tokens read : List Token} {e : Located}
    (hread : scope.Behind read) (hlevel : (scope.level : Int) ≤ maxDepth)
    (h : buildFrom maxDepth scope tokens = .error e) (hkind : e.1.kind = .depthExceeded) :
    OpensBeyond maxDepth (read ++ tokens) := by
  fun_induction buildFrom maxDepth scope tokens generalizing read with
  | case1 | case3 | case4 | case7 | case11 | case13 | case14 =>
    cases h
    cases hkind
  | case2 => cases h
  | case5 outer text p tokens ih =>
    have hbeyond := ih (hread.named text p _) hlevel h
    rwa [List.append_assoc] at hbeyond
  | case6 frame outer p q text r s tokens ih =>
    have hitem : ArgTokens [.opening p, .marker q, .word text r, .closing s] [.literal text] :=
      .literal .nil
    have hbeyond := ih (Unfinished.row hread hitem) hlevel h
    rwa [List.append_assoc] at hbeyond
  | case8 frame outer p tokens _ hmarker hdeep =>
    have hdepth : maxDepth.toNat = outer.length := by
      rw [Scope.level] at hlevel
      omega
    refine ⟨read, p, tokens, rfl, ?_, hmarker⟩
    rw [hdepth]
    exact hread
  | case9 frame outer p tokens _ _ hroom ih =>
    have hlevel' : ((Scope.fresh (frame :: outer)).level : Int) ≤ maxDepth := by
      rw [Scope.level, List.length_cons]
      omega
    have hbehind : (Scope.fresh (frame :: outer)).Behind (read ++ [.opening p]) :=
      ⟨read, p, rfl, hread⟩
    have hbeyond := ih hbehind hlevel' h
    rwa [List.append_assoc] at hbeyond
  | case10 frame parent outer p tokens ih =>
    have hlevel' : (outer.length : Int) ≤ maxDepth := by
      rw [Scope.level, List.length_cons] at hlevel
      omega
    have hbeyond := ih (Unfinished.closed hread p) hlevel' h
    rwa [List.append_assoc] at hbeyond
  | case12 frame outer text p tokens ih =>
    have hitem : ArgTokens [.word text p] [.literal text] := .word .nil
    have hbeyond := ih (Unfinished.row hread hitem) hlevel h
    rwa [List.append_assoc] at hbeyond

/-- The tokens of a call, read in a scope that is due its name, give the call to the scope or are
too deep for it. -/
theorem CallTokens.buildFrom_cases {tokens : List Token} {call : Call} (h : CallTokens tokens call)
    {maxDepth : Int} (outer : List Frame) (hwithin : (outer.length : Int) ≤ maxDepth)
    (rest : List Token) :
    (∃ q, buildFrom maxDepth (.fresh outer) (tokens ++ rest) =
        .error (.tooDeep (maxDepth.toNat + 1) maxDepth, some q)) ∨
      ∃ frame, buildFrom maxDepth (.fresh outer) (tokens ++ rest) =
        buildFrom maxDepth (.named frame outer) rest := by
  obtain ⟨p, row, rfl, hrow⟩ := h
  rw [List.cons_append, buildFrom]
  by_cases hfit : (outer.length + Arg.heights call.args : Int) ≤ maxDepth
  · exact .inr ⟨_, buildFrom_argTokens hrow _ outer rest hfit⟩
  · exact .inl (buildFrom_argTokens_deep hrow _ outer rest hwithin (by omega))

/-- **Beginnings of calls.** The builder reads the beginning of a call that leaves no more
parentheses open than the limit allows, or reports the depth inside it. -/
theorem Unfinished.buildFrom_cases {n : Nat} {tokens : List Token} (h : Unfinished n tokens)
    {maxDepth : Int} (hwithin : (n : Int) ≤ maxDepth) (rest : List Token)
    (hrest : ∀ q more, rest ≠ .marker q :: more) :
    (∃ q, buildFrom maxDepth (.fresh []) (tokens ++ rest) =
        .error (.tooDeep (maxDepth.toNat + 1) maxDepth, some q)) ∨
      ∃ frame outer, outer.length = n ∧ buildFrom maxDepth (.fresh []) (tokens ++ rest) =
        buildFrom maxDepth (.named frame outer) rest := by
  induction n generalizing tokens rest with
  | zero =>
    obtain ⟨call, hcall⟩ := h
    rcases hcall.buildFrom_cases [] hwithin rest with hdeep | ⟨frame, hread⟩
    · exact .inl hdeep
    · exact .inr ⟨frame, [], rfl, hread⟩
  | succ n ih =>
    obtain ⟨front, p, inner, call, rfl, hfront, hcall⟩ := h
    rw [List.append_assoc, List.cons_append]
    rcases ih hfront (by omega) (.opening p :: (inner ++ rest)) nofun with
      hdeep | ⟨frame, outer, rfl, hread⟩
    · exact .inl hdeep
    · rw [hread]
      -- A name follows the parenthesis, so it opens a call, and there is room for one more.
      have hmarker : ∀ q more, inner ++ rest ≠ .marker q :: more := by
        obtain ⟨q, row, rfl, -⟩ := hcall
        exact nofun
      have hroom : ¬ maxDepth < (outer.length + 1 : Int) := by omega
      rw [buildFrom_opening hmarker, if_neg hroom]
      have hinside : ((frame :: outer).length : Int) ≤ maxDepth := by
        rw [List.length_cons]
        exact hwithin
      rcases hcall.buildFrom_cases (frame :: outer) hinside rest with hdeep | ⟨own, hread'⟩
      · exact .inl hdeep
      · exact .inr ⟨own, frame :: outer, rfl, hread'⟩

/-- A call beyond the limit behind the beginning of a call is always reported. -/
theorem OpensBeyond.buildFrom_eq {maxDepth : Int} {tokens : List Token}
    (h : OpensBeyond maxDepth tokens) (hmax : 0 ≤ maxDepth) :
    ∃ q, buildFrom maxDepth (.fresh []) tokens =
      .error (.tooDeep (maxDepth.toNat + 1) maxDepth, some q) := by
  obtain ⟨front, p, rest, rfl, hfront, hmarker⟩ := h
  have hwithin : (maxDepth.toNat : Int) ≤ maxDepth := by omega
  rcases hfront.buildFrom_cases hwithin (.opening p :: rest) nofun with
    hdeep | ⟨frame, outer, hlen, hread⟩
  · exact hdeep
  · have hfull : maxDepth < (outer.length + 1 : Int) := by omega
    rw [hread, buildFrom_opening hmarker, if_pos hfull, hlen]
    exact ⟨p, rfl⟩

/-! ### Errors of the builder -/

/-- The kinds of the defects that the builder reports. -/
theorem kind_of_buildFrom {maxDepth : Int} {scope : Scope} {tokens : List Token} {e : Located}
    (h : buildFrom maxDepth scope tokens = .error e) :
    e.1.kind = .unbalancedParentheses ∨ e.1.kind = .emptyCommand ∨ e.1.kind = .unexpectedToken ∨
      e.1.kind = .depthExceeded := by
  fun_induction buildFrom maxDepth scope tokens with
  | case1 | case3 | case4 | case7 | case8 | case11 | case13 | case14 =>
    cases h
    simp [Defect.kind]
  | case2 => cases h
  | case5 _ _ _ _ ih => exact ih h
  | case6 _ _ _ _ _ _ _ _ ih => exact ih h
  | case9 _ _ _ _ _ _ _ ih => exact ih h
  | case10 _ _ _ _ _ ih => exact ih h
  | case12 _ _ _ _ _ ih => exact ih h

/-- An unmatched parenthesis is a lack of balance, whichever it is. -/
theorem kind_of_imbalance {opened : List Int} {tokens : List Token} {found : Defect × Int}
    (h : imbalance opened tokens = some found) : found.1.kind = .unbalancedParentheses := by
  fun_induction imbalance opened tokens with
  | case1 opened =>
    obtain ⟨p, -, rfl⟩ := Option.map_eq_some_iff.1 h
    rfl
  | case2 _ _ _ ih => exact ih h
  | case3 p tokens =>
    cases h
    rfl
  | case4 _ _ _ _ ih => exact ih h
  | case5 _ _ _ _ _ ih => exact ih h

theorem checkBalance_eq_ok_iff (tokens : List Token) (text : Option String) :
    checkBalance tokens text = .ok () ↔ nesting Token.side 0 tokens = some 0 := by
  rw [checkBalance]
  cases hbal : imbalance [] tokens with
  | none =>
    have hnest : nesting Token.side 0 tokens = some 0 := nesting_of_imbalance hbal
    exact ⟨fun _ => hnest, fun _ => rfl⟩
  | some found =>
    simp only [reduceCtorEq, false_iff]
    intro hnest
    rw [imbalance_of_nesting [] hnest] at hbal
    cases hbal

/-- A row of tokens is refused for its parentheses, or built as far as the builder gets. -/
theorem build_cases (tokens : List Token) (maxDepth : Int) (text : Option String) :
    (¬ nesting Token.side 0 tokens = some 0 ∧ ∃ e, build tokens maxDepth text = .error e ∧
        e.kind = .unbalancedParentheses) ∨
      nesting Token.side 0 tokens = some 0 ∧ build tokens maxDepth text =
        (buildFrom maxDepth (.fresh []) tokens).mapError (located text) := by
  rw [build_eq_bind, ← checkBalance_eq_ok_iff tokens text, checkBalance]
  cases hbal : imbalance [] tokens with
  | none => exact .inr ⟨rfl, rfl⟩
  | some found =>
    refine .inl ⟨fun hok => ?_, _, rfl, kind_of_imbalance hbal⟩
    cases hok

/-- The kinds of the errors of a row of tokens. -/
theorem kind_of_build {tokens : List Token} {maxDepth : Int} {text : Option String}
    {e : ParseError} (h : build tokens maxDepth text = .error e) :
    e.kind = .unbalancedParentheses ∨ e.kind = .emptyCommand ∨ e.kind = .unexpectedToken ∨
      e.kind = .depthExceeded := by
  rcases build_cases tokens maxDepth text with ⟨-, e', hbuild, hkind⟩ | ⟨-, hbuild⟩
  · rw [h] at hbuild
    cases hbuild
    exact .inl hkind
  · rw [h] at hbuild
    cases hfrom : buildFrom maxDepth (.fresh []) tokens with
    | ok call =>
      rw [hfrom] at hbuild
      cases hbuild
    | error found =>
      rw [hfrom] at hbuild
      cases hbuild
      rw [kind_located]
      exact kind_of_buildFrom hfrom

/-- **Depth among the defects.** The depth of tokens is reported exactly where their parentheses
match and, before any other defect, a call is opened beyond the limit. -/
theorem build_depthExceeded_iff (tokens : List Token) {maxDepth : Int} (hmax : 0 ≤ maxDepth)
    (text : Option String) :
    (∃ e, build tokens maxDepth text = .error e ∧ e.kind = .depthExceeded) ↔
      nesting Token.side 0 tokens = some 0 ∧ OpensBeyond maxDepth tokens := by
  rcases build_cases tokens maxDepth text with ⟨hnest, e, hbuild, hkind⟩ | ⟨hnest, hbuild⟩
  · constructor
    · rintro ⟨e', hbuild', hkind'⟩
      rw [hbuild] at hbuild'
      cases hbuild'
      rw [hkind] at hkind'
      cases hkind'
    · exact fun h => absurd h.1 hnest
  · rw [hbuild]
    constructor
    · rintro ⟨e, hbuild', hkind⟩
      refine ⟨hnest, ?_⟩
      cases hfrom : buildFrom maxDepth (.fresh []) tokens with
      | ok call =>
        rw [hfrom] at hbuild'
        cases hbuild'
      | error found =>
        obtain ⟨defect, p⟩ := found
        rw [hfrom] at hbuild'
        cases hbuild'
        rw [kind_located] at hkind
        have hbehind : (Scope.fresh []).Behind [] := rfl
        exact buildFrom_tooDeep hbehind hmax hfrom hkind
    · rintro ⟨-, hbeyond⟩
      obtain ⟨q, hdeep⟩ := hbeyond.buildFrom_eq hmax
      rw [hdeep]
      exact ⟨_, rfl, kind_located _ _ _⟩

end CommandShell
