import CommandShell.Proofs.OpenParentheses
import CommandShell.Proofs.UnfinishedCall

/-!
# The builder as a loop

`buildFrom` takes its tokens off a list and keeps only calls that have their names, so it cannot
run out of either. Worked in place, the builder is a loop: it looks tokens up by an index, keeps
one stack of calls whose names may still be due, closes the innermost one onto the next, and moves
four tokens on at a literal. `Loop.run` is this loop, and whatever could go wrong in it is an
outcome of its own: a token or a call that is not there, and a call that is closed without a name.

* `Loop.step_index` — every round moves the index on, so the loop ends;
* `Loop.run_eq_buildFrom` — on tokens whose parentheses match, the loop gives what the builder
  gives, in every scope and at every index;
* `build_exact` — **the builder accepts exactly the token grammar within the limit, reports every
  other row of tokens by one of four kinds of error, and nothing ever goes wrong in its loop**.
-/

namespace CommandShell

namespace Loop

/-! ### The loop -/

/-- A call on the stack. Its name may be due, its arguments are in reverse order. -/
structure Slot where
  name : Option String := none
  args : List Arg := []

/-- What ends the loop early. -/
inductive Stop where
  /-- The tokens have a defect. -/
  | defect (found : Located)
  /-- A token is looked up where there is none. -/
  | noToken
  /-- A call is taken from a stack that has none. -/
  | noCall
  /-- A call is closed that has no name. -/
  | noName

/-- The index of the next token, the stack of open calls, innermost first, and whether the name of
the innermost one is due. -/
structure State where
  index : Nat := 0
  stack : List Slot := [{}]
  nameDue : Bool := true

/-- The slot with one more argument. -/
def Slot.push (slot : Slot) (arg : Arg) : Slot := { slot with args := arg :: slot.args }

/-- The finished call. -/
def Slot.close (slot : Slot) : Except Stop Call :=
  match slot.name with
  | some name => .ok ⟨name, slot.args.reverse⟩
  | none => .error .noName

def tokenAt (tokens : List Token) (index : Nat) : Except Stop Token :=
  match tokens[index]? with
  | some token => .ok token
  | none => .error .noToken

/-- The token behind the one at an index, if the tokens go on. -/
def tokenBehind (tokens : List Token) (index : Nat) : Except Stop (Option Token) :=
  if index + 1 < tokens.length then (tokenAt tokens (index + 1)).map some else .ok none

/-- The literal whose four tokens start at an index. -/
def literalAt (tokens : List Token) (index : Nat) (p : Int) : Except Stop Arg :=
  match (tokens.drop index).take 4 with
  | [_, _, .word text _, .closing _] => .ok (.literal text)
  | _ => .error (.defect (.malformedLiteral, some p))

/-- What a token does to the innermost call and those below it. -/
def advance (maxDepth : Int) (tokens : List Token) (index : Nat) (slot : Slot)
    (below : List Slot) : (nameDue : Bool) → Token → Except Stop State
  | true, .opening p => .error (.defect (.openForName, some p))
  | false, .opening p =>
    match tokenBehind tokens index with
    | .error stop => .error stop
    | .ok (some (.marker _)) =>
      (literalAt tokens index p).map fun arg => ⟨index + 4, slot.push arg :: below, false⟩
    | .ok _ =>
      if maxDepth < below.length + 1 then
        .error (.defect (.tooDeep (below.length + 1) maxDepth, some p))
      else .ok ⟨index + 1, {} :: slot :: below, true⟩
  | true, .closing p => .error (.defect (.emptyScope, some p))
  | false, .closing _ =>
    match below with
    | [] => .error .noCall
    | parent :: below =>
      slot.close.map fun call => ⟨index + 1, parent.push call.toArg :: below, false⟩
  | true, .word text _ => .ok ⟨index + 1, { slot with name := some text } :: below, false⟩
  | false, .word text _ => .ok ⟨index + 1, slot.push (.literal text) :: below, false⟩
  | _, .marker p => .error (.defect (.strayMarker, some p))
  | _, .foreign shown => .error (.defect (.unknownToken shown, none))

/-- One round of the loop. -/
def step (maxDepth : Int) (tokens : List Token) (s : State) : Except Stop State :=
  match tokenAt tokens s.index, s.stack with
  | .error stop, _ => .error stop
  | .ok _, [] => .error .noCall
  | .ok token, slot :: below => advance maxDepth tokens s.index slot below s.nameDue token

/-- The result behind the last token: the outermost call. -/
def result (s : State) : Except Stop Call :=
  if s.nameDue then .error (.defect (.nothing, some 0))
  else match s.stack.getLast? with
    | some root => root.close
    | none => .error .noCall

/-- Every token that is taken moves the index on. -/
theorem advance_index {maxDepth : Int} {tokens : List Token} {index : Nat} {slot : Slot}
    {below : List Slot} {nameDue : Bool} {token : Token} {s : State} :
    advance maxDepth tokens index slot below nameDue token = .ok s → index < s.index := by
  fun_cases advance maxDepth tokens index slot below nameDue token with
  | case3 _ p =>
    intro h
    cases hlit : literalAt tokens index p with
    | error stop =>
      rw [hlit] at h
      cases h
    | ok arg =>
      rw [hlit] at h
      cases h
      exact Nat.lt_add_of_pos_right (by decide)
  | case8 _ parent below =>
    intro h
    cases hclose : slot.close with
    | error stop =>
      rw [hclose] at h
      cases h
    | ok call =>
      rw [hclose] at h
      cases h
      exact Nat.lt_succ_self index
  | case5 | case9 | case10 =>
    intro h
    cases h
    exact Nat.lt_succ_self index
  | _ => exact nofun

theorem step_index {maxDepth : Int} {tokens : List Token} {s s' : State}
    (h : step maxDepth tokens s = .ok s') : s.index < s'.index := by
  unfold step at h
  split at h
  · cases h
  · cases h
  · exact advance_index h

/-- The loop: rounds as long as there are tokens. -/
def run (maxDepth : Int) (tokens : List Token) (s : State) : Except Stop Call :=
  if s.index < tokens.length then
    match _h : step maxDepth tokens s with
    | .error stop => .error stop
    | .ok s' => run maxDepth tokens s'
  else result s
termination_by tokens.length - s.index
decreasing_by
  have := step_index _h
  omega

/-! ### One round -/

section Round

variable {maxDepth : Int} {tokens rest : List Token} {token : Token}

theorem run_eq_bind {s : State} (h : tokens.drop s.index = token :: rest) :
    run maxDepth tokens s = (step maxDepth tokens s).bind (run maxDepth tokens) := by
  have hlt : s.index < tokens.length := by
    refine Nat.lt_of_not_le fun hle => ?_
    rw [List.drop_eq_nil_of_le hle] at h
    cases h
  rw [run, if_pos hlt]
  split
  · rename_i hstep
    rw [hstep]
    rfl
  · rename_i hstep
    rw [hstep]
    rfl

theorem run_end {s : State} (h : tokens.drop s.index = []) :
    run maxDepth tokens s = result s := by
  rw [run, if_neg (Nat.not_lt.2 (List.drop_eq_nil_iff.1 h))]

theorem tokenAt_of_drop {index : Nat} (h : tokens.drop index = token :: rest) :
    tokenAt tokens index = .ok token := by
  rw [tokenAt, getElem?_of_drop h]

theorem tokenBehind_of_drop {index : Nat} (h : tokens.drop index = token :: rest) :
    tokenBehind tokens index = .ok rest.head? := by
  have hrest := drop_succ_of_drop h
  rw [tokenBehind]
  cases rest with
  | nil => rw [if_neg (Nat.not_lt.2 (List.drop_eq_nil_iff.1 hrest))]; rfl
  | cons next rest =>
    have hlt : index + 1 < tokens.length := by
      refine Nat.lt_of_not_le fun hle => ?_
      rw [List.drop_eq_nil_of_le hle] at hrest
      cases hrest
    rw [if_pos hlt, tokenAt_of_drop hrest]
    rfl

/-- A parenthesis that no marker follows opens a call, if the limit allows it. -/
theorem advance_opening {index : Nat} {p : Int} (h : tokens.drop index = .opening p :: rest)
    (hmarker : ∀ q more, rest ≠ .marker q :: more) (slot : Slot) (below : List Slot) :
    advance maxDepth tokens index slot below false (.opening p) =
      if maxDepth < below.length + 1 then
        .error (.defect (.tooDeep (below.length + 1) maxDepth, some p))
      else .ok ⟨index + 1, {} :: slot :: below, true⟩ := by
  rw [advance, tokenBehind_of_drop h]
  cases rest with
  | nil => rfl
  | cons next rest =>
    cases next with
    | marker q => exact absurd rfl (hmarker q rest)
    | _ => rfl

/-- Behind a marker that no word and closing parenthesis follow, there is no literal. -/
theorem literalAt_malformed {index : Nat} {p q : Int}
    (h : tokens.drop index = .opening p :: .marker q :: rest)
    (hbody : ∀ text r s more, rest ≠ .word text r :: .closing s :: more) :
    literalAt tokens index p = .error (.defect (.malformedLiteral, some p)) := by
  rw [literalAt, h]
  split
  · rename_i hwindow
    match rest, hwindow with
    | .word text r :: .closing s :: more, _ => exact absurd rfl (hbody text r s more)
  · rfl

end Round

/-! ### The loop in a scope of the builder -/

/-- A call of the builder on the stack. -/
def Slot.ofFrame (frame : Frame) : Slot := ⟨some frame.name, frame.args⟩

/-- The loop at an index, with the open calls of a scope. -/
def State.inScope (index : Nat) : Scope → State
  | .fresh outer => ⟨index, {} :: outer.map .ofFrame, true⟩
  | .named frame outer => ⟨index, .ofFrame frame :: outer.map .ofFrame, false⟩

section Scopes

variable {maxDepth : Int} {tokens rest : List Token} {token : Token} {index : Nat}

theorem run_fresh (h : tokens.drop index = token :: rest) (outer : List Frame) :
    run maxDepth tokens (.inScope index (.fresh outer)) =
      (advance maxDepth tokens index {} (outer.map .ofFrame) true token).bind
        (run maxDepth tokens) := by
  rw [run_eq_bind (s := .inScope index (.fresh outer)) h, step]
  simp only [State.inScope, tokenAt_of_drop h]

theorem run_named (h : tokens.drop index = token :: rest) (frame : Frame) (outer : List Frame) :
    run maxDepth tokens (.inScope index (.named frame outer)) =
      (advance maxDepth tokens index (.ofFrame frame) (outer.map .ofFrame) false token).bind
        (run maxDepth tokens) := by
  rw [run_eq_bind (s := .inScope index (.named frame outer)) h, step]
  simp only [State.inScope, tokenAt_of_drop h]

end Scopes

/-- **The loop and the builder.** Where the tokens from an index on close the open calls of a scope
and no more, the loop gives what the builder gives. -/
theorem run_eq_buildFrom {maxDepth : Int} {tokens rest : List Token} {scope : Scope} {index : Nat}
    (hrest : tokens.drop index = rest) (hnest : nesting Token.side scope.level rest = some 0) :
    run maxDepth tokens (.inScope index scope) =
      (buildFrom maxDepth scope rest).mapError .defect := by
  fun_induction buildFrom maxDepth scope rest generalizing index with
  | case1 outer =>
    rw [run_end hrest]
    rfl
  | case2 frame outer =>
    -- Nothing is open any more, so the innermost call is the outermost one.
    obtain rfl : outer = [] := List.length_eq_zero_iff.1 (Option.some.inj hnest)
    rw [run_end hrest]
    rfl
  | case3 outer p rest =>
    rw [run_fresh hrest]
    rfl
  | case4 outer p rest =>
    rw [run_fresh hrest]
    rfl
  | case5 outer text p rest ih =>
    rw [run_fresh hrest]
    exact ih (drop_succ_of_drop hrest) hnest
  | case6 frame outer p q text r s rest ih =>
    have hlit : literalAt tokens index p = .ok (.literal text) := by
      rw [literalAt, hrest]
      rfl
    have hnext : tokens.drop (index + 4) = rest := by
      rw [← List.drop_drop, hrest]
      rfl
    rw [run_named hrest, advance, tokenBehind_of_drop hrest, hlit]
    exact ih hnext hnest
  | case7 frame outer p q rest hbody =>
    rw [run_named hrest, advance, tokenBehind_of_drop hrest,
      literalAt_malformed hrest fun text r s more => hbody text r s more]
    rfl
  | case8 frame outer p rest _ hmarker hdeep =>
    rw [run_named hrest, advance_opening hrest hmarker, List.length_map, if_pos hdeep]
    rfl
  | case9 frame outer p rest _ hmarker hroom ih =>
    rw [run_named hrest, advance_opening hrest hmarker, List.length_map, if_neg hroom]
    exact ih (drop_succ_of_drop hrest) hnest
  | case10 frame parent outer p rest ih =>
    rw [Scope.level, List.length_cons, nesting_closes_succ rfl] at hnest
    rw [run_named hrest]
    exact ih (drop_succ_of_drop hrest) hnest
  | case11 frame p rest =>
    rw [Scope.level, List.length_nil, nesting_closes_zero rfl] at hnest
    cases hnest
  | case12 frame outer text p rest ih =>
    rw [run_named hrest]
    exact ih (drop_succ_of_drop hrest) hnest
  | case13 scope p rest =>
    cases scope with
    | fresh outer =>
      rw [run_fresh hrest]
      rfl
    | named frame outer =>
      rw [run_named hrest]
      rfl
  | case14 scope shown rest =>
    cases scope with
    | fresh outer =>
      rw [run_fresh hrest]
      rfl
    | named frame outer =>
      rw [run_named hrest]
      rfl

end Loop

/-! ### Any row of tokens -/

/-- **The builder accepts exactly the token grammar.** For any row of tokens and any limit:

* a call is built exactly if it fits under the limit and the tokens derive it;
* a call that does not fit is refused for its depth;
* tokens that derive no call are refused for their parentheses, for a missing name, for a token
  out of place, or for the depth of a call that comes before the defect;
* the depth is the reason exactly where the parentheses match and such a call is there;
* where the parentheses match, the loop ends with the result of the builder, so it never looks up
  a token or takes a call that is not there and never closes a call without a name. -/
theorem build_exact (tokens : List Token) {maxDepth : Int} (hmax : 0 ≤ maxDepth)
    (text : Option String) :
    (∀ call, build tokens maxDepth text = .ok call ↔
      (call.depth : Int) ≤ maxDepth ∧ CallTokens tokens call) ∧
    (∀ call, CallTokens tokens call → maxDepth < (call.depth : Int) →
      ∃ e, build tokens maxDepth text = .error e ∧ e.kind = .depthExceeded) ∧
    ((∀ call, ¬ CallTokens tokens call) → ∃ e, build tokens maxDepth text = .error e ∧
      (e.kind = .unbalancedParentheses ∨ e.kind = .emptyCommand ∨ e.kind = .unexpectedToken ∨
        e.kind = .depthExceeded ∧ OpensBeyond maxDepth tokens)) ∧
    ((∃ e, build tokens maxDepth text = .error e ∧ e.kind = .depthExceeded) ↔
      nesting Token.side 0 tokens = some 0 ∧ OpensBeyond maxDepth tokens) ∧
    (checkBalance tokens text = .ok () → ∃ result : Except Located Call,
      Loop.run maxDepth tokens {} = result.mapError .defect ∧
        build tokens maxDepth text = result.mapError (located text)) := by
  have hdepth := build_depthExceeded_iff tokens hmax text
  refine ⟨build_eq_ok_iff tokens hmax text, ?_, ?_, hdepth, ?_⟩
  · intro call hcall hdeep
    obtain ⟨p, hbuild⟩ := build_callTokens_deep hcall hmax text hdeep
    exact ⟨_, hbuild, rfl⟩
  · intro hno
    cases hbuild : build tokens maxDepth text with
    | ok call => exact absurd (callTokens_of_build hbuild) (hno call)
    | error e =>
      refine ⟨e, rfl, ?_⟩
      rcases kind_of_build hbuild with h | h | h | h
      · exact .inl h
      · exact .inr (.inl h)
      · exact .inr (.inr (.inl h))
      · exact .inr (.inr (.inr ⟨h, (hdepth.1 ⟨e, hbuild, h⟩).2⟩))
  · intro hbalance
    have hnest := (checkBalance_eq_ok_iff tokens text).1 hbalance
    have hloop : Loop.run maxDepth tokens (.inScope 0 (.fresh [])) =
        (buildFrom maxDepth (.fresh []) tokens).mapError .defect :=
      Loop.run_eq_buildFrom List.drop_zero hnest
    refine ⟨buildFrom maxDepth (.fresh []) tokens, hloop, ?_⟩
    rw [build_eq_bind, hbalance]
    rfl

/-- Tokens with positions of no text: `a (b ()`, a marker out of place and a parenthesis. -/
def oddTokens : List Token :=
  [.word "a" 0, .opening 7, .word "b" 3, .opening (-1), .closing 5, .marker 2, .closing 9]

/-- Under a limit of one, the second parenthesis is reported before the call that it leaves without
a name and the marker behind it. -/
theorem build_exact_oddTokens :
    (0 : Int) ≤ 1 ∧
    (∃ e, build oddTokens 1 none = .error e ∧ e.kind = .depthExceeded) ∧
    (∃ result : Except Located Call, Loop.run 1 oddTokens {} = result.mapError .defect ∧
      build oddTokens 1 none = result.mapError (located none)) := by
  obtain ⟨-, -, -, hdepth, hloop⟩ := build_exact oddTokens (show (0 : Int) ≤ 1 by decide) none
  have hfront : Unfinished 1 [.word "a" 0, .opening 7, .word "b" 3] :=
    ⟨[.word "a" 0], 7, [.word "b" 3], ⟨"b", []⟩, rfl, ⟨⟨"a", []⟩, 0, [], rfl, .nil⟩,
      3, [], rfl, .nil⟩
  have hbeyond : OpensBeyond 1 oddTokens := ⟨_, -1, _, rfl, hfront, nofun⟩
  exact ⟨by decide, hdepth.2 ⟨by decide, hbeyond⟩, hloop (by decide)⟩

end CommandShell
