import CommandShell.Evaluator.Builtin
import CommandShell.Proofs.Judgement

/-!
# The values that deciders grant

A handler gets no texts but the values that its decider makes of them, so what it can rely on is
what the decider grants: how many values there are, of which kind, and in which range. The other
side of a decider is its denials, of which those that are meant as help, and those without a text,
do not come to an error with a message.

* `consumeParts_keyword`, `consumeParts_predicate` — one part of a signature;
* `consumeParts_error`, `exists_of_accept` — what a signature denies, and what it accepts;
* `consume_one`, `consume_manyInt32`, `readIntegerIn_ok` — what the standard predicates take;
* `plain_signature`, `plain_one`, `plain_integerIn` — **where no predicate gives help or is at a loss
  for a text, no signature is**.
-/

namespace CommandShell

open Number

/-! ### Signatures -/

/-- A refusal with a text that is not meant as help. -/
def Refusal.IsPlain : Refusal → Prop
  | denied _ help => help = false
  | fault _ => True
  | mute _ => False

/-- A predicate all of whose refusals have a text and are not meant as help. -/
def Predicate.IsPlain (p : Predicate) : Prop :=
  ∀ args refusal, p.consume args = .error refusal → refusal.IsPlain

/-- A decider all of whose decisions have a text and are not meant as help. -/
def Decider.IsPlain (d : Decider) : Prop :=
  ∀ args, (d.decide args).HasText ∧ (d.decide args).helpText? = none

/-- The decision of a signature one of whose predicates refuses its arguments. -/
def Refusal.decision (description : String) : Refusal → Decision
  | denied reason true => .deny reason true
  | denied reason false => .deny ("Expected " ++ description ++ " but got: " ++ reason) false
  | fault f => .failed f
  | mute raised => .mute raised

theorem Refusal.IsPlain.decision {refusal : Refusal} (h : refusal.IsPlain) (description : String) :
    (refusal.decision description).HasText ∧ (refusal.decision description).helpText? = none := by
  rcases refusal with ⟨reason, help⟩ | f | raised
  · obtain rfl : help = false := h
    exact ⟨trivial, rfl⟩
  · exact ⟨trivial, rfl⟩
  · exact h.elim

namespace Signature

variable {args : List String} {parts : List Part} {index index' : Int} {values : List Value}

/-- **A keyword.** It has no value. -/
theorem consumeParts_keyword {text : String}
    (h : consumeParts args (.keyword text :: parts) index = .ok (values, index')) :
    consumeParts args parts (index + 1) = .ok (values, index') := by
  simp only [consumeParts] at h
  split at h
  · cases h
  · split at h
    · exact h
    · cases h

/-- **A predicate.** Its values stand in front of those of the parts behind it. -/
theorem consumeParts_predicate {p : Predicate}
    (h : consumeParts args (.predicate p :: parts) index = .ok (values, index')) :
    ∃ count own others, p.consume (argsFrom args index) = .ok (count, own) ∧
      consumeParts args parts (index + count) = .ok (others, index') ∧ values = own ++ others := by
  simp only [consumeParts] at h
  split at h
  · cases h
  · cases h
  · cases h
  · cases h
  · rename_i count own hown
    split at h
    · cases h
    · split at h
      · cases h
      · rename_i others index'' hothers
        cases h
        exact ⟨count, own, others, hown, hothers, rfl⟩

/-- **Parts that are not satisfied.** They deny, not as help, or a predicate among them refuses its
arguments. -/
theorem consumeParts_error {decision : Decision}
    (h : consumeParts args parts index = .error decision) :
    (∃ reason, decision = .deny reason false) ∨
      ∃ p rest refusal, .predicate p ∈ parts ∧ p.consume rest = .error refusal ∧
        decision = refusal.decision p.description := by
  induction parts generalizing index with
  | nil => cases h
  | cons part parts ih =>
    have hlater : ∀ {i}, consumeParts args parts i = .error decision →
        (∃ reason, decision = .deny reason false) ∨
          ∃ p rest refusal, .predicate p ∈ part :: parts ∧ p.consume rest = .error refusal ∧
            decision = refusal.decision p.description := by
      intro i hi
      refine (ih hi).imp_right ?_
      rintro ⟨p, rest, refusal, hp, hrefuses⟩
      exact ⟨p, rest, refusal, List.mem_cons_of_mem part hp, hrefuses⟩
    cases part with
    | keyword text =>
      simp only [consumeParts] at h
      split at h
      · cases h
        exact .inl ⟨_, rfl⟩
      · split at h
        · exact hlater h
        · cases h
          exact .inl ⟨_, rfl⟩
    | predicate p =>
      simp only [consumeParts] at h
      split at h
      · rename_i hrefuses
        cases h
        exact .inr ⟨p, _, _, List.mem_cons_self, hrefuses, rfl⟩
      · rename_i hrefuses
        cases h
        exact .inr ⟨p, _, _, List.mem_cons_self, hrefuses, rfl⟩
      · rename_i hrefuses
        cases h
        exact .inr ⟨p, _, _, List.mem_cons_self, hrefuses, rfl⟩
      · rename_i hrefuses
        cases h
        exact .inr ⟨p, _, _, List.mem_cons_self, hrefuses, rfl⟩
      · split at h
        · cases h
          exact .inl ⟨_, rfl⟩
        · split at h
          · rename_i hrest
            cases h
            exact hlater hrest
          · cases h

/-- What a signature accepts is what its parts take, with no argument left over. -/
theorem exists_of_accept {s : Signature} (h : s.decide args = .accept values) :
    ∃ index, consumeParts args s.parts 0 = .ok (values, index) ∧ args.length ≤ index := by
  unfold decide at h
  split at h
  · rename_i decision hparts
    subst h
    rcases consumeParts_error hparts with ⟨_, hdeny⟩ | ⟨p, _, refusal, -, -, hrefuses⟩
    · cases hdeny
    · rcases refusal with ⟨_, _ | _⟩ | _ | _ <;> cases hrefuses
  · rename_i values' index hparts
    dsimp only at h
    split at h
    · split at h <;> cases h
    · cases h
      exact ⟨index, hparts, by omega⟩

/-- **Plain signatures.** -/
theorem plain_signature {s : Signature} (h : ∀ p, .predicate p ∈ s.parts → p.IsPlain) :
    s.toDecider.IsPlain := by
  intro args
  show (s.decide args).HasText ∧ (s.decide args).helpText? = none
  unfold decide
  split
  · rename_i decision hparts
    rcases consumeParts_error hparts with ⟨_, rfl⟩ | ⟨p, _, refusal, hp, hrefuses, rfl⟩
    · exact ⟨trivial, rfl⟩
    · exact (h p hp _ refusal hrefuses).decision p.description
  · dsimp only
    split
    · split <;> exact ⟨trivial, rfl⟩
    · exact ⟨trivial, rfl⟩

theorem accept_empty (h : (Signature.mk []).decide args = .accept values) : values = [] := by
  obtain ⟨index, hparts, -⟩ := exists_of_accept h
  cases hparts
  rfl

/-- A signature of one predicate grants the values of the predicate. -/
theorem accept_predicate {p : Predicate}
    (h : (Signature.mk [.predicate p]).decide args = .accept values) :
    ∃ count, p.consume args = .ok (count, values) := by
  obtain ⟨index, hparts, -⟩ := exists_of_accept h
  obtain ⟨count, own, others, hown, hothers, rfl⟩ := consumeParts_predicate hparts
  cases hothers
  rw [List.append_nil]
  exact ⟨count, hown⟩

theorem accept_keyword {text : String}
    (h : (Signature.mk [.keyword text]).decide args = .accept values) : values = [] := by
  obtain ⟨index, hparts, -⟩ := exists_of_accept h
  cases consumeParts_keyword hparts
  rfl

/-- A signature of a keyword and a predicate grants the values of the predicate. -/
theorem accept_keyword_predicate {text : String} {p : Predicate}
    (h : (Signature.mk [.keyword text, .predicate p]).decide args = .accept values) :
    ∃ rest count, p.consume rest = .ok (count, values) := by
  obtain ⟨index, hparts, -⟩ := exists_of_accept h
  obtain ⟨count, own, others, hown, hothers, rfl⟩ :=
    consumeParts_predicate (consumeParts_keyword hparts)
  cases hothers
  rw [List.append_nil]
  exact ⟨_, count, hown⟩

end Signature

/-! ### Predicates -/

namespace Predicate

variable {args : List String} {values : List Value} {count : Int}

/-- A predicate of one argument has the one value that it reads. -/
theorem consume_one {description : String} {read : String → Except Refusal Value}
    (h : (one description read).consume args = .ok (count, values)) :
    ∃ arg value, read arg = .ok value ∧ values = [value] := by
  cases args with
  | nil => cases h
  | cons arg args =>
    simp only [one] at h
    cases hread : read arg with
    | error refusal =>
      rw [hread] at h
      cases h
    | ok value =>
      rw [hread] at h
      cases h
      exact ⟨arg, value, hread, rfl⟩

/-- It takes one argument. -/
theorem count_one {description : String} {read : String → Except Refusal Value}
    (h : (one description read).consume args = .ok (count, values)) :
    count = 1 ∧ 1 ≤ args.length := by
  cases args with
  | nil => cases h
  | cons arg args =>
    simp only [one] at h
    cases hread : read arg with
    | error refusal =>
      rw [hread] at h
      cases h
    | ok value =>
      rw [hread] at h
      cases h
      exact ⟨rfl, Nat.succ_pos _⟩

theorem plain_one {description : String} {read : String → Except Refusal Value}
    (h : ∀ arg refusal, read arg = .error refusal → refusal.IsPlain) :
    (one description read).IsPlain := by
  intro args refusal hrefuses
  cases args with
  | nil =>
    cases hrefuses
    rfl
  | cons arg args =>
    simp only [one] at hrefuses
    cases hread : read arg with
    | error refusal' =>
      rw [hread] at hrefuses
      cases hrefuses
      exact h arg refusal hread
    | ok value =>
      rw [hread] at hrefuses
      cases hrefuses

/-- An integer that is read lies in the range. -/
theorem readIntegerIn_ok {text : String} {minimum maximum n : Int} {unsigned : Bool}
    (h : readIntegerIn text minimum maximum unsigned = .ok n) : minimum ≤ n ∧ n ≤ maximum := by
  unfold readIntegerIn at h
  split at h
  · cases h
  · split at h
    · cases h
    · split at h
      · rename_i hrange
        cases h
        simpa using hrange
      · cases h

theorem readIntegerIn_plain {text : String} {minimum maximum : Int} {unsigned : Bool}
    {refusal : Refusal} (h : readIntegerIn text minimum maximum unsigned = .error refusal) :
    refusal.IsPlain := by
  unfold readIntegerIn at h
  split at h
  · cases h
    rfl
  · split at h
    · cases h
      trivial
    · split at h
      · cases h
      · cases h
        rfl

/-- A predicate of one integer of a range grants one. -/
theorem consume_integerIn {description : String} {minimum maximum : Int} {unsigned : Bool}
    (h : (one description fun arg =>
      (readIntegerIn arg minimum maximum unsigned).map .int).consume args = .ok (count, values)) :
    ∃ n, values = [.int n] ∧ minimum ≤ n ∧ n ≤ maximum := by
  obtain ⟨arg, value, hread, rfl⟩ := consume_one h
  cases hn : readIntegerIn arg minimum maximum unsigned with
  | error refusal =>
    rw [hn] at hread
    cases hread
  | ok n =>
    rw [hn] at hread
    cases hread
    exact ⟨n, rfl, readIntegerIn_ok hn⟩

theorem plain_integerIn (description : String) (minimum maximum : Int) (unsigned : Bool) :
    (one description fun arg => (readIntegerIn arg minimum maximum unsigned).map .int).IsPlain := by
  refine plain_one fun arg refusal h => ?_
  cases hn : readIntegerIn arg minimum maximum unsigned with
  | error refusal' =>
    rw [hn] at h
    cases h
    exact readIntegerIn_plain hn
  | ok n =>
    rw [hn] at h
    cases h

/-- A value that is an integer of 32 bits. -/
def IsInt32 (value : Value) : Prop := ∃ n, value = .int n ∧ minInt32 ≤ n ∧ n ≤ maxInt32

theorem readInt32s_ok {args : List String} {values : List Value}
    (h : readInt32s args = .ok values) :
    values.length ≤ args.length ∧ ∀ value ∈ values, IsInt32 value := by
  induction args generalizing values with
  | nil =>
    cases h
    exact ⟨Nat.le_refl 0, nofun⟩
  | cons arg args ih =>
    rw [readInt32s] at h
    split at h
    · cases hn : readInt32 arg with
      | error refusal =>
        rw [hn] at h
        cases h
      | ok n =>
        cases hrest : readInt32s args with
        | error refusal =>
          rw [hn, hrest] at h
          cases h
        | ok rest =>
          rw [hn, hrest] at h
          cases h
          obtain ⟨hlength, hvalues⟩ := ih hrest
          refine ⟨Nat.succ_le_succ hlength, fun value hvalue => ?_⟩
          rcases List.mem_cons.1 hvalue with rfl | hvalue
          · exact ⟨n, rfl, readIntegerIn_ok hn⟩
          · exact hvalues value hvalue
    · cases h
      exact ⟨Nat.zero_le _, nofun⟩

theorem readInt32s_plain {args : List String} {refusal : Refusal}
    (h : readInt32s args = .error refusal) : refusal.IsPlain := by
  induction args with
  | nil => cases h
  | cons arg args ih =>
    rw [readInt32s] at h
    split at h
    · cases hn : readInt32 arg with
      | error refusal' =>
        rw [hn] at h
        cases h
        exact readIntegerIn_plain hn
      | ok n =>
        cases hrest : readInt32s args with
        | error refusal' =>
          rw [hn, hrest] at h
          cases h
          exact ih hrest
        | ok rest =>
          rw [hn, hrest] at h
          cases h
    · cases h

/-- Many integers: no more values than arguments, each an integer of 32 bits. -/
theorem consume_manyInt32 (h : manyInt32.consume args = .ok (count, values)) :
    values.length ≤ args.length ∧ ∀ value ∈ values, IsInt32 value := by
  simp only [manyInt32] at h
  cases hread : readInt32s args with
  | error refusal =>
    rw [hread] at h
    cases h
  | ok read =>
    rw [hread] at h
    have hvalues : values = read := by
      cases read with
      | nil => cases args <;> cases h
      | cons value read =>
        cases h
        rfl
    rw [hvalues]
    exact readInt32s_ok hread

theorem plain_manyInt32 : manyInt32.IsPlain := by
  intro args refusal h
  simp only [manyInt32] at h
  cases hread : readInt32s args with
  | error refusal' =>
    rw [hread] at h
    cases h
    exact readInt32s_plain hread
  | ok read =>
    rw [hread] at h
    cases read with
    | nil => cases args <;> cases h <;> rfl
    | cons value read => cases h

theorem consume_manyTexts (h : manyTexts.consume args = .ok (count, values)) :
    values = args.map .text := by
  simp only [manyTexts, require] at h
  split at h
  · cases h
  · cases h
    rfl

theorem plain_manyTexts : manyTexts.IsPlain := by
  intro args refusal h
  simp only [manyTexts, require] at h
  split at h
  · cases h
    rfl
  · cases h

end Predicate

/-! ### Deciders of built-in commands -/

namespace Decider

theorem plain_anyTexts : anyTexts.IsPlain := fun _ => ⟨trivial, rfl⟩

theorem accept_invocation {args : List String} {values : List Value}
    (h : invocation.decide args = .accept values) :
    values = args.map .text ∧ 2 ≤ args.length := by
  simp only [invocation, ofFunction] at h
  split at h
  · cases h
  · cases h
    exact ⟨rfl, by omega⟩

theorem plain_invocation : invocation.IsPlain := by
  intro args
  simp only [invocation, ofFunction]
  split <;> exact ⟨trivial, rfl⟩

end Decider

/-! ### Tables -/

/-- An event of a decider that gave no decision. -/
def Event.OfDecider (x : Event) : Prop :=
  ∃ command shape error, x = .deciderFailed command shape error

namespace Table

variable {H : Type} {args : List String}

/-- **Calls without help.** Where all deciders of a table are plain, a call that is not resolved has
an error, and no help to give. -/
theorem help_of_resolve {table : Table H} (htable : ∀ e ∈ table.entries, e.decider.IsPlain)
    {name : String} {reason : Unresolved} (h : (table.resolve name args).1 = .error reason) :
    ∃ error, reason = .noMatch error ∧ error.help = [] := by
  have hplain : ∀ e ∈ table.entriesOf name, e.decider.IsPlain :=
    fun e he => htable e (List.mem_filter.1 he).1
  obtain ⟨error, rfl, hhelp⟩ := noMatch_of_resolve (fun e he => (hplain e he args).1) h
  refine ⟨error, rfl, List.eq_nil_iff_forall_not_mem.2 fun help hmem => ?_⟩
  obtain ⟨e, he, hsome⟩ := hhelp help hmem
  rw [(hplain e he args).2] at hsome
  cases hsome

/-- A table tells of a call only which deciders gave no decision. -/
theorem ofDecider_of_mem_resolve {table : Table H} {name : String} {x : Event}
    (hx : x ∈ (table.resolve name args).2) : x.OfDecider := by
  simp only [resolve] at hx
  split at hx <;>
    · obtain ⟨⟨e, denial⟩, -, hdenial⟩ := List.mem_filterMap.1 hx
      obtain ⟨error, -, rfl⟩ := Option.map_eq_some_iff.1 hdenial
      exact ⟨_, _, error, rfl⟩

end Table

end CommandShell
