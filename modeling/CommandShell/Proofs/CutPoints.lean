import CommandShell.Host.Deciders
import CommandShell.Proofs.GrantedValues

/-!
# The cut points of a signature

The parts of a signature take arguments from the front, one after the other, so they cut the row of
arguments: each part has those between its cut point and the next one. A signature accepts if the
last cut point is the end of the row. Otherwise some part is not satisfied by the arguments behind
its cut point, or arguments are left behind the last one.

* `takes_or_refuses` — **one part** is satisfied or not, by what is left to it;
* `consumeParts_append` — parts that are satisfied, in front of others;
* `consumeParts_cases` — **all parts** are satisfied, or there is a first that is not;
* `decide_by_cuts` — what a signature decides, in terms of its cut points.
-/

namespace CommandShell

/-- The part is satisfied by so many arguments from the front, and these are its values. A keyword
is satisfied by one argument that equals it, and has no values. -/
inductive Part.Takes : Part → List String → Nat → List Value → Prop
  | keyword (text : String) (rest : List String) : Takes (.keyword text) (text :: rest) 1 []
  | predicate {p : Predicate} {args : List String} {count : Nat} {values : List Value} :
      p.consume args = .ok (count, values) → Takes (.predicate p) args count values

/-- The part is not satisfied by the arguments, and this is what its signature decides then. -/
inductive Part.Refuses : Part → List String → Decision → Prop
  | absent (text : String) :
      Refuses (.keyword text) [] (.deny ("Expected " ++ text ++ " but got: nothing") false)
  | other {text arg : String} (rest : List String) : arg ≠ text →
      Refuses (.keyword text) (arg :: rest)
        (.deny ("Expected " ++ text ++ " but got: " ++ arg) false)
  | denied {p : Predicate} {args : List String} {reason : String} :
      p.consume args = .error (.denied reason false) →
      Refuses (.predicate p) args
        (.deny ("Expected " ++ p.description ++ " but got: " ++ reason) false)
  /-- Help is passed on as it is. -/
  | help {p : Predicate} {args : List String} {reason : String} :
      p.consume args = .error (.denied reason true) →
      Refuses (.predicate p) args (.deny reason true)
  /-- The predicate takes more than there is. -/
  | tooFar {p : Predicate} {args : List String} {count : Int} {values : List Value} :
      p.consume args = .ok (count, values) → args.length < count →
      Refuses (.predicate p) args (.deny "Decider advanced too far" false)
  | failed {p : Predicate} {args : List String} {f : Fault} :
      p.consume args = .error (.fault f) → Refuses (.predicate p) args (.failed f)
  /-- The predicate fails without a text. -/
  | mute {p : Predicate} {args : List String} {raised : Failure} :
      p.consume args = .error (.mute raised) → Refuses (.predicate p) args (.mute raised)

theorem Part.Refuses.ne_accept {part : Part} {rest : List String} {decision : Decision}
    (h : part.Refuses rest decision) (values : List Value) : decision ≠ .accept values := by
  cases h <;> nofun

/-- A predicate that hands no arguments back. -/
def Predicate.Counts (p : Predicate) : Prop :=
  ∀ args count values, p.consume args = .ok (count, values) → 0 ≤ count

theorem Predicate.counts_one (description : String) (read : String → Except Refusal Value) :
    (one description read).Counts := by
  intro args count values h
  rw [(count_one h).1]
  decide

/-- A predicate that denies its arguments, or takes a number of them with their values. -/
def Predicate.DeniesOrTakes (p : Predicate) : Prop :=
  ∀ args, (∃ reason help, p.consume args = .error (.denied reason help)) ∨
    ∃ (count : Nat) (values : List Value), p.consume args = .ok (count, values)

theorem Predicate.DeniesOrTakes.counts {p : Predicate} (h : p.DeniesOrTakes) : p.Counts := by
  intro args count values hconsume
  rcases h args with ⟨reason, help, hdenied⟩ | ⟨count', values', htakes⟩
  · cases hdenied.symm.trans hconsume
  · cases htakes.symm.trans hconsume
    exact Int.natCast_nonneg count'

/-- **One part.** -/
theorem Part.takes_or_refuses (part : Part) (h : ∀ p, part = .predicate p → p.Counts)
    (rest : List String) :
    (∃ count own, part.Takes rest count own ∧ count ≤ rest.length) ∨
      ∃ decision, part.Refuses rest decision := by
  cases part with
  | keyword text =>
    cases rest with
    | nil => exact .inr ⟨_, .absent text⟩
    | cons arg rest =>
      by_cases harg : arg = text
      · subst harg
        exact .inl ⟨1, [], .keyword arg rest, Nat.succ_pos _⟩
      · exact .inr ⟨_, .other rest harg⟩
  | predicate p =>
    cases hconsume : p.consume rest with
    | error refusal =>
      cases refusal with
      | denied reason help =>
        cases help with
        | false => exact .inr ⟨_, .denied hconsume⟩
        | true => exact .inr ⟨_, .help hconsume⟩
      | fault f => exact .inr ⟨_, .failed hconsume⟩
      | mute raised => exact .inr ⟨_, .mute hconsume⟩
    | ok taken =>
      obtain ⟨count, own⟩ := taken
      by_cases hfar : rest.length < count
      · exact .inr ⟨_, .tooFar hconsume hfar⟩
      · obtain ⟨count, rfl⟩ := Int.eq_ofNat_of_zero_le (h p rfl rest count own hconsume)
        exact .inl ⟨count, own, .predicate hconsume, by omega⟩

namespace Signature

variable {args : List String} {parts : List Part} {first : Nat} {cut : Nat → Nat}
  {own : Nat → List Value}

/-! ### Cut points -/

/-- The parts are satisfied one after the other: part `j` has the arguments between the cut points
`j` and `j + 1`, and `own j` are its values. -/
structure Cuts (args : List String) (parts : List Part) (first : Nat) (cut : Nat → Nat)
    (own : Nat → List Value) : Prop where
  start : cut 0 = first
  ascending : ∀ j < parts.length, cut j ≤ cut (j + 1)
  within : cut parts.length ≤ args.length
  step : ∀ j (part : Part), parts[j]? = some part →
    part.Takes (args.drop (cut j)) (cut (j + 1) - cut j) (own j)

namespace Cuts

theorem mono (h : Cuts args parts first cut own) {j k : Nat} (hjk : j ≤ k)
    (hk : k ≤ parts.length) : cut j ≤ cut k := by
  induction hjk with
  | refl => exact Nat.le_refl _
  | @step k _ ih => exact Nat.le_trans (ih (Nat.le_of_succ_le hk)) (h.ascending k hk)

/-- No parts. -/
theorem nil (hfirst : first ≤ args.length) (own : Nat → List Value) :
    Cuts args [] first (fun _ => first) own :=
  ⟨rfl, fun _ h => absurd h (Nat.not_lt_zero _), hfirst, nofun⟩

/-- A part in front of others. -/
theorem cons {part : Part} {count : Nat} {values : List Value}
    (htakes : part.Takes (args.drop first) count values)
    (h : Cuts args parts (first + count) cut own) :
    Cuts args (part :: parts) first (fun j => Nat.casesOn j first cut)
      (fun j => Nat.casesOn j values own) := by
  refine ⟨rfl, fun j hj => ?_, h.within, fun j other hj => ?_⟩
  · cases j with
    | zero =>
      show first ≤ cut 0
      rw [h.start]
      exact Nat.le_add_right _ _
    | succ j => exact h.ascending j (Nat.lt_of_succ_lt_succ hj)
  · cases j with
    | zero =>
      cases hj
      show part.Takes (args.drop first) (cut 0 - first) values
      rw [h.start, Nat.add_sub_cancel_left]
      exact htakes
    | succ j => exact h.step j other hj

/-- The first part, and the others behind it. -/
theorem uncons {part : Part} (h : Cuts args (part :: parts) first cut own) :
    part.Takes (args.drop first) (cut 1 - first) (own 0) ∧ first ≤ cut 1 ∧
      cut 1 ≤ args.length ∧
      Cuts args parts (cut 1) (fun j => cut (j + 1)) (fun j => own (j + 1)) := by
  have htakes := h.step 0 part rfl
  have hfirst := h.ascending 0 (Nat.succ_pos _)
  have hnext : cut 1 ≤ cut (parts.length + 1) :=
    h.mono (Nat.succ_le_succ (Nat.zero_le _)) (Nat.le_refl _)
  rw [h.start] at htakes hfirst
  refine ⟨htakes, hfirst, Nat.le_trans hnext h.within, rfl,
    fun j hj => h.ascending (j + 1) (Nat.succ_lt_succ hj), h.within, fun j other hj => ?_⟩
  exact h.step (j + 1) other hj

end Cuts

/-! ### Parts in a row -/

@[simp] theorem argsFrom_natCast (args : List String) (index : Nat) :
    argsFrom args (index : Int) = args.drop index := by
  rw [argsFrom, if_neg (by omega), Int.toNat_natCast]

/-- A part that is satisfied leaves the rest to those behind it. -/
theorem consumeParts_of_takes {part : Part} {count : Nat} {values : List Value}
    (htakes : part.Takes (args.drop first) count values)
    (hwithin : count ≤ (args.drop first).length) :
    consumeParts args (part :: parts) first =
      (consumeParts args parts (first + count : Nat)).map fun found =>
        (values ++ found.1, found.2) := by
  generalize hrest : args.drop first = rest at htakes hwithin
  cases htakes with
  | keyword text rest =>
    simp only [consumeParts, argsFrom_natCast, hrest, if_true, Int.natCast_add, Int.natCast_one]
    cases consumeParts args parts (first + 1) <;> rfl
  | predicate hconsume =>
    have hnear : ¬ (rest.length : Int) < count := by omega
    simp only [consumeParts, argsFrom_natCast, hrest, hconsume, if_neg hnear, Int.natCast_add]
    cases consumeParts args parts (first + count) <;> rfl

/-- A part that is not satisfied decides. -/
theorem consumeParts_of_refuses {part : Part} {decision : Decision}
    (h : part.Refuses (args.drop first) decision) (parts : List Part) :
    consumeParts args (part :: parts) first = .error decision := by
  generalize hrest : args.drop first = rest at h
  cases h with
  | absent text => simp only [consumeParts, argsFrom_natCast, hrest]
  | other rest hne => simp only [consumeParts, argsFrom_natCast, hrest, if_neg hne]
  | denied hconsume => simp only [consumeParts, argsFrom_natCast, hrest, hconsume]
  | help hconsume => simp only [consumeParts, argsFrom_natCast, hrest, hconsume]
  | tooFar hconsume hfar =>
    simp only [consumeParts, argsFrom_natCast, hrest, hconsume, if_pos hfar]
  | failed hconsume => simp only [consumeParts, argsFrom_natCast, hrest, hconsume]
  | mute hconsume => simp only [consumeParts, argsFrom_natCast, hrest, hconsume]

/-- **Parts that are satisfied.** Their values stand in front of those of the parts behind them. -/
theorem consumeParts_append (h : Cuts args parts first cut own) (others : List Part) :
    consumeParts args (parts ++ others) first =
      (consumeParts args others (cut parts.length)).map fun found =>
        ((List.range parts.length).flatMap own ++ found.1, found.2) := by
  induction parts generalizing first cut own with
  | nil =>
    rw [List.nil_append, List.length_nil, h.start]
    cases consumeParts args others first <;> rfl
  | cons part parts ih =>
    obtain ⟨htakes, hfirst, hwithin, hrest⟩ := h.uncons
    have hcount : cut 1 - first ≤ (args.drop first).length := by
      rw [List.length_drop]
      omega
    rw [List.cons_append, consumeParts_of_takes htakes hcount, Nat.add_sub_cancel' hfirst,
      ih hrest, List.length_cons, List.range_succ_eq_map, List.flatMap_cons, List.flatMap_map]
    cases consumeParts args others (cut (parts.length + 1)) with
    | error decision => rfl
    | ok found => simp [Except.map]

/-- **All parts.** They are satisfied, or there is a first one that is not, and it decides. -/
theorem consumeParts_cases (parts : List Part) (hparts : ∀ p, .predicate p ∈ parts → p.Counts)
    (hfirst : first ≤ args.length) :
    (∃ cut own, Cuts args parts first cut own) ∨
      ∃ k part decision cut own, parts[k]? = some part ∧ Cuts args (parts.take k) first cut own ∧
        part.Refuses (args.drop (cut k)) decision := by
  induction parts generalizing first with
  | nil => exact .inl ⟨_, fun _ => [], .nil hfirst _⟩
  | cons part parts ih =>
    have hpart : ∀ p, part = .predicate p → p.Counts :=
      fun p hp => hparts p (hp ▸ List.mem_cons_self)
    rcases part.takes_or_refuses hpart (args.drop first) with
      ⟨count, values, htakes, hcount⟩ | ⟨decision, hrefuses⟩
    · have hnext : first + count ≤ args.length := by
        rw [List.length_drop] at hcount
        omega
      rcases ih (fun p hp => hparts p (List.mem_cons_of_mem part hp)) hnext with
        ⟨cut, own, hcuts⟩ | ⟨k, other, decision, cut, own, hk, hcuts, hrefuses⟩
      · exact .inl ⟨_, _, hcuts.cons htakes⟩
      · exact .inr ⟨k + 1, other, decision, _, _, hk, hcuts.cons htakes, hrefuses⟩
    · exact .inr ⟨0, part, decision, _, fun _ => [], rfl, .nil hfirst _, hrefuses⟩

/-! ### Decisions -/

/-- The reason of a denial because of arguments that are left over. -/
def leftoverReason (s : Signature) (rest : List String) : String :=
  (if s.parts.isEmpty then "Expected no arguments but got: "
    else "Unexpected arguments after " ++ s.description ++ ": ") ++ " ".intercalate rest

/-- Parts that are all satisfied accept, unless arguments are left over. -/
theorem decide_of_cuts (h : Cuts args parts 0 cut own) :
    decide ⟨parts⟩ args =
      if cut parts.length < args.length then
        .deny (leftoverReason ⟨parts⟩ (args.drop (cut parts.length))) false
      else .accept ((List.range parts.length).flatMap own) := by
  have hparts := consumeParts_append h []
  rw [List.append_nil] at hparts
  have hparts' : consumeParts args parts 0 =
      .ok ((List.range parts.length).flatMap own, (cut parts.length : Int)) := by
    refine hparts.trans ?_
    simp [consumeParts, Except.map]
  simp only [decide, hparts', argsFrom_natCast, Int.ofNat_lt, leftoverReason]
  split
  · split <;> rfl
  · rfl

/-- The first part that is not satisfied decides. -/
theorem decide_of_refuses {k : Nat} {part : Part} {decision : Decision}
    (hk : parts[k]? = some part) (h : Cuts args (parts.take k) 0 cut own)
    (hrefuses : part.Refuses (args.drop (cut k)) decision) :
    decide ⟨parts⟩ args = decision := by
  obtain ⟨hlt, rfl⟩ := List.getElem?_eq_some_iff.1 hk
  have hlength : (parts.take k).length = k := List.length_take_of_le (Nat.le_of_lt hlt)
  have hparts := consumeParts_append h (parts[k] :: parts.drop (k + 1))
  rw [hlength, consumeParts_of_refuses hrefuses, List.getElem_cons_drop, List.take_append_drop]
    at hparts
  have hparts' : consumeParts args parts 0 = .error decision := hparts
  simp only [decide, hparts']

/-- **The three ways to a decision.** -/
theorem decide_cases (parts : List Part) (args : List String)
    (hparts : ∀ p, .predicate p ∈ parts → p.Counts) :
    (∃ cut own, Cuts args parts 0 cut own ∧ cut parts.length = args.length ∧
      decide ⟨parts⟩ args = .accept ((List.range parts.length).flatMap own)) ∨
    (∃ cut own, Cuts args parts 0 cut own ∧ cut parts.length < args.length ∧
      decide ⟨parts⟩ args =
        .deny (leftoverReason ⟨parts⟩ (args.drop (cut parts.length))) false) ∨
    ∃ k part cut own, parts[k]? = some part ∧ Cuts args (parts.take k) 0 cut own ∧
      part.Refuses (args.drop (cut k)) (decide ⟨parts⟩ args) := by
  rcases consumeParts_cases parts hparts (Nat.zero_le args.length) with
    ⟨cut, own, hcuts⟩ | ⟨k, part, decision, cut, own, hk, hcuts, hrefuses⟩
  · have hwithin := hcuts.within
    rw [decide_of_cuts hcuts]
    split
    · rename_i hless
      exact .inr (.inl ⟨cut, own, hcuts, hless, rfl⟩)
    · exact .inl ⟨cut, own, hcuts, by omega, rfl⟩
  · rw [decide_of_refuses hk hcuts hrefuses]
    exact .inr (.inr ⟨k, part, cut, own, hk, hcuts, hrefuses⟩)

/-- What is accepted has cut points up to its end. -/
theorem exists_cuts_of_accept {values : List Value}
    (hparts : ∀ p, .predicate p ∈ parts → p.Counts) (h : decide ⟨parts⟩ args = .accept values) :
    ∃ cut own, Cuts args parts 0 cut own ∧ cut parts.length = args.length ∧
      values = (List.range parts.length).flatMap own := by
  rcases decide_cases parts args hparts with
    ⟨cut, own, hcuts, hend, haccept⟩ | ⟨cut, own, -, -, hdeny⟩ | ⟨k, part, cut, own, -, -, hrefuses⟩
  · exact ⟨cut, own, hcuts, hend, Decision.accept.inj (h.symm.trans haccept)⟩
  · cases h.symm.trans hdeny
  · exact absurd h (hrefuses.ne_accept values)

/-- Where predicates do not fail, a part that is not satisfied denies. -/
theorem denies_of_refuses {part : Part} {rest : List String} {decision : Decision}
    (h : ∀ p, part = .predicate p → p.DeniesOrTakes) (hrefuses : part.Refuses rest decision) :
    ∃ reason help, decision = .deny reason help := by
  cases hrefuses with
  | @failed p args f hconsume =>
    rcases h p rfl rest with ⟨reason, help, hdenied⟩ | ⟨count, values, htakes⟩
    · cases hdenied.symm.trans hconsume
    · cases htakes.symm.trans hconsume
  | @mute p args raised hconsume =>
    rcases h p rfl rest with ⟨reason, help, hdenied⟩ | ⟨count, values, htakes⟩
    · cases hdenied.symm.trans hconsume
    · cases htakes.symm.trans hconsume
  | _ => exact ⟨_, _, rfl⟩

/-- **Signatures decide by cut points.** A signature accepts exactly if its parts are satisfied one
after the other, up to the end of the arguments, and the values are theirs in a row. It denies
exactly if some part is not satisfied by what those in front of it left, for the reason of this
part, or if arguments are left over behind all of them. There is no other decision. -/
theorem decide_by_cuts (parts : List Part) (args : List String)
    (hparts : ∀ p, .predicate p ∈ parts → p.DeniesOrTakes) :
    (∀ values, decide ⟨parts⟩ args = .accept values ↔
      ∃ cut own, Cuts args parts 0 cut own ∧ cut parts.length = args.length ∧
        values = (List.range parts.length).flatMap own) ∧
    (∀ reason help, decide ⟨parts⟩ args = .deny reason help ↔
      (∃ k part cut own, parts[k]? = some part ∧ Cuts args (parts.take k) 0 cut own ∧
        part.Refuses (args.drop (cut k)) (.deny reason help)) ∨
      ∃ cut own, Cuts args parts 0 cut own ∧ cut parts.length < args.length ∧
        reason = leftoverReason ⟨parts⟩ (args.drop (cut parts.length)) ∧ help = false) ∧
    ((∃ values, decide ⟨parts⟩ args = .accept values) ∨
      ∃ reason help, decide ⟨parts⟩ args = .deny reason help) := by
  have hcounts : ∀ p, .predicate p ∈ parts → p.Counts := fun p hp => (hparts p hp).counts
  refine ⟨fun values => ⟨exists_cuts_of_accept hcounts, ?_⟩,
    fun reason help => ⟨fun h => ?_, ?_⟩, ?_⟩
  · rintro ⟨cut, own, hcuts, hend, rfl⟩
    rw [decide_of_cuts hcuts, if_neg (by omega)]
  · rcases decide_cases parts args hcounts with
      ⟨cut, own, -, -, haccept⟩ | ⟨cut, own, hcuts, hless, hdeny⟩ |
        ⟨k, part, cut, own, hk, hcuts, hrefuses⟩
    · cases h.symm.trans haccept
    · cases h.symm.trans hdeny
      exact .inr ⟨cut, own, hcuts, hless, rfl, rfl⟩
    · rw [h] at hrefuses
      exact .inl ⟨k, part, cut, own, hk, hcuts, hrefuses⟩
  · rintro (⟨k, part, cut, own, hk, hcuts, hrefuses⟩ | ⟨cut, own, hcuts, hless, rfl, rfl⟩)
    · exact decide_of_refuses hk hcuts hrefuses
    · rw [decide_of_cuts hcuts, if_pos hless]
  · rcases decide_cases parts args hcounts with
      ⟨cut, own, -, -, haccept⟩ | ⟨cut, own, -, -, hdeny⟩ | ⟨k, part, cut, own, hk, -, hrefuses⟩
    · exact .inl ⟨_, haccept⟩
    · exact .inr ⟨_, _, hdeny⟩
    · refine .inr (denies_of_refuses (fun p hp => hparts p ?_) hrefuses)
      exact List.mem_of_getElem? (hp ▸ hk)

/-- A keyword, a predicate that takes nothing and has a value all the same, one that takes two
arguments whether they are there or not, and one that takes all the others. -/
def mixedParts : List Part :=
  [.keyword "put", .predicate (Host.taking "<mark>" 0 [.int 7]),
    .predicate (Host.taking "<pair>" 2 [.bool true]), .predicate .ignoreAll]

/-- Behind the keyword, they are satisfied by two arguments or more; with one, the third of them has
advanced too far. -/
theorem decide_by_cuts_mixed :
    (∀ p, .predicate p ∈ mixedParts → p.DeniesOrTakes) ∧
      decide ⟨mixedParts⟩ ["put", "a", "b", "c"] = .accept [.int 7, .bool true] ∧
      decide ⟨mixedParts⟩ ["put", "a"] = .deny "Decider advanced too far" false := by
  have hparts : ∀ p, .predicate p ∈ mixedParts → p.DeniesOrTakes := by
    intro p hp args
    simp only [mixedParts, List.mem_cons, reduceCtorEq, Part.predicate.injEq, List.not_mem_nil,
      or_false, false_or] at hp
    rcases hp with rfl | rfl | rfl
    · exact .inr ⟨0, [.int 7], rfl⟩
    · exact .inr ⟨2, [.bool true], rfl⟩
    · exact .inr ⟨args.length, [], rfl⟩
  have hmark : ∀ args, Part.Takes (.predicate (Host.taking "<mark>" 0 [.int 7])) args 0 [.int 7] :=
    fun args => .predicate rfl
  have hpair : ∀ args,
      Part.Takes (.predicate (Host.taking "<pair>" 2 [.bool true])) args 2 [.bool true] :=
    fun args => .predicate rfl
  have hrest : Part.Takes (.predicate .ignoreAll) ["c"] 1 [] := .predicate rfl
  obtain ⟨haccepts, -, -⟩ := decide_by_cuts mixedParts ["put", "a", "b", "c"] hparts
  obtain ⟨-, hdenies, -⟩ := decide_by_cuts mixedParts ["put", "a"] hparts
  have hall : Cuts ["put", "a", "b", "c"] mixedParts 0 _ _ :=
    .cons (.keyword "put" _) (.cons (hmark _) (.cons (hpair _) (.cons hrest
      (.nil (by decide) fun _ => []))))
  have htwo : Cuts ["put", "a"] (mixedParts.take 2) 0 _ _ :=
    .cons (.keyword "put" _) (.cons (hmark _) (.nil (by decide) fun _ => []))
  refine ⟨hparts, (haccepts _).2 ⟨_, _, hall, rfl, rfl⟩,
    (hdenies _ _).2 (.inl ⟨2, _, _, _, rfl, htwo, ?_⟩)⟩
  exact .tooFar rfl (by decide)

end Signature

end CommandShell
