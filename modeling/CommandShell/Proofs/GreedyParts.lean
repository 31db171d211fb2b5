import CommandShell.Proofs.CutPoints
import CommandShell.Proofs.IntegerText
import CommandShell.Proofs.TableStock

/-!
# Greedy predicates

A predicate takes its arguments once and for all: no part behind it can have it take fewer. The
predicates for any number of arguments take all they can, so a part behind one of them may be left
with nothing that satisfies it, whatever the arguments are. A signature with such a part accepts no
arguments, and an entry with such a signature is never found.

* `tame_of_standard` — what standard predicates can do, from one lemma for each kind;
* `Cuts.exhausted`, `Cuts.beginsOtherwise` — what is left behind a greedy predicate;
* `eq_ignoreAll_of_consume_nil`, `consume_ne_ok_of_takingIntegers` — what it does not satisfy;
* `not_cuts_of_starves`, `decide_of_standard` — the parts of a signature;
* `greedy_never_undone` — **a starved signature accepts nothing**.
-/

namespace CommandShell

open Number

namespace Predicate

/-- The standard predicates. -/
def standard : List Predicate :=
  [anyAtom, anyBase64, anyBool, anyReal, anyInt32, anyText, anyUInt8, anyUInt64, ignoreAll,
    manyInt32, manyTexts, nonnegativeReal, twoTexts]

/-! ### What standard predicates can do -/

/-- What may come of arguments: a value, a denial without help, or the fault of an integer text
among them that has too many digits. -/
inductive Regular {α : Type} (args : List String) : Except Refusal α → Prop
  | ok (value : α) : Regular args (.ok value)
  | denied (reason : String) : Regular args (.error (.denied reason false))
  | overlong {text : String} {count : Nat} : text ∈ args → Overlong false text count →
      Regular args (.error (.fault (.tooManyDigits count)))

namespace Regular

variable {α β : Type} {args : List String} {result : Except Refusal α}

theorem mono (h : Regular args result) {args' : List String} (hsub : args ⊆ args') :
    Regular args' result := by
  cases h with
  | ok value => exact .ok value
  | denied reason => exact .denied reason
  | overlong htext hlong => exact .overlong (hsub htext) hlong

theorem bind (h : Regular args result) {next : α → Except Refusal β}
    (hnext : ∀ value, Regular args (next value)) : Regular args (result.bind next) := by
  cases h with
  | ok value => exact hnext value
  | denied reason => exact .denied reason
  | overlong htext hlong => exact .overlong htext hlong

theorem map (h : Regular args result) (f : α → β) : Regular args (result.map f) := by
  cases h with
  | ok value => exact .ok (f value)
  | denied reason => exact .denied reason
  | overlong htext hlong => exact .overlong htext hlong

end Regular

theorem regular_readIntegerIn (text : String) (minimum maximum : Int) (unsigned : Bool) :
    Regular [text] (readIntegerIn text minimum maximum unsigned) := by
  by_cases hlong : ∃ count, Overlong unsigned text count
  · obtain ⟨count, hlong⟩ := hlong
    rw [readIntegerIn_of_overlong hlong]
    exact .overlong List.mem_cons_self hlong.signed
  · by_cases hdenotes : ∃ n, Denotes unsigned minimum maximum text n
    · obtain ⟨n, hn⟩ := hdenotes
      rw [readIntegerIn_eq_ok_iff.2 hn]
      exact .ok n
    · obtain ⟨reason, hread⟩ :=
        readIntegerIn_denied (not_exists.1 hdenotes) (not_exists.1 hlong)
      rw [hread]
      exact .denied reason

theorem regular_readReal (text : String) : Regular [text] (readReal text) := by
  unfold readReal
  split
  · exact .denied text
  · split
    · exact .ok _
    · exact .denied text

theorem regular_readInt32s (args : List String) : Regular args (readInt32s args) := by
  induction args with
  | nil => exact .ok []
  | cons arg args ih =>
    rw [readInt32s]
    split
    · have harg : Regular (arg :: args) (readInt32 arg) :=
        (regular_readIntegerIn arg minInt32 maxInt32 false).mono
          (List.cons_subset_cons arg (List.nil_subset args))
      have hargs : Regular (arg :: args) (readInt32s args) :=
        ih.mono (List.subset_cons_self arg args)
      exact harg.bind fun n => hargs.bind fun values => .ok _
    · exact .ok []

/-- A predicate of whose arguments nothing else may come, and which hands none of them back. -/
structure Tame (p : Predicate) : Prop where
  regular : ∀ args, Regular args (p.consume args)
  counts : p.Counts

/-- **One argument.** -/
theorem tame_one {description : String} {read : String → Except Refusal Value}
    (h : ∀ arg, Regular [arg] (read arg)) : (one description read).Tame := by
  refine ⟨fun args => ?_, counts_one description read⟩
  cases args with
  | nil => exact .denied _
  | cons arg args =>
    exact ((h arg).mono (List.cons_subset_cons arg (List.nil_subset args))).map _

theorem count_manyInt32 {args : List String} {count : Int} {values : List Value}
    (h : manyInt32.consume args = .ok (count, values)) :
    readInt32s args = .ok values ∧ count = values.length := by
  cases hread : readInt32s args with
  | error refusal => cases (consume_manyInt32_of_error hread).symm.trans h
  | ok read =>
    by_cases hne : read = []
    · subst hne
      obtain ⟨reason, hdenied⟩ := consume_manyInt32_of_nil hread
      cases hdenied.symm.trans h
    · cases (consume_manyInt32_of_ok hread hne).symm.trans h
      exact ⟨rfl, rfl⟩

/-- **Many integers.** -/
theorem tame_manyInt32 : manyInt32.Tame := by
  refine ⟨fun args => ?_, fun args count values h => ?_⟩
  · refine (regular_readInt32s args).bind fun values => ?_
    split
    · exact .denied _
    · exact .denied _
    · exact .ok _
  · rw [(count_manyInt32 h).2]
    exact Int.natCast_nonneg _

theorem count_manyTexts {args : List String} {count : Int} {values : List Value}
    (h : manyTexts.consume args = .ok (count, values)) : count = args.length := by
  simp only [manyTexts, require] at h
  split at h
  · cases h
  · cases h
    rfl

/-- **Many texts.** -/
theorem tame_manyTexts : manyTexts.Tame := by
  refine ⟨fun args => ?_, fun args count values h => ?_⟩
  · simp only [manyTexts, require]
    split
    · exact .denied _
    · exact .ok _
  · rw [count_manyTexts h]
    exact Int.natCast_nonneg _

/-- **Two texts.** -/
theorem tame_twoTexts : twoTexts.Tame := by
  refine ⟨fun args => ?_, fun args count values h => ?_⟩
  · rcases args with _ | ⟨first, _ | ⟨second, rest⟩⟩
    · exact .denied _
    · exact .denied _
    · exact .ok _
  · rcases args with _ | ⟨first, _ | ⟨second, rest⟩⟩ <;> cases h
    decide

/-- **Standard predicates.** -/
theorem tame_of_standard {p : Predicate} (h : p ∈ standard) : p.Tame := by
  simp only [standard, List.mem_cons, List.not_mem_nil, or_false] at h
  rcases h with rfl | rfl | rfl | rfl | rfl | rfl | rfl | rfl | rfl | rfl | rfl | rfl | rfl
  · refine tame_one fun arg => ?_
    split
    · exact .denied arg
    · exact .ok _
  · refine tame_one fun arg => ?_
    split
    · exact .ok _
    · exact .denied _
  · refine tame_one fun arg => ?_
    split
    · exact .ok _
    · split
      · exact .ok _
      · exact .denied arg
  · exact tame_one fun arg => (regular_readReal arg).map _
  · exact tame_one fun arg => (regular_readIntegerIn arg _ _ _).map _
  · exact tame_one fun arg => .ok _
  · exact tame_one fun arg => (regular_readIntegerIn arg _ _ _).map _
  · exact tame_one fun arg => (regular_readIntegerIn arg _ _ _).map _
  · refine ⟨fun args => .ok _, fun args count values h => ?_⟩
    cases h
    exact Int.natCast_nonneg _
  · exact tame_manyInt32
  · exact tame_manyTexts
  · refine tame_one fun arg => (regular_readReal arg).bind fun x => ?_
    split
    · exact .ok _
    · exact .denied arg
  · exact tame_twoTexts

/-! ### What is left behind a greedy predicate -/

section

variable {args : List String}

/-- Many integers are read up to a token that is no integer text. -/
theorem beginsOtherwise_drop {values : List Value} (h : readInt32s args = .ok values) :
    BeginsOtherwise (args.drop values.length) := by
  induction args generalizing values with
  | nil =>
    intro token htoken
    rw [List.drop_nil] at htoken
    cases htoken
  | cons arg args ih =>
    rw [readInt32s] at h
    split at h
    · cases hread : readInt32 arg with
      | error refusal =>
        rw [hread] at h
        cases h
      | ok n =>
        cases hrest : readInt32s args with
        | error refusal =>
          rw [hread, hrest] at h
          cases h
        | ok others =>
          rw [hread, hrest] at h
          cases h
          exact ih hrest
    · rename_i hform
      cases h
      intro token htoken
      cases htoken
      exact mt (isIntegerText_iff false arg).2 hform

/-- The predicates that take all arguments. -/
def takingAll : List Predicate := [manyTexts, ignoreAll]

theorem count_of_takingAll {p : Predicate} (hp : p ∈ takingAll) {count : Int} {values : List Value}
    (h : p.consume args = .ok (count, values)) : count = args.length := by
  simp only [takingAll, List.mem_cons, List.not_mem_nil, or_false] at hp
  rcases hp with rfl | rfl
  · exact count_manyTexts h
  · cases h
    rfl

/-! ### What it does not satisfy -/

/-- No arguments satisfy only the predicate that ignores them. -/
theorem eq_ignoreAll_of_consume_nil {p : Predicate} (hp : p ∈ standard)
    {taken : Int × List Value} (h : p.consume [] = .ok taken) : p = ignoreAll := by
  simp only [standard, List.mem_cons, List.not_mem_nil, or_false] at hp
  rcases hp with rfl | rfl | rfl | rfl | rfl | rfl | rfl | rfl | rfl | rfl | rfl | rfl | rfl <;>
    cases h
  -- All others are denied.
  rfl

/-- The predicates that begin with an integer text. -/
def takingIntegers : List Predicate := [anyInt32, anyUInt8, anyUInt64, manyInt32]

theorem consume_integerIn_ne_ok (description : String) {minimum maximum : Int} {unsigned : Bool}
    (h : BeginsOtherwise args) (taken : Int × List Value) :
    (one description fun arg =>
      (readIntegerIn arg minimum maximum unsigned).map .int).consume args ≠ .ok taken := by
  intro hconsume
  cases args with
  | nil => cases hconsume
  | cons arg args =>
    -- What may have no minus is among what may have one.
    have hform : ¬ IntegerForm unsigned arg := by
      rintro ⟨sign, digits, hspells⟩
      exact h arg rfl ⟨sign, digits, hspells.signed⟩
    simp only [one, readIntegerIn_of_not_spells hform] at hconsume
    cases hconsume

theorem consume_ne_ok_of_takingIntegers {p : Predicate} (hp : p ∈ takingIntegers)
    (h : BeginsOtherwise args) (taken : Int × List Value) : p.consume args ≠ .ok taken := by
  simp only [takingIntegers, List.mem_cons, List.not_mem_nil, or_false] at hp
  rcases hp with rfl | rfl | rfl | rfl
  · exact consume_integerIn_ne_ok "<i32>" h taken
  · exact consume_integerIn_ne_ok "<u8>" h taken
  · exact consume_integerIn_ne_ok "<usize>" h taken
  · obtain ⟨reason, hdenied⟩ := consume_manyInt32_of_nil (readInt32s_of_stop h)
    intro hconsume
    cases hdenied.symm.trans hconsume

end

end Predicate

namespace Signature

open Predicate

variable {args : List String} {parts : List Part} {cut : Nat → Nat} {own : Nat → List Value}

/-- Keywords and standard predicates. -/
def Standard (parts : List Part) : Prop := ∀ p, .predicate p ∈ parts → p ∈ standard

/-- Some part stands where a greedy predicate leaves nothing for it: one that begins with an integer
right behind many integers, or one that needs an argument anywhere behind a predicate that takes
all. -/
inductive Starves (parts : List Part) : Prop
  | integers {j : Nat} {p : Predicate} : parts[j]? = some (.predicate manyInt32) →
      parts[j + 1]? = some (.predicate p) → p ∈ takingIntegers → Starves parts
  | all {i j : Nat} {p : Predicate} {part : Part} : i < j → parts[i]? = some (.predicate p) →
      p ∈ takingAll → parts[j]? = some part → part ≠ .predicate ignoreAll → Starves parts

/-! ### Signatures with greedy predicates -/

/-- Behind a predicate that takes all, nothing is left. -/
theorem Cuts.exhausted (h : Cuts args parts 0 cut own) {i j : Nat} {p : Predicate}
    (hi : parts[i]? = some (.predicate p)) (hp : p ∈ takingAll) (hij : i < j)
    (hj : j ≤ parts.length) : args.drop (cut j) = [] := by
  have hcount : ((cut (i + 1) - cut i : Nat) : Int) = (args.drop (cut i)).length := by
    cases h.step i _ hi with
    | predicate hconsume => exact count_of_takingAll hp hconsume
  have hnext : cut i ≤ cut (i + 1) := h.ascending i (List.getElem?_eq_some_iff.1 hi).1
  have hafter : cut (i + 1) ≤ cut j := h.mono hij hj
  rw [List.length_drop] at hcount
  refine List.drop_eq_nil_of_le ?_
  omega

/-- Right behind many integers, the row does not go on with an integer. -/
theorem Cuts.beginsOtherwise (h : Cuts args parts 0 cut own) {j : Nat}
    (hj : parts[j]? = some (.predicate manyInt32)) :
    BeginsOtherwise (args.drop (cut (j + 1))) := by
  have hle : cut j ≤ cut (j + 1) := h.ascending j (List.getElem?_eq_some_iff.1 hj).1
  cases h.step j _ hj with
  | predicate hconsume =>
    obtain ⟨hread, hcount⟩ := count_manyInt32 hconsume
    have hrest := beginsOtherwise_drop hread
    have hlength : cut j + (own j).length = cut (j + 1) := by omega
    rwa [List.drop_drop, hlength] at hrest

/-- **Starved parts.** Not all of them are satisfied, whatever the arguments are. -/
theorem not_cuts_of_starves (hstandard : Standard parts) (hstarves : Starves parts) :
    ¬ Cuts args parts 0 cut own := by
  intro h
  cases hstarves with
  | @integers j p hj hnext hp =>
    cases h.step (j + 1) _ hnext with
    | predicate hconsume =>
      exact consume_ne_ok_of_takingIntegers hp (h.beginsOtherwise hj) _ hconsume
  | @all i j p part hij hi hp hj hneeds =>
    have hrest := h.exhausted hi hp hij (Nat.le_of_lt (List.getElem?_eq_some_iff.1 hj).1)
    have htakes := h.step j part hj
    rw [hrest] at htakes
    cases htakes with
    | @predicate p' _ _ _ hconsume =>
      have heq := eq_ignoreAll_of_consume_nil (hstandard p' (List.mem_of_getElem? hj)) hconsume
      exact hneeds (congrArg Part.predicate heq)

/-- **Standard parts** accept, deny without help, or fail because of an integer text that has too
many digits. -/
theorem decide_of_standard (hstandard : Standard parts) (args : List String) :
    (∃ values, decide ⟨parts⟩ args = .accept values) ∨
      (∃ reason, decide ⟨parts⟩ args = .deny reason false) ∨
      ∃ text ∈ args, ∃ count, Overlong false text count ∧
        decide ⟨parts⟩ args = .failed (.tooManyDigits count) := by
  have hcounts : ∀ p, .predicate p ∈ parts → p.Counts :=
    fun p hp => (tame_of_standard (hstandard p hp)).counts
  rcases decide_cases parts args hcounts with
    ⟨cut, own, -, -, haccept⟩ | ⟨cut, own, -, -, hdeny⟩ | ⟨k, part, cut, own, hk, -, hrefuses⟩
  · exact .inl ⟨_, haccept⟩
  · exact .inr (.inl ⟨_, hdeny⟩)
  · generalize decide ⟨parts⟩ args = decision at hrefuses
    generalize hrest : args.drop (cut k) = rest at hrefuses
    refine .inr ?_
    have hregular : ∀ p, part = .predicate p → Regular rest (p.consume rest) := by
      rintro p rfl
      exact (tame_of_standard (hstandard p (List.mem_of_getElem? hk))).regular rest
    cases hrefuses with
    | @help p _ reason hconsume =>
      have hnone := hregular p rfl
      rw [hconsume] at hnone
      cases hnone
    | @mute p _ raised hconsume =>
      have hnone := hregular p rfl
      rw [hconsume] at hnone
      cases hnone
    | @failed p _ f hconsume =>
      have hlong := hregular p rfl
      rw [hconsume] at hlong
      cases hlong with
      | overlong htext hlong =>
        rw [← hrest] at htext
        exact .inr ⟨_, List.mem_of_mem_drop htext, _, hlong, rfl⟩
    | _ => exact .inl ⟨_, rfl⟩

/-- **Greedy predicates are never undone.** A signature of standard parts, one of which is left with
nothing that satisfies it, accepts no arguments: it denies them without help, or fails because one
of them is an integer text with too many digits. So an entry that was registered with it is never
found, in whatever table and by whatever call. -/
theorem greedy_never_undone {H : Type} (s : Signature) (hstandard : Standard s.parts)
    (hstarves : Starves s.parts) :
    (∀ args values, s.decide args ≠ .accept values) ∧
    (∀ args, (∃ reason, s.decide args = .deny reason false) ∨
      ∃ text ∈ args, ∃ count, Overlong false text count ∧
        s.decide args = .failed (.tooManyDigits count) ∧
        (Fault.tooManyDigits count).name = "ValueError") ∧
    ∀ (t t' : Table H) (r : Registration H) (e : Entry H),
      r.decider.toDecider = .ok s.toDecider → t.register r = (.ok e, t') →
      ∀ (later : Table H) name args values, (later.resolve name args).1 ≠ .ok (e, values) := by
  have hcounts : ∀ p, .predicate p ∈ s.parts → p.Counts :=
    fun p hp => (tame_of_standard (hstandard p hp)).counts
  have hnever : ∀ args values, s.decide args ≠ .accept values := by
    intro args values haccept
    obtain ⟨cut, own, hcuts, -⟩ := exists_cuts_of_accept hcounts haccept
    exact not_cuts_of_starves hstandard hstarves hcuts
  refine ⟨hnever, fun args => ?_, fun t t' r e hr hregister later name args values hfound => ?_⟩
  · rcases decide_of_standard hstandard args with
      ⟨values, haccept⟩ | hdeny | ⟨text, htext, count, hlong, hfailed⟩
    · exact absurd haccept (hnever args values)
    · exact .inl hdeny
    · exact .inr ⟨text, htext, count, hlong, hfailed, rfl⟩
  · have hentry : t.checkEntry r = .ok e := by
      unfold Table.register at hregister
      split at hregister
      · rename_i e' hentry
        cases hregister
        exact hentry
      · cases hregister
    have hdecider := (Table.checkEntry_ok hentry).1.decider
    have haccept := (Table.accept_of_resolve hfound).2.2
    rw [← Except.ok.inj (hr.symm.trans hdecider)] at haccept
    exact hnever args values haccept

/-- Many integers, and one byte more. -/
def sumParts : List Part := [.keyword "sum", .predicate manyInt32, .predicate anyUInt8]

/-- Everything, with a word that ends it. -/
def noteParts : List Part := [.predicate manyTexts, .predicate ignoreAll, .keyword "end"]

/-- Neither accepts anything, and the command `sum` is registered all the same. -/
theorem greedy_never_undone_sum :
    (∀ args values, decide ⟨sumParts⟩ args ≠ .accept values) ∧
      (∀ args values, decide ⟨noteParts⟩ args ≠ .accept values) ∧
      ∃ e, (Table.register {} ⟨.text "sum", .parts (sumParts.map .part), .handler ()⟩).1 = .ok e ∧
        ∀ (later : Table Unit) name args values,
          (later.resolve name args).1 ≠ .ok (e, values) := by
  have hsum : Standard sumParts := by
    intro p hp
    simp only [sumParts, List.mem_cons, reduceCtorEq, Part.predicate.injEq, List.not_mem_nil,
      or_false, false_or] at hp
    rcases hp with rfl | rfl <;> simp [standard]
  have hnote : Standard noteParts := by
    intro p hp
    simp only [noteParts, List.mem_cons, reduceCtorEq, Part.predicate.injEq, List.not_mem_nil,
      or_false] at hp
    rcases hp with rfl | rfl <;> simp [standard]
  have hbyte : Starves sumParts :=
    .integers (j := 1) rfl rfl (by simp [takingIntegers])
  have hend : Starves noteParts :=
    .all (i := 0) (j := 2) (by decide) rfl (by simp [takingAll]) rfl nofun
  obtain ⟨hnever, -, hlost⟩ := greedy_never_undone (H := Unit) ⟨sumParts⟩ hsum hbyte
  obtain ⟨hnever', -, -⟩ := greedy_never_undone (H := Unit) ⟨noteParts⟩ hnote hend
  exact ⟨hnever, hnever', _, rfl,
    hlost {} _ ⟨.text "sum", .parts (sumParts.map .part), .handler ()⟩ _ rfl rfl⟩

end Signature

end CommandShell
