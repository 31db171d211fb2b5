import CommandShell.Token.Lexeme

/-!
# Nesting of parentheses

Characters and tokens are both read as rows of parentheses. `nesting` follows such a row from a
given depth and stops where something closes that was never opened; a row is balanced if it leads
from depth zero back to depth zero without stopping.

* `nesting_eq_some_iff` — following a row is the same as counting: it succeeds if and only if no
  beginning of the row closes more than is open, and the depth it leads to is the difference of
  the totals;
* `balanced_iff_nesting` — so `Balanced`, which is stated by counting, can be computed;
* `splitLiteral_eq_some_iff`, `splitLiteral_eq_none_iff` — the body of a literal region is the
  balanced text in front of the parenthesis that closes it, and a region stays unclosed exactly
  when its characters never close more than they open.
-/

namespace CommandShell

/-- The part that an item plays among parentheses. -/
inductive Side where
  | opens
  | closes
  | neither
  deriving DecidableEq, Repr

/-- The part that a character plays. -/
def charSide (c : Char) : Side :=
  if c = '(' then .opens else if c = ')' then .closes else .neither

/-- The part that a token plays; the marker of a literal plays none. -/
def Token.side : Token → Side
  | .opening _ => .opens
  | .closing _ => .closes
  | _ => .neither

@[simp] theorem charSide_open : charSide '(' = .opens := rfl

@[simp] theorem charSide_close : charSide ')' = .closes := rfl

theorem charSide_of_ne {c : Char} (ho : c ≠ '(') (hc : c ≠ ')') : charSide c = .neither := by
  rw [charSide, if_neg ho, if_neg hc]

theorem eq_open_of_charSide {c : Char} (h : charSide c = .opens) : c = '(' := by
  unfold charSide at h
  split at h
  · assumption
  · split at h <;> cases h

theorem eq_close_of_charSide {c : Char} (h : charSide c = .closes) : c = ')' := by
  unfold charSide at h
  split at h
  · cases h
  · split at h
    · assumption
    · cases h

variable {α : Type}

/-- The depth behind a row of items, from depth `d` on; none if something closes that was not
opened. -/
def nesting (side : α → Side) : (d : Nat) → List α → Option Nat
  | d, [] => some d
  | d, a :: l =>
    match side a, d with
    | .opens, d => nesting side (d + 1) l
    | .closes, 0 => none
    | .closes, d + 1 => nesting side d l
    | .neither, d => nesting side d l

/-- How many items of a row play a part. -/
def countSide (side : α → Side) (s : Side) (l : List α) : Nat := l.countP fun a => side a == s

/-! ### Following a row -/

@[simp] theorem nesting_nil (side : α → Side) (d : Nat) : nesting side d [] = some d := rfl

theorem nesting_opens {side : α → Side} {a : α} (h : side a = .opens) (d : Nat) (l : List α) :
    nesting side d (a :: l) = nesting side (d + 1) l := by
  simp only [nesting, h]

theorem nesting_closes_zero {side : α → Side} {a : α} (h : side a = .closes) (l : List α) :
    nesting side 0 (a :: l) = none := by
  simp only [nesting, h]

theorem nesting_closes_succ {side : α → Side} {a : α} (h : side a = .closes) (d : Nat)
    (l : List α) : nesting side (d + 1) (a :: l) = nesting side d l := by
  simp only [nesting, h]

theorem nesting_neither {side : α → Side} {a : α} (h : side a = .neither) (d : Nat)
    (l : List α) : nesting side d (a :: l) = nesting side d l := by
  simp only [nesting, h]

/-- A row of two parts is followed part by part. -/
theorem nesting_append (side : α → Side) (d : Nat) (l m : List α) :
    nesting side d (l ++ m) = (nesting side d l).bind fun e => nesting side e m := by
  induction l generalizing d with
  | nil => rfl
  | cons a l ih =>
    rw [List.cons_append]
    cases hs : side a with
    | opens => rw [nesting_opens hs, nesting_opens hs, ih]
    | neither => rw [nesting_neither hs, nesting_neither hs, ih]
    | closes =>
      cases d with
      | zero => rw [nesting_closes_zero hs, nesting_closes_zero hs]; rfl
      | succ d => rw [nesting_closes_succ hs, nesting_closes_succ hs, ih]

/-- A row that can be followed can be followed at any greater depth. -/
theorem nesting_add {side : α → Side} {d e : Nat} {l : List α} (h : nesting side d l = some e)
    (k : Nat) : nesting side (d + k) l = some (e + k) := by
  induction l generalizing d with
  | nil =>
    rw [nesting_nil, Option.some.injEq] at h
    rw [nesting_nil, h]
  | cons a l ih =>
    cases hs : side a with
    | opens =>
      rw [nesting_opens hs] at h ⊢
      have := ih h
      rwa [Nat.add_right_comm] at this
    | neither =>
      rw [nesting_neither hs] at h ⊢
      exact ih h
    | closes =>
      cases d with
      | zero => rw [nesting_closes_zero hs] at h; cases h
      | succ d =>
        rw [nesting_closes_succ hs] at h
        rw [Nat.add_right_comm, nesting_closes_succ hs]
        exact ih h

/-- A row of items that are no parentheses keeps the depth. -/
theorem nesting_of_neither {side : α → Side} {l : List α} (h : ∀ a ∈ l, side a = .neither)
    (d : Nat) : nesting side d l = some d := by
  induction l with
  | nil => rfl
  | cons a l ih =>
    rw [nesting_neither (h a List.mem_cons_self)]
    exact ih fun b hb => h b (List.mem_cons_of_mem a hb)

/-! ### Counting -/

theorem countSide_cons (side : α → Side) (s : Side) (a : α) (l : List α) :
    countSide side s (a :: l) = countSide side s l + if side a = s then 1 else 0 := by
  simp [countSide, List.countP_cons]

theorem forall_prefix_cons {P : List α → Prop} {a : α} {l : List α} :
    (∀ p, p <+: a :: l → P p) ↔ P [] ∧ ∀ p, p <+: l → P (a :: p) := by
  constructor
  · intro h
    exact ⟨h [] List.nil_prefix, fun p hp => h (a :: p) (List.cons_prefix_cons.2 ⟨rfl, hp⟩)⟩
  · rintro ⟨hnil, hcons⟩ p hp
    cases p with
    | nil => exact hnil
    | cons b p =>
      obtain ⟨rfl, hpl⟩ := List.cons_prefix_cons.1 hp
      exact hcons p hpl

/-- **Following is counting.** A row leads from depth `d` to depth `e` if and only if no beginning
of it closes more than `d` and what it opens, and the totals give `e`. -/
theorem nesting_eq_some_iff (side : α → Side) (d e : Nat) (l : List α) :
    nesting side d l = some e ↔
      (∀ p, p <+: l → countSide side .closes p ≤ d + countSide side .opens p) ∧
        d + countSide side .opens l = e + countSide side .closes l := by
  induction l generalizing d with
  | nil =>
    rw [nesting_nil, Option.some.injEq]
    simp [countSide, List.prefix_nil]
  | cons a l ih =>
    rw [forall_prefix_cons]
    simp only [countSide_cons]
    cases hs : side a with
    | opens =>
      rw [nesting_opens hs, ih]
      simp [countSide, Nat.add_assoc, Nat.add_comm]
    | neither =>
      rw [nesting_neither hs, ih]
      simp [countSide]
    | closes =>
      cases d with
      | zero =>
        rw [nesting_closes_zero hs]
        -- The item alone already closes more than is open.
        constructor
        · intro h; cases h
        · rintro ⟨⟨_, h⟩, _⟩
          have := h [] List.nil_prefix
          simp [countSide] at this
      | succ d =>
        rw [nesting_closes_succ hs, ih]
        simp only [reduceCtorEq, if_false, if_true, Nat.add_zero]
        constructor
        · rintro ⟨hp, ht⟩
          refine ⟨⟨by simp [countSide], fun p hpl => ?_⟩, by omega⟩
          have := hp p hpl
          omega
        · rintro ⟨⟨_, hp⟩, ht⟩
          refine ⟨fun p hpl => ?_, by omega⟩
          have := hp p hpl
          omega

/-- Following a row fails if and only if some beginning of it closes more than is open. -/
theorem nesting_eq_none_iff (side : α → Side) (d : Nat) (l : List α) :
    nesting side d l = none ↔
      ∃ p, p <+: l ∧ d + countSide side .opens p < countSide side .closes p := by
  constructor
  · intro h
    refine Classical.byContradiction fun hno => ?_
    have hall : ∀ p, p <+: l → countSide side .closes p ≤ d + countSide side .opens p := by
      intro p hp
      exact Nat.le_of_not_lt fun hlt => hno ⟨p, hp, hlt⟩
    have htotal := hall l (List.prefix_refl l)
    have := (nesting_eq_some_iff side d
      (d + countSide side .opens l - countSide side .closes l) l).2 ⟨hall, by omega⟩
    rw [h] at this
    cases this
  · rintro ⟨p, hp, hlt⟩
    cases h : nesting side d l with
    | none => rfl
    | some e =>
      have := ((nesting_eq_some_iff side d e l).1 h).1 p hp
      omega

/-! ### Balanced texts -/

/-- A text with balanced parentheses: no beginning of it closes more than it opens, and all of it
closes as many as it opens. -/
def Balanced (cs : List Char) : Prop :=
  (∀ p, p <+: cs → p.count ')' ≤ p.count '(') ∧ cs.count '(' = cs.count ')'

theorem countSide_opens (cs : List Char) : countSide charSide .opens cs = cs.count '(' := by
  rw [countSide, List.count]
  refine List.countP_congr fun c _ => ?_
  by_cases ho : c = '('
  · simp [charSide, ho]
  · by_cases hc : c = ')' <;> simp [charSide, ho, hc]

theorem countSide_closes (cs : List Char) : countSide charSide .closes cs = cs.count ')' := by
  rw [countSide, List.count]
  refine List.countP_congr fun c _ => ?_
  by_cases ho : c = '('
  · simp [charSide, ho]
  · by_cases hc : c = ')' <;> simp [charSide, ho, hc]

theorem balanced_iff_nesting (cs : List Char) : Balanced cs ↔ nesting charSide 0 cs = some 0 := by
  rw [nesting_eq_some_iff]
  simp only [countSide_opens, countSide_closes, Nat.zero_add]
  exact Iff.rfl

instance : DecidablePred Balanced := fun cs =>
  decidable_of_iff (nesting charSide 0 cs = some 0) (balanced_iff_nesting cs).symm

/-! ### Literal regions -/

namespace Lexeme

/-- A character that only moves the depth belongs to the body of a region exactly as the body goes
on behind it. -/
theorem exists_body_cons_iff {d e : Nat} {c : Char}
    (hmove : ∀ raw, nesting charSide d (c :: raw) = nesting charSide e raw)
    (hclose : c = ')' → d ≠ 0) (acc cs body rest : List Char) :
    (∃ raw, body = (c :: acc).reverse ++ raw ∧ cs = raw ++ ')' :: rest ∧
        nesting charSide e raw = some 0) ↔
      ∃ raw, body = acc.reverse ++ raw ∧ c :: cs = raw ++ ')' :: rest ∧
        nesting charSide d raw = some 0 := by
  constructor
  · rintro ⟨raw, rfl, rfl, hraw⟩
    exact ⟨c :: raw, by simp, rfl, by rwa [hmove]⟩
  · rintro ⟨raw, rfl, hcs, hraw⟩
    cases raw with
    | nil =>
      obtain ⟨rfl, -⟩ := List.cons.inj hcs
      exact absurd (Option.some.inj hraw) (hclose rfl)
    | cons r raw =>
      obtain ⟨rfl, rfl⟩ := List.cons.inj hcs
      exact ⟨raw, by simp, rfl, by rwa [hmove] at hraw⟩

/-- **The body of a literal region.** It is split off from the rest exactly where a parenthesis
closes behind characters that lead from `depth` back to zero. -/
theorem splitLiteral_eq_some_iff (depth : Nat) (acc cs body rest : List Char) :
    splitLiteral depth acc cs = some (body, rest) ↔
      ∃ raw, body = acc.reverse ++ raw ∧ cs = raw ++ ')' :: rest ∧
        nesting charSide depth raw = some 0 := by
  induction cs generalizing depth acc with
  | nil => simp [splitLiteral]
  | cons c cs ih =>
    simp only [splitLiteral]
    by_cases ho : c = '('
    · subst ho
      rw [if_pos rfl, ih]
      exact exists_body_cons_iff (nesting_opens charSide_open depth)
        (fun h => absurd h (by decide)) acc cs body rest
    · rw [if_neg ho]
      by_cases hc : c = ')'
      · subst hc
        rw [if_pos rfl]
        cases depth with
        | zero =>
          -- The region ends here, and a body that went on would close too much.
          simp only [Option.some.injEq, Prod.mk.injEq]
          constructor
          · rintro ⟨rfl, rfl⟩
            exact ⟨[], by simp, rfl, rfl⟩
          · rintro ⟨raw, rfl, hcs, hraw⟩
            cases raw with
            | nil => simpa using hcs
            | cons r raw =>
              obtain ⟨rfl, -⟩ := List.cons.inj hcs
              rw [nesting_closes_zero charSide_close] at hraw
              cases hraw
        | succ depth =>
          show splitLiteral depth (')' :: acc) cs = some (body, rest) ↔ _
          rw [ih]
          exact exists_body_cons_iff (nesting_closes_succ charSide_close depth)
            (fun _ => Nat.succ_ne_zero depth) acc cs body rest
      · rw [if_neg hc, ih]
        exact exists_body_cons_iff (nesting_neither (charSide_of_ne ho hc) depth)
          (fun h => absurd h hc) acc cs body rest

theorem splitLiteral_of_balanced {raw : List Char} (h : Balanced raw) (rest : List Char) :
    splitLiteral 0 [] (raw ++ ')' :: rest) = some (raw, rest) :=
  (splitLiteral_eq_some_iff 0 [] _ raw rest).2
    ⟨raw, rfl, rfl, (balanced_iff_nesting raw).1 h⟩

/-- A literal region stays unclosed exactly when its characters never close more than is open. -/
theorem splitLiteral_eq_none_iff (depth : Nat) (acc cs : List Char) :
    splitLiteral depth acc cs = none ↔ ∃ e, nesting charSide depth cs = some e := by
  induction cs generalizing depth acc with
  | nil => simp [splitLiteral]
  | cons c cs ih =>
    simp only [splitLiteral]
    by_cases ho : c = '('
    · rw [if_pos ho, ih, ho, nesting_opens charSide_open]
    · rw [if_neg ho]
      by_cases hc : c = ')'
      · rw [if_pos hc, hc]
        cases depth with
        | zero => simp [nesting_closes_zero charSide_close]
        | succ depth =>
          show splitLiteral depth _ cs = none ↔ _
          rw [ih, nesting_closes_succ charSide_close]
      · rw [if_neg hc, ih, nesting_neither (charSide_of_ne ho hc)]

end Lexeme

end CommandShell
