import CommandShell.Proofs.Cut
import Mathlib.Data.List.Induction

/-!
# Open parentheses of a text

The parentheses of a text are matched in the usual way, each closing one with the nearest one that
is open, whatever else the text holds. `openBefore` gives the positions that are open in front of a
position. All that an error of parsing says about a place of a text is said in terms of it: which
parenthesis has no partner, which one opens a call and which one stands in a literal region, and
where the name of a command is due.

* `openBefore_add` — what a piece that closes no more than it opens does to the open positions;
* `inLiteral_of_region` — every place of a literal region is inside it;
* `FollowsCall.openBefore_eq` — up to blank characters behind the parenthesis of a call, that
  parenthesis is the innermost open one;
* `nameDueAt_succ` — a name is due right behind the parenthesis of a call, and blank characters
  keep it due.
-/

namespace CommandShell

/-! ### Lists from a position on -/

section Drop

variable {α : Type} {l rest : List α} {a : α} {p : Nat}

theorem getElem?_of_drop (h : l.drop p = a :: rest) : l[p]? = some a := by
  rw [← List.head?_drop, h, List.head?_cons]

theorem drop_succ_of_drop (h : l.drop p = a :: rest) : l.drop (p + 1) = rest := by
  rw [← List.tail_drop, h, List.tail_cons]

theorem drop_add_of_drop {s : List α} (h : l.drop p = s ++ rest) :
    l.drop (p + s.length) = rest := by
  rw [← List.drop_drop, h, List.drop_left]

/-- The places of a piece hold elements of the piece. -/
theorem exists_mem_of_drop {s : List α} (h : l.drop p = s ++ rest) {i : Nat} (hlo : p ≤ i)
    (hhi : i < p + s.length) : ∃ a ∈ s, l[i]? = some a := by
  have hlt : i - p < s.length := by omega
  refine ⟨s[i - p], List.getElem_mem hlt, ?_⟩
  have hget : (l.drop p)[i - p]? = some s[i - p] := by
    rw [h, List.getElem?_append_left hlt, List.getElem?_eq_getElem hlt]
  rwa [List.getElem?_drop, Nat.add_sub_cancel' hlo] at hget

end Drop

/-! ### Matching -/

/-- The positions of the parentheses that are open in front of a position, innermost first. A
closing parenthesis closes the innermost one, and is skipped if none is open. -/
def openBefore (cs : List Char) : Nat → List Nat
  | 0 => []
  | p + 1 =>
    if cs[p]? = some '(' then p :: openBefore cs p
    else if cs[p]? = some ')' then (openBefore cs p).tail
    else openBefore cs p

/-- A parenthesis without a partner: it closes nothing, or it is open at the end. -/
def Unmatched (cs : List Char) (p : Nat) : Prop :=
  (cs[p]? = some ')' ∧ openBefore cs p = []) ∨ cs[p]? = some '(' ∧ p ∈ openBefore cs cs.length

instance (cs : List Char) (p : Nat) : Decidable (Unmatched cs p) :=
  inferInstanceAs (Decidable (_ ∨ _))

section Matching

variable {cs : List Char} {p : Nat}

theorem openBefore_opening (h : cs[p]? = some '(') :
    openBefore cs (p + 1) = p :: openBefore cs p := by
  rw [openBefore, if_pos h]

theorem openBefore_closing (h : cs[p]? = some ')') :
    openBefore cs (p + 1) = (openBefore cs p).tail := by
  rw [openBefore, if_neg (by rw [h]; decide), if_pos h]

theorem openBefore_neither {c : Char} (h : cs[p]? = some c) (hs : charSide c = .neither) :
    openBefore cs (p + 1) = openBefore cs p := by
  rw [openBefore, h, if_neg, if_neg]
  · intro hc
    cases hc
    cases hs
  · intro hc
    cases hc
    cases hs

/-- **Pieces.** A piece that closes no more than it opens leaves what is open in front of it, and
puts on top as many positions as it leaves open itself. -/
theorem openBefore_add {s t : List Char} {e : Nat} (h : cs.drop p = s ++ t)
    (hs : nesting charSide 0 s = some e) :
    ∃ top, openBefore cs (p + s.length) = top ++ openBefore cs p ∧ top.length = e := by
  induction s using List.reverseRecOn generalizing e t with
  | nil =>
    cases hs
    exact ⟨[], rfl, rfl⟩
  | append_singleton s c ih =>
    rw [nesting_append] at hs
    obtain ⟨d, hd, hc⟩ := Option.bind_eq_some_iff.1 hs
    rw [List.append_assoc] at h
    obtain ⟨top, htop, hlen⟩ := ih h hd
    have hget : cs[p + s.length]? = some c := getElem?_of_drop (drop_add_of_drop h)
    rw [List.length_append, List.length_singleton, ← Nat.add_assoc]
    cases hside : charSide c with
    | opens =>
      obtain rfl := eq_open_of_charSide hside
      rw [nesting_opens hside, nesting_nil, Option.some.injEq] at hc
      rw [openBefore_opening hget, htop]
      exact ⟨_ :: top, rfl, by rw [List.length_cons, hlen, hc]⟩
    | closes =>
      obtain rfl := eq_close_of_charSide hside
      cases d with
      | zero =>
        rw [nesting_closes_zero hside] at hc
        cases hc
      | succ d =>
        rw [nesting_closes_succ hside, nesting_nil, Option.some.injEq] at hc
        obtain ⟨q, top, rfl⟩ := List.exists_cons_of_length_eq_add_one hlen
        rw [openBefore_closing hget, htop]
        exact ⟨top, rfl, by rw [← hc]; exact Nat.succ.inj hlen⟩
    | neither =>
      rw [nesting_neither hside, nesting_nil, Option.some.injEq] at hc
      rw [openBefore_neither hget hside]
      exact ⟨top, htop, hlen.trans hc⟩

/-- A piece that closes what it opens leaves the open positions alone. -/
theorem openBefore_balanced {s t : List Char} (h : cs.drop p = s ++ t)
    (hs : nesting charSide 0 s = some 0) : openBefore cs (p + s.length) = openBefore cs p := by
  obtain ⟨top, htop, hlen⟩ := openBefore_add h hs
  rw [htop, List.length_eq_zero_iff.1 hlen, List.nil_append]

/-- A position that is open stands in front, and a parenthesis opens there. -/
theorem opening_of_mem_openBefore {q : Nat} (h : q ∈ openBefore cs p) :
    q < p ∧ cs[q]? = some '(' := by
  induction p with
  | zero => cases h
  | succ p ih =>
    rw [openBefore] at h
    split at h
    · rename_i hopen
      rcases List.mem_cons.1 h with rfl | h
      · exact ⟨Nat.lt_succ_self _, hopen⟩
      · exact ⟨Nat.lt_succ_of_lt (ih h).1, (ih h).2⟩
    · split at h
      · have hmem := List.mem_of_mem_tail h
        exact ⟨Nat.lt_succ_of_lt (ih hmem).1, (ih hmem).2⟩
      · exact ⟨Nat.lt_succ_of_lt (ih h).1, (ih h).2⟩

/-- Below an open position stands what was open in front of it. -/
theorem suffix_of_mem_openBefore {q : Nat} (h : q ∈ openBefore cs p) :
    q :: openBefore cs q <:+ openBefore cs p := by
  induction p with
  | zero => cases h
  | succ p ih =>
    rw [openBefore] at h ⊢
    split at h
    · rename_i hopen
      rw [if_pos hopen]
      rcases List.mem_cons.1 h with rfl | h
      · exact List.suffix_refl _
      · exact (ih h).trans (List.suffix_cons _ _)
    · rename_i hopen
      rw [if_neg hopen]
      split at h
      · rename_i hclose
        rw [if_pos hclose]
        have hbelow := ih (List.mem_of_mem_tail h)
        cases hstack : openBefore cs p with
        | nil =>
          rw [hstack] at h
          cases h
        | cons top below =>
          rw [hstack] at h hbelow
          rcases List.suffix_cons_iff.1 hbelow with heq | hbelow
          · -- The position would be open in front of itself.
            obtain ⟨-, rfl⟩ := List.cons.inj heq
            exact absurd (opening_of_mem_openBefore h).1 (Nat.lt_irrefl q)
          · exact hbelow
      · rename_i hclose
        rw [if_neg hclose]
        exact ih h

end Matching

/-! ### Literal regions and calls -/

/-- A position inside a literal region: some parenthesis that is open there has the marker right
behind it. -/
def InLiteral (cs : List Char) (p : Nat) : Prop := ∃ q ∈ openBefore cs p, cs[q + 1]? = some '#'

instance (cs : List Char) (p : Nat) : Decidable (InLiteral cs p) :=
  inferInstanceAs (Decidable (∃ q ∈ openBefore cs p, cs[q + 1]? = some '#'))

/-- A parenthesis that opens a call. -/
structure IsCallOpen (cs : List Char) (p : Nat) : Prop where
  opens : cs[p]? = some '('
  no_marker : cs[p + 1]? ≠ some '#'
  outside : ¬ InLiteral cs p

instance (cs : List Char) (p : Nat) : Decidable (IsCallOpen cs p) :=
  decidable_of_iff (cs[p]? = some '(' ∧ cs[p + 1]? ≠ some '#' ∧ ¬ InLiteral cs p)
    ⟨fun h => ⟨h.1, h.2.1, h.2.2⟩, fun h => ⟨h.opens, h.no_marker, h.outside⟩⟩

section Literals

variable {cs : List Char} {p : Nat}

/-- Where the open positions are no more than before, nothing new is inside a literal region. -/
theorem InLiteral.of_subset {q : Nat} (h : InLiteral cs p)
    (hsub : ∀ i ∈ openBefore cs p, i ∈ openBefore cs q) : InLiteral cs q := by
  obtain ⟨i, hi, hmarker⟩ := h
  exact ⟨i, hsub i hi, hmarker⟩

theorem IsCallOpen.not_inLiteral_succ (h : IsCallOpen cs p) : ¬ InLiteral cs (p + 1) := by
  rintro ⟨i, hi, hmarker⟩
  rw [openBefore_opening h.opens] at hi
  rcases List.mem_cons.1 hi with rfl | hi
  · exact h.no_marker hmarker
  · exact h.outside ⟨i, hi, hmarker⟩

/-- Outside literal regions every open parenthesis opens a call. -/
theorem isCallOpen_of_mem_openBefore (h : ¬ InLiteral cs p) {q : Nat} (hq : q ∈ openBefore cs p) :
    IsCallOpen cs q := by
  refine ⟨(opening_of_mem_openBefore hq).2, fun hmarker => h ⟨q, hq, hmarker⟩, fun hin => h ?_⟩
  have hbelow := suffix_of_mem_openBefore hq
  exact hin.of_subset fun i hi => hbelow.subset (List.mem_cons_of_mem q hi)

/-- Every place of a literal region behind its first character is inside it. -/
theorem inLiteral_of_region {raw rest : List Char}
    (h : cs.drop p = '(' :: '#' :: (raw ++ ')' :: rest)) (hraw : Balanced raw) {q : Nat}
    (hlo : p < q) (hhi : q ≤ p + 2 + raw.length) : InLiteral cs q := by
  have hinside : cs.drop (p + 1) = ('#' :: raw) ++ ')' :: rest := drop_succ_of_drop h
  have hmarker : cs[p + 1]? = some '#' := getElem?_of_drop hinside
  -- The characters up to the position are the beginning of a balanced text.
  obtain ⟨k, rfl⟩ : ∃ k, q = p + 1 + k := ⟨q - (p + 1), by omega⟩
  have hk : k ≤ ('#' :: raw).length := by
    rw [List.length_cons]
    omega
  have hnest : nesting charSide 0 ('#' :: raw) = some 0 := by
    rw [nesting_neither (by rfl)]
    exact (balanced_iff_nesting raw).1 hraw
  rw [← List.take_append_drop k ('#' :: raw), nesting_append] at hnest
  obtain ⟨e, he, -⟩ := Option.bind_eq_some_iff.1 hnest
  rw [← List.take_append_drop k ('#' :: raw), List.append_assoc] at hinside
  obtain ⟨top, htop, -⟩ := openBefore_add hinside he
  rw [List.length_take_of_le hk, openBefore_opening (getElem?_of_drop h)] at htop
  refine ⟨p, ?_, hmarker⟩
  rw [htop]
  exact List.mem_append_right top List.mem_cons_self

end Literals

/-! ### Where the name of a command is due -/

-- By the characters of the text, not by those there are.
instance : DecidablePred IsBlankRun := fun cs =>
  List.decidableBAll (fun c => isBlank c = true) cs

/-- Only blank characters stand between the parenthesis of a call at `q` and the position `p`. -/
structure FollowsCall (cs : List Char) (q p : Nat) : Prop where
  lt : q < p
  call : IsCallOpen cs q
  blank : IsBlankRun ((cs.take p).drop (q + 1))

instance (cs : List Char) (q p : Nat) : Decidable (FollowsCall cs q p) :=
  decidable_of_iff (q < p ∧ IsCallOpen cs q ∧ IsBlankRun ((cs.take p).drop (q + 1)))
    ⟨fun h => ⟨h.1, h.2.1, h.2.2⟩, fun h => ⟨h.lt, h.call, h.blank⟩⟩

/-- A position where the name of a command is due: at the start of the text or, up to blank
characters, right behind the parenthesis of a call. -/
def NameDueAt (cs : List Char) (p : Nat) : Prop :=
  IsBlankRun (cs.take p) ∨ ∃ q, FollowsCall cs q p

section Names

variable {cs : List Char} {p q : Nat}

theorem isBlankRun_append {s t : List Char} :
    IsBlankRun (s ++ t) ↔ IsBlankRun s ∧ IsBlankRun t := List.forall_mem_append

theorem isBlankRun_singleton {c : Char} : IsBlankRun [c] ↔ isBlank c = true := by
  simp [IsBlankRun]

theorem take_succ_of_getElem? {c : Char} (h : cs[p]? = some c) :
    cs.take (p + 1) = cs.take p ++ [c] := by
  rw [List.take_add_one, h]
  rfl

theorem followsCall_succ {c : Char} (h : cs[p]? = some c) :
    FollowsCall cs q (p + 1) ↔
      (q = p ∧ IsCallOpen cs p) ∨ FollowsCall cs q p ∧ isBlank c = true := by
  have hp : p < cs.length := (List.getElem?_eq_some_iff.1 h).1
  have hlen : (cs.take p).length = p := List.length_take_of_le (Nat.le_of_lt hp)
  constructor
  · intro hfollows
    rcases Nat.lt_succ_iff_lt_or_eq.1 hfollows.lt with hlt | rfl
    · have hblank := hfollows.blank
      rw [take_succ_of_getElem? h, List.drop_append_of_le_length (by omega), isBlankRun_append,
        isBlankRun_singleton] at hblank
      exact .inr ⟨⟨hlt, hfollows.call, hblank.1⟩, hblank.2⟩
    · exact .inl ⟨rfl, hfollows.call⟩
  · rintro (⟨rfl, hcall⟩ | ⟨hfollows, hc⟩)
    · refine ⟨Nat.lt_succ_self q, hcall, ?_⟩
      rw [List.drop_take_self]
      exact nofun
    · have hlt := hfollows.lt
      refine ⟨Nat.lt_succ_of_lt hlt, hfollows.call, ?_⟩
      rw [take_succ_of_getElem? h, List.drop_append_of_le_length (by omega), isBlankRun_append,
        isBlankRun_singleton]
      exact ⟨hfollows.blank, hc⟩

/-- **Names.** A name is due right behind the parenthesis of a call, and blank characters keep it
due. -/
theorem nameDueAt_succ {c : Char} (h : cs[p]? = some c) :
    NameDueAt cs (p + 1) ↔ IsCallOpen cs p ∨ NameDueAt cs p ∧ isBlank c = true := by
  rw [NameDueAt, take_succ_of_getElem? h, isBlankRun_append, isBlankRun_singleton]
  simp only [followsCall_succ h]
  constructor
  · rintro (⟨hblank, hc⟩ | ⟨q, ⟨rfl, hcall⟩ | ⟨hfollows, hc⟩⟩)
    · exact .inr ⟨.inl hblank, hc⟩
    · exact .inl hcall
    · exact .inr ⟨.inr ⟨q, hfollows⟩, hc⟩
  · rintro (hcall | ⟨hblank | ⟨q, hfollows⟩, hc⟩)
    · exact .inr ⟨p, .inl ⟨rfl, hcall⟩⟩
    · exact .inl ⟨hblank, hc⟩
    · exact .inr ⟨q, .inr ⟨hfollows, hc⟩⟩

theorem openBefore_of_isBlankRun (h : IsBlankRun (cs.take p)) (hp : p ≤ cs.length) :
    openBefore cs p = [] := by
  have hsplit : cs.drop 0 = cs.take p ++ cs.drop p := (List.take_append_drop p cs).symm
  have hall := openBefore_balanced hsplit (nesting_of_neither h.charSide 0)
  rwa [List.length_take_of_le hp, Nat.zero_add] at hall

/-- Up to blank characters behind the parenthesis of a call, that parenthesis is the innermost one
that is open. -/
theorem FollowsCall.openBefore_eq (h : FollowsCall cs q p) (hp : p ≤ cs.length) :
    openBefore cs p = q :: openBefore cs q := by
  have hlt := h.lt
  have hsplit : cs.drop (q + 1) = (cs.take p).drop (q + 1) ++ cs.drop p := by
    have hdrop : (cs.take p ++ cs.drop p).drop (q + 1) =
        (cs.take p).drop (q + 1) ++ cs.drop p :=
      List.drop_append_of_le_length (by rw [List.length_take_of_le hp]; omega)
    rwa [List.take_append_drop] at hdrop
  have hall := openBefore_balanced hsplit (nesting_of_neither h.blank.charSide 0)
  rw [List.length_drop, List.length_take_of_le hp, Nat.add_sub_cancel' hlt,
    openBefore_opening h.call.opens] at hall
  exact hall

/-- No name is due inside a literal region. -/
theorem NameDueAt.not_inLiteral (h : NameDueAt cs p) (hp : p ≤ cs.length) :
    ¬ InLiteral cs p := by
  rcases h with hblank | ⟨q, hfollows⟩
  · rintro ⟨i, hi, -⟩
    rw [openBefore_of_isBlankRun hblank hp] at hi
    cases hi
  · intro hin
    have heq : openBefore cs p = openBefore cs (q + 1) := by
      rw [hfollows.openBefore_eq hp, openBefore_opening hfollows.call.opens]
    exact hfollows.call.not_inLiteral_succ (hin.of_subset fun i hi => heq ▸ hi)

end Names

/-! ### Offences -/

/-- A parenthesis opens, for a call or a literal, where the name of a command is due. -/
def OpensForName (cs : List Char) (p : Nat) : Prop := cs[p]? = some '(' ∧ NameDueAt cs p

/-- A parenthesis closes a call that has no name. -/
def ClosesUnnamed (cs : List Char) (p : Nat) : Prop :=
  cs[p]? = some ')' ∧ ∃ q, FollowsCall cs q p

/-- The parenthesis of a call opens where at least `max` parentheses of calls are open. -/
def OpensTooDeep (max : Nat) (cs : List Char) (p : Nat) : Prop :=
  IsCallOpen cs p ∧ max ≤ (openBefore cs p).countP fun q => IsCallOpen cs q

section Offences

variable {cs : List Char} {p : Nat}

/-- Outside literal regions all open parentheses count. -/
theorem countP_isCallOpen (h : ¬ InLiteral cs p) :
    ((openBefore cs p).countP fun q => IsCallOpen cs q) = (openBefore cs p).length :=
  List.countP_eq_length.2 fun _ hq => decide_eq_true (isCallOpen_of_mem_openBefore h hq)

theorem opensTooDeep_iff {max : Nat} :
    OpensTooDeep max cs p ↔ IsCallOpen cs p ∧ max ≤ (openBefore cs p).length :=
  and_congr_right fun h => by rw [countP_isCallOpen h.outside]

end Offences

end CommandShell
