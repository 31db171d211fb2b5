import CommandShell.Proofs.UnfinishedCall
import Mathlib.Data.Nat.Find

/-!
# Which parenthesis has no partner

The check of balance goes along a row of tokens with a stack of positions. What it finds can be told
from the row by counting alone: how many more parentheses are opened than closed up to each place.
It refuses a row at the first place where more is closed than was opened. If there is none, it
refuses it for the last parenthesis behind which the count never comes back to what it was in front
of it.

* `openPlaces_eq_cons`, `length_openPlaces` — **the stack of open places**: below a place stands
  what was open in front of it, and there are as many places as the count says;
* `staysOpen_of_mem`, `StaysOpen.mem` — a place is on the stack as long as the count stays above it;
* `imbalance_along` — the check goes along this stack;
* `checkBalance_by_counting` — what the check accepts, and the position that it points at.
-/

namespace CommandShell

/-! ### Counting -/

/-- By how much an item moves the count of open parentheses. -/
def Side.weight : Side → Int
  | opens => 1
  | closes => -1
  | neither => 0

/-- How many more parentheses a row of tokens opens than it closes. -/
def surplus (tokens : List Token) : Int :=
  countSide Token.side .opens tokens - countSide Token.side .closes tokens

section Counting

variable {tokens : List Token} {token : Token} {n : Nat}

theorem surplus_append_singleton (tokens : List Token) (token : Token) :
    surplus (tokens ++ [token]) = surplus tokens + token.side.weight := by
  have hcount (s : Side) : countSide Token.side s (tokens ++ [token]) =
      countSide Token.side s tokens + if token.side = s then 1 else 0 := by
    simp [countSide, List.countP_append, List.countP_cons]
  rw [surplus, surplus, hcount, hcount]
  cases token.side <;> simp [Side.weight] <;> omega

/-- One token moves the count by its weight. -/
theorem surplus_take_succ (h : tokens[n]? = some token) :
    surplus (tokens.take (n + 1)) = surplus (tokens.take n) + token.side.weight := by
  rw [List.take_add_one, h, Option.toList_some, surplus_append_singleton]

end Counting

/-! ### Open places -/

/-- The places of the parentheses that are open in front of a place of a row, innermost first. A
closing parenthesis closes the innermost one, and is skipped if none is open. -/
def openPlaces (tokens : List Token) : Nat → List Nat
  | 0 => []
  | n + 1 =>
    match tokens[n]?.map Token.side with
    | some .opens => n :: openPlaces tokens n
    | some .closes => (openPlaces tokens n).tail
    | _ => openPlaces tokens n

/-- Nothing is closed in front of a place that was not opened. -/
def NothingLost (tokens : List Token) (n : Nat) : Prop := ∀ j ≤ n, 0 ≤ surplus (tokens.take j)

section Places

variable {tokens : List Token} {token : Token} {n : Nat}

theorem NothingLost.of_le {m : Nat} (h : NothingLost tokens n) (hle : m ≤ n) :
    NothingLost tokens m :=
  fun j hj => h j (Nat.le_trans hj hle)

theorem openPlaces_opens (h : tokens[n]? = some token) (hs : token.side = .opens) :
    openPlaces tokens (n + 1) = n :: openPlaces tokens n := by
  rw [openPlaces, h, Option.map_some, hs]

theorem openPlaces_closes (h : tokens[n]? = some token) (hs : token.side = .closes) :
    openPlaces tokens (n + 1) = (openPlaces tokens n).tail := by
  rw [openPlaces, h, Option.map_some, hs]

theorem openPlaces_neither (h : tokens[n]? = some token) (hs : token.side = .neither) :
    openPlaces tokens (n + 1) = openPlaces tokens n := by
  rw [openPlaces, h, Option.map_some, hs]

theorem openPlaces_behind (h : tokens[n]? = none) :
    openPlaces tokens (n + 1) = openPlaces tokens n := by
  rw [openPlaces, h, Option.map_none]

/-- **The stack of open places.** The innermost place holds an opening parenthesis, and below it
stands what was open in front of it. -/
theorem openPlaces_eq_cons {i : Nat} {below : List Nat} (h : openPlaces tokens n = i :: below) :
    i < n ∧ (∃ p, tokens[i]? = some (.opening p)) ∧ below = openPlaces tokens i := by
  induction n using Nat.strongRecOn generalizing i below with
  | ind n ih =>
    cases n with
    | zero => cases h
    | succ n =>
      have hbefore {i : Nat} {below : List Nat} (h : openPlaces tokens n = i :: below) :=
        ih n (Nat.lt_succ_self n) h
      have hkept (h : openPlaces tokens n = i :: below) :
          i < n + 1 ∧ (∃ p, tokens[i]? = some (.opening p)) ∧ below = openPlaces tokens i :=
        ⟨Nat.lt_succ_of_lt (hbefore h).1, (hbefore h).2⟩
      cases htoken : tokens[n]? with
      | none =>
        rw [openPlaces_behind htoken] at h
        exact hkept h
      | some token =>
        cases hs : token.side with
        | opens =>
          rw [openPlaces_opens htoken hs] at h
          obtain ⟨rfl, rfl⟩ := List.cons.inj h
          refine ⟨Nat.lt_succ_self n, ?_, rfl⟩
          cases token with
          | opening p => exact ⟨p, htoken⟩
          | _ => cases hs
        | closes =>
          rw [openPlaces_closes htoken hs] at h
          cases hopen : openPlaces tokens n with
          | nil =>
            rw [hopen] at h
            cases h
          | cons top others =>
            -- What is left is what was open in front of the place that was closed.
            obtain ⟨htop, -, rfl⟩ := hbefore hopen
            rw [hopen, List.tail_cons] at h
            obtain ⟨hlt, hrest⟩ := ih top (Nat.lt_succ_of_lt htop) h
            exact ⟨Nat.lt_trans hlt (Nat.lt_succ_of_lt htop), hrest⟩
        | neither =>
          rw [openPlaces_neither htoken hs] at h
          exact hkept h

/-- There are as many open places as the count says. -/
theorem length_openPlaces (h : NothingLost tokens n) :
    ((openPlaces tokens n).length : Int) = surplus (tokens.take n) := by
  induction n with
  | zero => rfl
  | succ n ih =>
    have hlength := ih (h.of_le (Nat.le_succ n))
    cases htoken : tokens[n]? with
    | none =>
      rw [openPlaces_behind htoken, hlength, List.take_add_one, htoken, Option.toList_none,
        List.append_nil]
    | some token =>
      have hnext := h (n + 1) (Nat.le_refl _)
      rw [surplus_take_succ htoken] at hnext ⊢
      cases hs : token.side with
      | opens =>
        rw [openPlaces_opens htoken hs, List.length_cons, Int.natCast_succ, hlength]
        rfl
      | closes =>
        rw [hs, Side.weight] at hnext
        rw [openPlaces_closes htoken hs, List.length_tail, Side.weight]
        omega
      | neither => rw [openPlaces_neither htoken hs, hlength, Side.weight, Int.add_zero]

/-- An open place stands in front and holds an opening parenthesis, with fewer places below it. -/
theorem opening_of_mem_openPlaces {i : Nat} (h : i ∈ openPlaces tokens n) :
    i < n ∧ (∃ p, tokens[i]? = some (.opening p)) ∧
      (openPlaces tokens i).length < (openPlaces tokens n).length := by
  induction n using Nat.strongRecOn with
  | ind n ih =>
    cases hopen : openPlaces tokens n with
    | nil =>
      rw [hopen] at h
      cases h
    | cons top below =>
      obtain ⟨htop, hopening, rfl⟩ := openPlaces_eq_cons hopen
      rw [hopen] at h
      rcases List.mem_cons.1 h with rfl | hbelow
      · exact ⟨htop, hopening, Nat.lt_succ_self _⟩
      · obtain ⟨hlt, hopening', hfewer⟩ := ih top htop hbelow
        exact ⟨Nat.lt_trans hlt htop, hopening', Nat.lt_succ_of_lt hfewer⟩

/-- A place that is open was open at every place since. -/
theorem mem_openPlaces_of_le {i j : Nat} (h : i ∈ openPlaces tokens n) (hij : i < j)
    (hjn : j ≤ n) : i ∈ openPlaces tokens j := by
  induction n, hjn using Nat.le_induction with
  | base => exact h
  | succ n hjn ih =>
    refine ih ?_
    cases htoken : tokens[n]? with
    | none => rwa [openPlaces_behind htoken] at h
    | some token =>
      cases hs : token.side with
      | opens =>
        rw [openPlaces_opens htoken hs] at h
        rcases List.mem_cons.1 h with rfl | h
        · omega
        · exact h
      | closes =>
        rw [openPlaces_closes htoken hs] at h
        exact List.mem_of_mem_tail h
      | neither => rwa [openPlaces_neither htoken hs] at h

end Places

/-! ### The parentheses that the check names -/

/-- The closing parenthesis at which a row closes more than it opens for the first time. -/
structure ClosesFirst (tokens : List Token) (i : Nat) (p : Int) : Prop where
  token : tokens[i]? = some (.closing p)
  exceeds : surplus (tokens.take (i + 1)) < 0
  first : ∀ j ≤ i, 0 ≤ surplus (tokens.take j)

/-- An opening parenthesis that stays open: in every beginning of the row that contains it, the
count is above what it was just before it. -/
structure StaysOpen (tokens : List Token) (i : Nat) (p : Int) : Prop where
  token : tokens[i]? = some (.opening p)
  above : ∀ j, i < j → j ≤ tokens.length → surplus (tokens.take i) < surplus (tokens.take j)

section Naming

variable {tokens : List Token} {n : Nat}

/-- A place that is open at the end holds a parenthesis that stays open. -/
theorem staysOpen_of_mem {i : Nat} (h : NothingLost tokens tokens.length)
    (hmem : i ∈ openPlaces tokens tokens.length) : ∃ p, StaysOpen tokens i p := by
  obtain ⟨hi, ⟨p, hp⟩, -⟩ := opening_of_mem_openPlaces hmem
  refine ⟨p, hp, fun j hij hj => ?_⟩
  obtain ⟨-, -, hfewer⟩ := opening_of_mem_openPlaces (mem_openPlaces_of_le hmem hij hj)
  rw [← length_openPlaces (h.of_le hj), ← length_openPlaces (h.of_le (Nat.le_of_lt hi))]
  exact Int.ofNat_lt.2 hfewer

/-- The place of a parenthesis that stays open is open from there on. -/
theorem StaysOpen.mem {i j : Nat} {p : Int} (hstays : StaysOpen tokens i p)
    (h : NothingLost tokens tokens.length) (hij : i + 1 ≤ j) (hj : j ≤ tokens.length) :
    i ∈ openPlaces tokens j := by
  induction j, hij using Nat.le_induction with
  | base =>
    rw [openPlaces_opens hstays.token rfl]
    exact List.mem_cons_self
  | succ j hij ih =>
    have hmem := ih (Nat.le_of_succ_le hj)
    have htoken := List.getElem?_eq_getElem hj
    cases hs : tokens[j].side with
    | opens =>
      rw [openPlaces_opens htoken hs]
      exact List.mem_cons_of_mem j hmem
    | neither =>
      rw [openPlaces_neither htoken hs]
      exact hmem
    | closes =>
      rw [openPlaces_closes htoken hs]
      cases hopen : openPlaces tokens j with
      | nil =>
        rw [hopen] at hmem
        cases hmem
      | cons top below =>
        rw [hopen] at hmem
        rcases List.mem_cons.1 hmem with rfl | hbelow
        · -- If it were closed here, the count would be back to what it was in front of it.
          obtain ⟨-, -, rfl⟩ := openPlaces_eq_cons hopen
          have hback := length_openPlaces (h.of_le hj)
          rw [openPlaces_closes htoken hs, hopen, List.tail_cons,
            length_openPlaces (h.of_le (by omega))] at hback
          have := hstays.above (j + 1) (by omega) hj
          omega
        · exact hbelow

/-- The position of the opening parenthesis at a place of a row. -/
def openPosition (tokens : List Token) (i : Nat) : Int :=
  match tokens[i]? with
  | some (.opening p) => p
  | _ => 0

theorem openPosition_eq {i : Nat} {p : Int} (h : tokens[i]? = some (.opening p)) :
    openPosition tokens i = p := by
  rw [openPosition, h]

/-- **The check goes along the stack.** As long as nothing is closed that was not opened, what is
left to be found is found from the open places on. -/
theorem imbalance_along (h : NothingLost tokens n) (hn : n ≤ tokens.length) :
    imbalance [] tokens =
      imbalance ((openPlaces tokens n).map (openPosition tokens)) (tokens.drop n) := by
  induction n with
  | zero => rfl
  | succ n ih =>
    rw [ih (h.of_le (Nat.le_succ n)) (Nat.le_of_succ_le hn)]
    have htoken := List.getElem?_eq_getElem hn
    rw [List.drop_eq_getElem_cons hn]
    have hlength := length_openPlaces (h.of_le (Nat.le_succ n))
    have hnext := h (n + 1) (Nat.le_refl _)
    rw [surplus_take_succ htoken] at hnext
    generalize hat : tokens[n] = token at htoken hnext
    cases token with
    | opening p =>
      rw [openPlaces_opens htoken rfl, List.map_cons, openPosition_eq htoken, imbalance]
    | closing p =>
      rw [openPlaces_closes htoken rfl]
      cases hopen : openPlaces tokens n with
      | nil =>
        rw [hopen, List.length_nil] at hlength
        change 0 ≤ _ + -1 at hnext
        omega
      | cons top below => rw [List.map_cons, imbalance, List.tail_cons]
    | _ =>
      rw [openPlaces_neither htoken rfl, imbalance]
      · intro p hp
        cases hp
      · intro p hp
        cases hp

/-- Where something is closed that was not opened, the check points at the first place. -/
theorem imbalance_closesFirst {j : Nat} (h : surplus (tokens.take j) < 0) :
    ∃ i p, ClosesFirst tokens i p ∧ imbalance [] tokens = some (.unmatchedClose, p) := by
  have hexists : ∃ n, surplus (tokens.take (n + 1)) < 0 := by
    cases j with
    | zero => exact absurd h (Int.lt_irrefl 0)
    | succ n => exact ⟨n, h⟩
  have hn := Nat.find_spec hexists
  have hmin {m : Nat} (hm : m < Nat.find hexists) := Nat.find_min hexists hm
  generalize Nat.find hexists = n at hn hmin
  have hkept : NothingLost tokens n := by
    intro j hj
    cases j with
    | zero => exact Int.le_refl 0
    | succ m => exact Int.not_lt.1 (hmin hj)
  have hlength := length_openPlaces hkept
  cases htoken : tokens[n]? with
  | none =>
    have := hkept n (Nat.le_refl n)
    rw [List.take_add_one, htoken, Option.toList_none, List.append_nil] at hn
    omega
  | some token =>
    obtain ⟨hlt, hat⟩ := List.getElem?_eq_some_iff.1 htoken
    have hmoves := hn
    rw [surplus_take_succ htoken] at hmoves
    -- Only a closing parenthesis lowers the count, and by one.
    cases token with
    | closing p =>
      change _ + -1 < 0 at hmoves
      refine ⟨n, p, ⟨htoken, hn, hkept⟩, ?_⟩
      have hempty : openPlaces tokens n = [] := List.length_eq_zero_iff.1 (by omega)
      rw [imbalance_along hkept (Nat.le_of_lt hlt), hempty, List.drop_eq_getElem_cons hlt, hat]
      rfl
    | opening p =>
      change _ + 1 < 0 at hmoves
      omega
    | _ =>
      change _ + 0 < 0 at hmoves
      omega

/-- Where nothing is closed that was not opened, the check points at the last parenthesis that stays
open, if one does. -/
theorem imbalance_staysOpen (h : NothingLost tokens tokens.length) :
    imbalance [] tokens = none ∨
      ∃ i p, StaysOpen tokens i p ∧ (∀ k q, StaysOpen tokens k q → k ≤ i) ∧
        imbalance [] tokens = some (.danglingOpen, p) := by
  rw [imbalance_along h (Nat.le_refl _), List.drop_length]
  cases hopen : openPlaces tokens tokens.length with
  | nil => exact .inl rfl
  | cons i below =>
    obtain ⟨-, ⟨p, hp⟩, rfl⟩ := openPlaces_eq_cons hopen
    obtain ⟨q, hstays⟩ := staysOpen_of_mem h (hopen ▸ List.mem_cons_self)
    obtain rfl : q = p := by
      have := hstays.token
      rw [hp] at this
      cases this
      rfl
    refine .inr ⟨i, q, hstays, fun k r hk => ?_, ?_⟩
    · obtain ⟨hlt, -⟩ := List.getElem?_eq_some_iff.1 hk.token
      have hmem := hk.mem h hlt (Nat.le_refl _)
      rw [hopen] at hmem
      rcases List.mem_cons.1 hmem with rfl | hbelow
      · exact Nat.le_refl k
      · exact Nat.le_of_lt (opening_of_mem_openPlaces hbelow).1
    · rw [List.map_cons, openPosition_eq hp, imbalance]
      rfl

end Naming

/-- **Balance by counting.** A row of tokens, whatever they are, passes the check if and only if no
beginning of it closes more than it opens and all of it closes as many as it opens. Otherwise the
check fails for unbalanced parentheses. It points at the first closing parenthesis at which more is
closed than opened; if there is none, at the last opening one that stays open. -/
theorem checkBalance_by_counting (tokens : List Token) (text : Option String) :
    (checkBalance tokens text = .ok () ↔
      (∀ front, front <+: tokens →
        countSide Token.side .closes front ≤ countSide Token.side .opens front) ∧
        countSide Token.side .opens tokens = countSide Token.side .closes tokens) ∧
      (checkBalance tokens text ≠ .ok () →
        ∃ error, checkBalance tokens text = .error error ∧
          error.kind = .unbalancedParentheses ∧
          ((∃ i p, ClosesFirst tokens i p ∧ error.position = some p) ∨
            (∀ j, 0 ≤ surplus (tokens.take j)) ∧
              ∃ i p, StaysOpen tokens i p ∧ (∀ k q, StaysOpen tokens k q → k ≤ i) ∧
                error.position = some p)) := by
  refine ⟨?_, fun hne => ?_⟩
  · rw [checkBalance_eq_ok_iff, nesting_eq_some_iff]
    simp only [Nat.zero_add]
  · by_cases hkept : ∀ j, 0 ≤ surplus (tokens.take j)
    · rcases imbalance_staysOpen fun j _ => hkept j with hnone | ⟨i, p, hstays, hlast, hfound⟩
      · rw [checkBalance, hnone] at hne
        exact absurd rfl hne
      · rw [checkBalance, hfound]
        exact ⟨_, rfl, rfl, .inr ⟨hkept, i, p, hstays, hlast, rfl⟩⟩
    · obtain ⟨j, hj⟩ := not_forall.1 hkept
      obtain ⟨i, p, hfirst, hfound⟩ := imbalance_closesFirst (Int.not_le.1 hj)
      rw [checkBalance, hfound]
      exact ⟨_, rfl, rfl, .inl ⟨i, p, hfirst, rfl⟩⟩

/-- A row with foreign things and positions in no order. The second of its four opening parentheses
stays open, and so does the third. -/
def nestedRow : List Token :=
  [.opening 9, .closing 4, .opening 7, .foreign "None", .opening 2, .word "a" 2, .opening (-1),
    .marker 0, .closing 3]

/-- The check points at the third one, which no parenthesis behind it closes. -/
theorem checkBalance_by_counting_nestedRow :
    checkBalance nestedRow none ≠ .ok () ∧
      ∃ error, checkBalance nestedRow none = .error error ∧ error.position = some 2 ∧
        StaysOpen nestedRow 4 2 ∧ ∀ k q, StaysOpen nestedRow k q → k ≤ 4 := by
  have hfound : checkBalance nestedRow none = .error (.pointing none .danglingOpen 2) := rfl
  have hne : checkBalance nestedRow none ≠ .ok () := by
    rw [hfound]
    exact nofun
  obtain ⟨error, herror, -, ⟨i, p, hfirst, hp⟩ | ⟨-, i, p, hstays, hlast, hp⟩⟩ :=
    (checkBalance_by_counting nestedRow none).2 hne
  · rw [hfound] at herror
    cases herror
    cases hp
    have hclosing : .closing 2 ∈ nestedRow := List.mem_of_getElem? hfirst.token
    exact absurd hclosing (by decide)
  · rw [hfound] at herror
    cases herror
    cases hp
    obtain rfl : i = 4 := by
      obtain ⟨hi, -⟩ := List.getElem?_eq_some_iff.1 hstays.token
      have hplaces : ∀ j < nestedRow.length, nestedRow[j]? = some (.opening 2) → j = 4 := by decide
      exact hplaces i hi hstays.token
    exact ⟨hne, _, hfound, rfl, hstays, hlast⟩

end CommandShell
