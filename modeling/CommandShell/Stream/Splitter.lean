/-!
# Splitting a stream into statements

Characters arrive one at a time. A splitter follows the parentheses and tells, after every
character, whether the characters gathered so far are a statement. A closing parenthesis without
partner poisons the statement: everything is to be discarded up to the next newline outside
parentheses, which resets the state.
-/

namespace CommandShell

/-- What to do with the characters gathered so far. -/
inductive Advice where
  /-- They form a statement. -/
  | ready
  /-- Keep gathering. -/
  | unready
  /-- Drop them. -/
  | discard
  deriving DecidableEq, Repr

/-- The name of an advice. -/
def Advice.name : Advice → String
  | ready => "ready"
  | unready => "unready"
  | discard => "discard"

/-- Open parentheses, and whether the statement is poisoned. -/
structure Splitter where
  depth : Nat := 0
  poisoned : Bool := false
  deriving DecidableEq, Repr

namespace Splitter

/-- The advice as long as the statement goes on. -/
def pending (s : Splitter) : Advice := if s.poisoned then .discard else .unready

/-- Takes one character. -/
def feed (s : Splitter) (c : Char) : Splitter × Advice :=
  if c = '\n' ∧ s.depth = 0 then ({ s with poisoned := false }, .ready)
  else if c = '(' then
    let s := { s with depth := s.depth + 1 }
    (s, s.pending)
  else if c = ')' then
    if s.depth = 0 then ({ s with poisoned := true }, .discard)
    else
      let s := { s with depth := s.depth - 1 }
      (s, s.pending)
  else (s, s.pending)

/-- The state after each of the characters, with the advice. -/
def trace (s : Splitter) : List Char → List (Advice × Splitter)
  | [] => []
  | c :: cs =>
    let (s, advice) := s.feed c
    (advice, s) :: trace s cs

theorem pending_ne_ready (s : Splitter) : s.pending ≠ .ready := by
  unfold pending
  split <;> simp

theorem feed_ready_iff (s : Splitter) (c : Char) :
    (s.feed c).2 = .ready ↔ c = '\n' ∧ s.depth = 0 := by
  unfold feed
  repeat' split
  all_goals simp_all [pending_ne_ready]

end Splitter

end CommandShell
