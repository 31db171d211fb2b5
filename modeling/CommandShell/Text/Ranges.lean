/-!
# Sets of code points

A set of code points is written as the ascending list of points at which membership changes,
starting outside the set. The tables of character classes are such lists.
-/

namespace CommandShell.Text

/-- Membership of `n` given the remaining change points and whether `n` is inside so far. -/
def memberFrom (inside : Bool) (n : Nat) : List Nat → Bool
  | [] => inside
  | point :: points => if n < point then inside else memberFrom (!inside) n points

/-- Whether `n` lies in the set written by its change points. -/
def inRanges (points : List Nat) (n : Nat) : Bool := memberFrom false n points

end CommandShell.Text
