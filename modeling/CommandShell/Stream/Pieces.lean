/-!
# Cutting into pieces

A reader is asked for so many elements at a time. What it gives in turn are the pieces of its
content: all of the given length but the last. Asked for nothing, it gives nothing, which readers
take for the end; asked for a negative number, it gives all at once.
-/

namespace CommandShell

/-- The pieces of a list, of `size` elements each; none if `size` is zero. -/
def pieces {α : Type} (size : Nat) (xs : List α) : List (List α) :=
  if _h : 0 < size ∧ 0 < xs.length then xs.take size :: pieces size (xs.drop size) else []
termination_by xs.length
decreasing_by
  simp only [List.length_drop]
  omega

/-- What a reader of `xs` gives when it is asked for `size` elements at a time. -/
def reads {α : Type} (size : Int) (xs : List α) : List (List α) :=
  if size < 0 then pieces (max xs.length 1) xs else pieces size.toNat xs

theorem flatten_pieces {α : Type} {size : Nat} (h : 0 < size) (xs : List α) :
    (pieces size xs).flatten = xs := by
  fun_induction pieces size xs with
  | case1 xs _ ih => simp [ih]
  | case2 xs hs =>
    have : xs.length = 0 := by omega
    simp [List.length_eq_zero_iff.mp this]

end CommandShell
