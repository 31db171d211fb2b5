import CommandShell.Tree.Basic

/-!
# Trees in post-order

A call tree as a row of instructions for a stack: a literal pushes its text, and a call comes
behind the instructions of its arguments. Every call instruction names its node by the path that
leads to it from the root, so the length of the path is the level of the node.

* `mem_postOrder_iff` — the call instructions of a tree are its call nodes;
* `pairwise_postOrder` — they come in the order `Precedes`: what is below a node or to the left
  of it comes first;
* `Precedes.not_ancestor`, `Precedes.not_later` — so no ancestor comes before a node, and nothing
  to its right.
-/

namespace CommandShell

/-- An instruction for a stack of texts. -/
inductive Instruction where
  /-- Pushes the text of a literal. -/
  | push (text : String)
  /-- Performs the call at a node, with as many texts from the stack as it has arguments. -/
  | call (path : List Nat) (name : String) (arity : Nat)
  deriving DecidableEq

mutual

/-- The instructions of an argument that stands at a node. -/
def Arg.postOrder (path : List Nat) : Arg → List Instruction
  | literal text => [.push text]
  | call name args => Arg.postOrderAll path 0 args ++ [.call path name args.length]

/-- The instructions of a row of arguments, from the child `i` of a node on. -/
def Arg.postOrderAll (path : List Nat) (i : Nat) : List Arg → List Instruction
  | [] => []
  | arg :: args => arg.postOrder (path ++ [i]) ++ Arg.postOrderAll path (i + 1) args

end

/-- The instructions of a call tree. -/
def Call.postOrder (call : Call) : List Instruction := call.toArg.postOrder []

/-- What stands at a node of an argument. -/
def Arg.node? : Arg → List Nat → Option Arg
  | arg, [] => some arg
  | literal _, _ :: _ => none
  | call _ args, i :: path => args[i]?.bind (·.node? path)

/-! ### Nodes -/

/-- The first node lies above the second. -/
def IsAncestor (p q : List Nat) : Prop := ∃ i below, q = p ++ i :: below

/-- The first node is a later sibling of the second or of an ancestor of the second, or lies below
such a sibling. -/
def IsLater (p q : List Nat) : Prop :=
  ∃ stem i j below below', q = stem ++ i :: below ∧ p = stem ++ j :: below' ∧ i < j

/-- The first node comes before the second in post-order: it lies below it or to its left. -/
def Precedes : List Nat → List Nat → Prop
  | [], _ => False
  | _ :: _, [] => True
  | i :: p, j :: q => i < j ∨ (i = j ∧ Precedes p q)

theorem precedes_append (stem p q : List Nat) :
    Precedes (stem ++ p) (stem ++ q) ↔ Precedes p q := by
  induction stem with
  | nil => rfl
  | cons i stem ih => simp [Precedes, ih]

namespace Precedes

variable {p q : List Nat}

/-- A node that comes before another is no ancestor of it. -/
theorem not_ancestor (h : Precedes p q) : ¬ IsAncestor p q := by
  rintro ⟨i, below, rfl⟩
  have hroot := (precedes_append p [] (i :: below)).1 (by rwa [List.append_nil])
  exact hroot

/-- A node that comes before another does not lie to its right. -/
theorem not_later (h : Precedes p q) : ¬ IsLater p q := by
  rintro ⟨stem, i, j, below, below', rfl, rfl, hij⟩
  rw [precedes_append] at h
  rcases h with hji | ⟨hji, -⟩ <;> omega

end Precedes

/-! ### The order of instructions -/

mutual

/-- **Nodes of an argument.** A call instruction stands for a call node, with its name and the
number of its arguments. -/
theorem mem_postOrder_iff (path p : List Nat) (name : String) (k : Nat) : ∀ arg : Arg,
    .call p name k ∈ arg.postOrder path ↔
      ∃ below args, p = path ++ below ∧ arg.node? below = some (.call name args) ∧
        args.length = k
  | .literal text => by
    simp only [Arg.postOrder, List.mem_singleton, reduceCtorEq, false_iff]
    rintro ⟨_ | ⟨i, below⟩, args, -, hnode, -⟩ <;> cases hnode
  | .call name' args' => by
    rw [Arg.postOrder, List.mem_append, mem_postOrderAll_iff path p name k 0 args',
      List.mem_singleton]
    constructor
    · rintro (⟨j, arg, below, args, hj, rfl, hnode, hk⟩ | hself)
      · refine ⟨j :: below, args, by rw [Nat.zero_add], ?_, hk⟩
        rw [Arg.node?, hj]
        exact hnode
      · cases hself
        exact ⟨[], args', (List.append_nil path).symm, rfl, rfl⟩
    · rintro ⟨_ | ⟨j, below⟩, args, rfl, hnode, hk⟩
      · cases hnode
        rw [List.append_nil, hk]
        exact .inr rfl
      · rw [Arg.node?, Option.bind_eq_some_iff] at hnode
        obtain ⟨arg, hj, hnode⟩ := hnode
        exact .inl ⟨j, arg, below, args, hj, by rw [Nat.zero_add], hnode, hk⟩

/-- **Nodes of a row.** -/
theorem mem_postOrderAll_iff (path p : List Nat) (name : String) (k i : Nat) : ∀ row : List Arg,
    .call p name k ∈ Arg.postOrderAll path i row ↔
      ∃ j arg below args, row[j]? = some arg ∧ p = path ++ (i + j) :: below ∧
        arg.node? below = some (.call name args) ∧ args.length = k
  | [] => by simp [Arg.postOrderAll]
  | first :: row => by
    rw [Arg.postOrderAll, List.mem_append, mem_postOrder_iff (path ++ [i]) p name k first,
      mem_postOrderAll_iff path p name k (i + 1) row]
    constructor
    · rintro (⟨below, args, rfl, hnode, hk⟩ | ⟨j, arg, below, args, hj, rfl, hnode, hk⟩)
      · exact ⟨0, first, below, args, rfl, by simp, hnode, hk⟩
      · exact ⟨j + 1, arg, below, args, hj, by rw [Nat.add_right_comm, Nat.add_assoc], hnode, hk⟩
    · rintro ⟨_ | j, arg, below, args, hj, rfl, hnode, hk⟩
      · cases hj
        exact .inl ⟨below, args, by simp, hnode, hk⟩
      · exact .inr ⟨j, arg, below, args, hj, by rw [Nat.add_right_comm, Nat.add_assoc], hnode, hk⟩

end

/-- The call of the first instruction, if it is one, comes before that of the second. -/
def InOrder (a b : Instruction) : Prop :=
  ∀ p name k q name' k', a = .call p name k → b = .call q name' k' → Precedes p q

mutual

/-- **Post-order.** The calls of an argument come with those below a node before it, and those of
an argument before those of the next. -/
theorem pairwise_postOrder (path : List Nat) : ∀ arg : Arg, (arg.postOrder path).Pairwise InOrder
  | .literal text => List.pairwise_singleton _ _
  | .call name args => by
    rw [Arg.postOrder, List.pairwise_append]
    refine ⟨pairwise_postOrderAll path 0 args, List.pairwise_singleton _ _, ?_⟩
    intro a ha b hb p name₁ k q name₂ k' hp hq
    subst hp
    rw [List.mem_singleton, hq, Instruction.call.injEq] at hb
    obtain ⟨j, arg, below, _, -, rfl, -⟩ := (mem_postOrderAll_iff path p name₁ k 0 args).1 ha
    have hbelow := (precedes_append path ((0 + j) :: below) []).2 trivial
    rw [List.append_nil] at hbelow
    rw [hb.1]
    exact hbelow

theorem pairwise_postOrderAll (path : List Nat) (i : Nat) : ∀ row : List Arg,
    (Arg.postOrderAll path i row).Pairwise InOrder
  | [] => List.Pairwise.nil
  | first :: row => by
    rw [Arg.postOrderAll, List.pairwise_append]
    refine ⟨pairwise_postOrder (path ++ [i]) first, pairwise_postOrderAll path (i + 1) row, ?_⟩
    intro a ha b hb p name₁ k q name₂ k' hp hq
    subst hp hq
    obtain ⟨below, _, rfl, -⟩ := (mem_postOrder_iff (path ++ [i]) p name₁ k first).1 ha
    obtain ⟨j, arg, below', _, -, rfl, -⟩ :=
      (mem_postOrderAll_iff path q name₂ k' (i + 1) row).1 hb
    rw [List.append_assoc, precedes_append]
    exact .inl (by omega)

end

/-- The calls in front of a call of a tree are no ancestors of it and do not lie to its right. -/
theorem Call.postOrder_before {call : Call} {front rest : List Instruction} {path : List Nat}
    {name : String} {arity : Nat} (h : call.postOrder = front ++ .call path name arity :: rest) :
    ∀ p name' k, .call p name' k ∈ front → ¬ IsAncestor p path ∧ ¬ IsLater p path := by
  intro p name' k hp
  have horder := pairwise_postOrder [] call.toArg
  rw [← Call.postOrder, h, List.pairwise_append] at horder
  have hbefore := horder.2.2 _ hp _ List.mem_cons_self p name' k path name arity rfl rfl
  exact ⟨hbefore.not_ancestor, hbefore.not_later⟩

end CommandShell
