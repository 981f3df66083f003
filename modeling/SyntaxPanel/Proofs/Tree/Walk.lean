import Mathlib.Data.List.Lex
import Mathlib.Data.List.Nodup
import SyntaxPanel.Proofs.Tree.Fit

/-! The walk through a tree by paths. The paths that lead somewhere are those of the walk, and the
order in which it meets them is the lexicographic one. A tree can also be unfolded piece by piece,
by the children of one node at a time; what the pieces cover is counted here path by path. -/
namespace SyntaxPanel

namespace Node

theorem at?_append (n : Node) (p q : NodePath) : n.at? (p ++ q) = (n.at? p).bind (·.at? q) := by
  induction p generalizing n with
  | nil => rfl
  | cons i p ih =>
    simp only [List.cons_append, at?]
    cases n.children[i]? with
    | none => rfl
    | some child => exact ih child

theorem at?_cons (n : Node) (i : Nat) (p : NodePath) :
    n.at? (i :: p) = n.children[i]?.bind (·.at? p) := by
  rw [at?]
  cases n.children[i]? <;> rfl

theorem at?_snoc (n : Node) (p : NodePath) (i : Nat) :
    n.at? (p ++ [i]) = (n.at? p).bind (·.children[i]?) := by
  have single (m : Node) : m.at? [i] = m.children[i]? := by
    rw [at?_cons]
    exact Option.bind_fun_some _
  simp only [at?_append, single]

def childPaths (n : Node) (path : NodePath) : List NodePath :=
  (List.range n.children.length).map fun i => path ++ [i]

def unfolds (root : Node) (path : NodePath) : Bool :=
  (root.at? path).any fun n => !n.children.isEmpty

variable {root n : Node} {path up : NodePath} {i : Nat}

theorem nodup_childPaths (n : Node) (path : NodePath) : (n.childPaths path).Nodup := by
  refine List.nodup_range.map ?_
  intro i j same
  simpa using same

theorem mem_childPaths : up ∈ n.childPaths path ↔ ∃ i < n.children.length, up = path ++ [i] := by
  simp only [childPaths, List.mem_map, List.mem_range, eq_comm]

theorem snoc_mem_childPaths (found : root.at? path = some n) :
    path ++ [i] ∈ n.childPaths path ↔ (root.at? (path ++ [i])).isSome := by
  simp [mem_childPaths, at?_snoc, found]

theorem isSome_at?_of_append {rest : NodePath} (there : (root.at? (path ++ rest)).isSome) :
    (root.at? path).isSome := by
  rw [at?_append] at there
  exact Option.isSome_of_isSome_bind there

theorem child_of_below {rest : NodePath} (there : (root.at? (path ++ i :: rest)).isSome) :
    ∃ n child, root.at? path = some n ∧ n.children[i]? = some child := by
  obtain ⟨n, found⟩ := Option.isSome_iff_exists.mp (isSome_at?_of_append there)
  rw [at?_append, found, Option.bind_some, at?_cons] at there
  obtain ⟨child, at_i⟩ := Option.isSome_iff_exists.mp (Option.isSome_of_isSome_bind there)
  exact ⟨n, child, found, at_i⟩

theorem unfolds_of_below {rest : NodePath} (there : (root.at? (path ++ rest)).isSome)
    (below : rest ≠ []) : root.unfolds path = true := by
  obtain ⟨i, rest, rfl⟩ := List.exists_cons_of_ne_nil below
  obtain ⟨n, child, found, at_i⟩ := child_of_below there
  rw [unfolds, found, Option.any_some]
  cases children : n.children with
  | nil => simp [children] at at_i
  | cons _ _ => rfl

theorem count_childPaths (found : root.at? path = some n)
    (there : (root.at? (up ++ [i])).isSome) :
    (n.childPaths path).count (up ++ [i]) = if path = up then 1 else 0 := by
  split
  · rename_i same
    subst same
    exact List.count_eq_one_of_mem (nodup_childPaths n path)
      ((snoc_mem_childPaths found).mpr there)
  · rename_i other
    rw [List.count_eq_zero]
    intro mem
    obtain ⟨k, -, same⟩ := mem_childPaths.mp mem
    exact other (List.append_inj' same rfl).1.symm

theorem countP_unfolds (found : root.at? path = some n)
    (there : (root.at? (up ++ [i])).isSome) :
    ((n.childPaths path).filter root.unfolds).countP (· <+: up) =
      if path <+: up ∧ path ≠ up then 1 else 0 := by
  split
  · rename_i above
    obtain ⟨⟨rest, rfl⟩, proper⟩ := above
    have longer : rest ≠ [] := fun empty => proper (by simp [empty])
    obtain ⟨j, rest, rfl⟩ := List.exists_cons_of_ne_nil longer
    -- The child with the index j is the one above, and it can be unfolded.
    have below : (root.at? (path ++ [j] ++ (rest ++ [i]))).isSome := by simpa using there
    have opens : root.unfolds (path ++ [j]) = true := unfolds_of_below below (by simp)
    calc ((n.childPaths path).filter root.unfolds).countP (· <+: path ++ j :: rest)
        = (n.childPaths path).count (path ++ [j]) := by
          rw [List.countP_filter, List.count]
          apply List.countP_congr
          intro q mem
          obtain ⟨k, -, rfl⟩ := mem_childPaths.mp mem
          simp only [Bool.and_eq_true, decide_eq_true_eq, beq_iff_eq,
            List.prefix_append_right_inj, List.append_cancel_left_eq, List.cons_prefix_cons,
            List.nil_prefix, and_true, List.cons.injEq]
          exact ⟨And.left, fun same => ⟨same, same ▸ opens⟩⟩
      _ = 1 := by
          rw [count_childPaths found (isSome_at?_of_append below), if_pos rfl]
  · rename_i beside
    rw [List.countP_eq_zero]
    intro q mem
    obtain ⟨k, -, rfl⟩ := mem_childPaths.mp (List.mem_filter.mp mem).1
    rw [decide_eq_true_eq]
    intro above
    refine beside ⟨(List.prefix_append path [k]).trans above, ?_⟩
    rintro rfl
    exact absurd above.length_le (by simp)

/-- Unfolding a node brings each node below it a step nearer: it is among the children, or below
just one of those that can be unfolded further. No other node is touched. -/
theorem covered_once (found : root.at? path = some n)
    (there : (root.at? (up ++ [i])).isSome) :
    (n.childPaths path).count (up ++ [i]) +
      ((n.childPaths path).filter root.unfolds).countP (· <+: up) =
        if path <+: up then 1 else 0 := by
  rw [count_childPaths found there, countP_unfolds found there]
  by_cases same : path = up
  · simp [same]
  · simp [same]

mutual

theorem at?_of_mem_preorder (base : NodePath) : (n : Node) → {entry : NodePath × Node} →
    entry ∈ n.preorder base → ∃ rest, entry.1 = base ++ rest ∧ n.at? rest = some entry.2
  | mk kind span missing children, entry, mem => by
    simp only [preorder, List.mem_cons] at mem
    rcases mem with rfl | mem
    · exact ⟨[], (List.append_nil base).symm, rfl⟩
    · obtain ⟨i, child, rest, found, same, led⟩ := at?_of_mem_preorderFrom base 0 children mem
      refine ⟨i :: rest, by rw [same, Nat.zero_add], ?_⟩
      rw [at?_cons, Node.children, found]
      exact led

theorem at?_of_mem_preorderFrom (base : NodePath) (k : Nat) : (children : List Node) →
    {entry : NodePath × Node} → entry ∈ preorderFrom base k children →
    ∃ i child rest, children[i]? = some child ∧ entry.1 = base ++ (k + i) :: rest ∧
      child.at? rest = some entry.2
  | [], entry, mem => by simp [preorderFrom] at mem
  | n :: others, entry, mem => by
    simp only [preorderFrom, List.mem_append] at mem
    rcases mem with mem | mem
    · obtain ⟨rest, same, led⟩ := at?_of_mem_preorder (base ++ [k]) n mem
      exact ⟨0, n, rest, rfl, by rw [same]; simp, led⟩
    · obtain ⟨i, child, rest, found, same, led⟩ :=
        at?_of_mem_preorderFrom base (k + 1) others mem
      exact ⟨i + 1, child, rest, found, by rw [same]; congr 2; omega, led⟩

end

theorem mem_preorder_iff : (path, n) ∈ root.preorder [] ↔ root.at? path = some n := by
  constructor
  · intro mem
    obtain ⟨rest, same, led⟩ := at?_of_mem_preorder [] root mem
    rwa [show path = rest from same]
  · intro led
    have mem : ([] ++ path, n) ∈ root.preorder [] := mem_preorder led
    exact mem

mutual

theorem length_preorder (base : NodePath) : (n : Node) → (n.preorder base).length = n.size
  | mk kind span missing children => by
    rw [preorder, List.length_cons, length_preorderFrom base 0 children, size, Nat.add_comm]

theorem length_preorderFrom (base : NodePath) (k : Nat) : (children : List Node) →
    (preorderFrom base k children).length = sizeAll children
  | [] => rfl
  | n :: others => by
    rw [preorderFrom, List.length_append, length_preorder (base ++ [k]) n,
      length_preorderFrom base (k + 1) others, sizeAll]

end

mutual

theorem preorder_sorted (base : NodePath) : (n : Node) →
    ((n.preorder base).map Prod.fst).Pairwise (· < ·)
  | mk kind span missing children => by
    rw [preorder, List.map_cons, List.pairwise_cons]
    refine ⟨?_, preorderFrom_sorted base 0 children⟩
    intro path mem
    obtain ⟨entry, met, rfl⟩ := List.mem_map.mp mem
    obtain ⟨i, _, rest, -, same, -⟩ := at?_of_mem_preorderFrom base 0 children met
    rw [same]
    have below : base ++ [] < base ++ (0 + i) :: rest := List.append_left_lt (List.nil_lt_cons _ _)
    rwa [List.append_nil] at below

theorem preorderFrom_sorted (base : NodePath) (k : Nat) : (children : List Node) →
    ((preorderFrom base k children).map Prod.fst).Pairwise (· < ·)
  | [] => .nil
  | n :: others => by
    rw [preorderFrom, List.map_append, List.pairwise_append]
    refine ⟨preorder_sorted (base ++ [k]) n, preorderFrom_sorted base (k + 1) others, ?_⟩
    intro first here second later
    obtain ⟨entry, met, rfl⟩ := List.mem_map.mp here
    obtain ⟨other, met', rfl⟩ := List.mem_map.mp later
    obtain ⟨rest, same, -⟩ := at?_of_mem_preorder (base ++ [k]) n met
    obtain ⟨i, _, rest', -, same', -⟩ := at?_of_mem_preorderFrom base (k + 1) others met'
    rw [same, same', List.append_assoc]
    exact List.append_left_lt (List.cons_lt_cons_iff.mpr (.inl (by omega)))

end

theorem mem_tail_preorder_iff :
    path ∈ ((root.preorder []).map Prod.fst).tail ↔ path ≠ [] ∧ (root.at? path).isSome := by
  have met (n : Node) : root.at? path = some n ↔ (path, n) ∈ root.preorder [] :=
    mem_preorder_iff.symm
  obtain ⟨kind, span, missing, children⟩ := root
  simp only [preorder, List.map_cons, List.tail_cons, List.mem_cons, Prod.mk.injEq] at met ⊢
  constructor
  · intro mem
    obtain ⟨entry, later, rfl⟩ := List.mem_map.mp mem
    obtain ⟨i, _, rest, -, same, -⟩ := at?_of_mem_preorderFrom [] 0 children later
    exact ⟨by simp [same], Option.isSome_iff_exists.mpr ⟨entry.2, (met _).mpr (.inr later)⟩⟩
  · rintro ⟨below, there⟩
    obtain ⟨n, found⟩ := Option.isSome_iff_exists.mp there
    rcases (met n).mp found with ⟨root, -⟩ | mem
    · exact absurd root below
    · exact List.mem_map_of_mem mem

end Node

theorem TreeView.node?_snoc (v : TreeView) (path : NodePath) (i : Nat) :
    v.node? (path ++ [i]) = (v.node? path).bind (·.children[i]?) := by
  unfold node?
  cases v.tree with
  | none => rfl
  | some t => exact t.root.at?_snoc path i

end SyntaxPanel
