import Mathlib.Data.List.Induction
import SyntaxPanel.Proofs.Tree.Walk

/-! The paths that a tree view answers for. Children, items and spans are asked for by path, each
question on its own; here all of them are measured against the steps down from the root, and the
paths with an answer are shown to be those that questions for children lead to, one for each node.
What an item says of its node apart from place and children is not looked at. -/
namespace SyntaxPanel

namespace Node

/-- The node that is reached from the root by one child index after the other, each of them below
the number of children of the node reached so far. -/
inductive Leads (root : Node) : NodePath → Node → Prop where
  | here : Leads root [] root
  | child {path : NodePath} {n : Node} {i : Nat} (led : Leads root path n)
      (below : i < n.children.length) : Leads root (path ++ [i]) n.children[i]

mutual

def nodes : Node → List Node
  | mk kind span missing children => mk kind span missing children :: nodesOf children

def nodesOf : List Node → List Node
  | [] => []
  | n :: rest => n.nodes ++ nodesOf rest

end

theorem leads_iff_at? {root n : Node} {path : NodePath} :
    root.Leads path n ↔ root.at? path = some n := by
  constructor
  · intro led
    induction led with
    | here => rfl
    | child led below ih => rw [at?_snoc, ih, Option.bind_some, List.getElem?_eq_getElem below]
  · intro found
    -- The path is taken apart from its end, where the last step down was made.
    induction path using List.reverseRecOn generalizing n with
    | nil =>
      obtain rfl : root = n := Option.some.inj found
      exact .here
    | append_singleton path i ih =>
      rw [at?_snoc, Option.bind_eq_some_iff] at found
      obtain ⟨up, at_path, at_i⟩ := found
      obtain ⟨below, rfl⟩ := List.getElem?_eq_some_iff.mp at_i
      exact .child (ih at_path) below

mutual

theorem map_snd_preorder (base : NodePath) : (n : Node) →
    (n.preorder base).map Prod.snd = n.nodes
  | mk kind span missing children => by
    rw [preorder, List.map_cons, map_snd_preorderFrom base 0 children, nodes]

theorem map_snd_preorderFrom (base : NodePath) (k : Nat) : (children : List Node) →
    (preorderFrom base k children).map Prod.snd = nodesOf children
  | [] => rfl
  | n :: rest => by
    rw [preorderFrom, List.map_append, map_snd_preorder (base ++ [k]) n,
      map_snd_preorderFrom base (k + 1) rest, nodesOf]

end

end Node

namespace TreeView

def Leads (v : TreeView) (path : NodePath) (n : Node) : Prop :=
  ∃ t, v.tree = some t ∧ t.root.Leads path n

def Resolves (v : TreeView) (path : NodePath) : Prop := ∃ n, v.Leads path n

/-- The paths that can be found by asking for children again and again. -/
inductive Reached (v : TreeView) : NodePath → Prop where
  | root (loaded : v.isLoaded = true) : Reached v []
  | child {path child : NodePath} (reached : Reached v path)
      (listed : child ∈ v.children (some path)) : Reached v child

def nodes (v : TreeView) : List Node := (v.tree.map fun t => t.root.nodes).getD []

variable {v : TreeView} {path : NodePath} {n : Node}

theorem leads_iff_node? : v.Leads path n ↔ v.node? path = some n := by
  unfold Leads node?
  cases v.tree with
  | none => simp
  | some t => simp [Node.leads_iff_at?]

theorem resolves_iff_isSome : v.Resolves path ↔ (v.node? path).isSome = true := by
  simp only [Resolves, leads_iff_node?, Option.isSome_iff_exists]

theorem children_of_leads (led : v.Leads path n) :
    v.children (some path) = n.childPaths path := by
  simp only [children, Option.getD_some, leads_iff_node?.mp led, Node.childPaths]

theorem resolves_snoc_iff (led : v.Leads path n) (i : Nat) :
    v.Resolves (path ++ [i]) ↔ i < n.children.length := by
  simp [resolves_iff_isSome, node?_snoc, leads_iff_node?.mp led]

theorem children_of_unresolved (stray : ¬ v.Resolves path) : v.children (some path) = [] := by
  rw [resolves_iff_isSome, Option.not_isSome_iff_eq_none] at stray
  simp only [children, Option.getD_some, stray]

theorem resolves_of_append {more : NodePath} (resolved : v.Resolves (path ++ more)) :
    v.Resolves path := by
  obtain ⟨n, t, loaded, led⟩ := resolved
  have found := Node.leads_iff_at?.mp led
  obtain ⟨up, at_path⟩ := Option.isSome_iff_exists.mp
    (Node.isSome_at?_of_append (by rw [found]; rfl))
  exact ⟨up, t, loaded, Node.leads_iff_at?.mpr at_path⟩

theorem resolves_iff_reached : v.Resolves path ↔ v.Reached path := by
  constructor
  · rintro ⟨n, t, loaded, led⟩
    induction led with
    | here => exact .root (by rw [isLoaded, loaded]; rfl)
    | @child path n i led below ih =>
      have listed := children_of_leads ⟨t, loaded, led⟩
      refine .child ih ?_
      rw [listed]
      exact Node.mem_childPaths.mpr ⟨i, below, rfl⟩
  · intro reached
    induction reached with
    | root loaded =>
      obtain ⟨t, loaded⟩ := Option.isSome_iff_exists.mp loaded
      exact ⟨t.root, t, loaded, .here⟩
    | child reached listed ih =>
      obtain ⟨n, t, loaded, led⟩ := ih
      rw [children_of_leads ⟨t, loaded, led⟩, Node.mem_childPaths] at listed
      obtain ⟨i, below, rfl⟩ := listed
      exact ⟨_, t, loaded, .child led below⟩

theorem describe_of_leads (led : v.Leads path n) (text : String) :
    v.describe path text = some (.ofNode v.compiler text path n) := by
  rw [describe, leads_iff_node?.mp led, Option.map_some]

theorem span?_of_leads (led : v.Leads path n) : v.span? path = some n.span := by
  rw [span?, leads_iff_node?.mp led, Option.map_some]

theorem collapsed_iff (led : v.Leads path n) (text : String) :
    (TreeItem.ofNode v.compiler text path n).collapsible = .collapsed ↔
      v.children (some path) ≠ [] := by
  rw [children_of_leads led]
  by_cases leaf : n.children = []
  · simp [TreeItem.ofNode, Node.childPaths, leaf]
  · simp [TreeItem.ofNode, Node.childPaths, leaf, List.range_eq_nil]

theorem exists_paths (v : TreeView) : ∃ paths : List NodePath, paths.Nodup ∧
    (∀ path, path ∈ paths ↔ v.Resolves path) ∧ paths.map v.node? = v.nodes.map some := by
  cases loaded : v.tree with
  | none => exact ⟨[], .nil, by simp [Resolves, Leads, loaded], by simp [nodes, loaded]⟩
  | some t =>
    have found {path : NodePath} {n : Node} :
        (path, n) ∈ t.root.preorder [] ↔ v.node? path = some n := by
      rw [Node.mem_preorder_iff, node?, loaded]
    refine ⟨(t.root.preorder []).map Prod.fst, ?_, ?_, ?_⟩
    · exact (Node.preorder_sorted [] t.root).imp fun lt => ne_of_lt lt
    · simp [Resolves, leads_iff_node?, found]
    · rw [nodes, loaded, Option.map_some, Option.getD_some, ← Node.map_snd_preorder [] t.root,
        List.map_map, List.map_map]
      exact List.map_congr_left fun entry met => found.mp met

/-- The questions that name a path agree on which paths resolve, and on the children of those that
do. A path that does not resolve has nothing below it. Those that do are found from the root by
asking for children, and are one for each node. -/
theorem resolves_once (v : TreeView) (path : NodePath) :
    ((∀ text, (v.describe path text).isSome = true ↔ v.Resolves path) ∧
      ((v.span? path).isSome = true ↔ v.Resolves path)) ∧
    (∀ n, v.Leads path n →
      v.children (some path) = (List.range n.children.length).map (fun i => path ++ [i]) ∧
      (∀ i, v.Resolves (path ++ [i]) ↔ i < n.children.length) ∧
      ∀ text, ∃ item, v.describe path text = some item ∧ item.path = path ∧
        v.span? path = some item.span ∧
        (item.collapsible = .collapsed ↔ v.children (some path) ≠ [])) ∧
    (¬ v.Resolves path →
      (∀ more, ¬ v.Resolves (path ++ more)) ∧ v.children (some path) = []) ∧
    (v.Resolves path ↔ v.Reached path) ∧
    ∃ paths : List NodePath, paths.Nodup ∧ (∀ other, other ∈ paths ↔ v.Resolves other) ∧
      paths.map v.node? = v.nodes.map some := by
  refine ⟨⟨?_, ?_⟩, ?_, ?_, resolves_iff_reached, v.exists_paths⟩
  · intro text
    rw [describe, Option.isSome_map, resolves_iff_isSome]
  · rw [span?, Option.isSome_map, resolves_iff_isSome]
  · intro n led
    refine ⟨children_of_leads led, resolves_snoc_iff led, ?_⟩
    intro text
    exact ⟨_, describe_of_leads led text, rfl, span?_of_leads led, collapsed_iff led text⟩
  · intro stray
    exact ⟨fun more below => stray (resolves_of_append below), children_of_unresolved stray⟩

end TreeView

end SyntaxPanel
