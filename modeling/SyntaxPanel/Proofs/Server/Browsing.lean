import Mathlib.Data.List.Perm.Subperm
import Mathlib.Data.List.Sort
import SyntaxPanel.Proofs.Server.Items
import SyntaxPanel.Proofs.Tree.Dump

/-! A client that unfolds the whole tree. It asks for the children of the root, and then, in any
order, for those of every item that can be unfolded. In the end it has every node below the root
once, as the panel describes it, and the items in the order of their paths are the dump. -/
namespace SyntaxPanel.Server

def toUnfold (items : List PlacedItem) : List (Option NodePath) :=
  (items.filter fun placed => placed.item.collapsible = .collapsed).map fun placed =>
    some placed.item.path

/-- A client at work: the server as it stands, what is still to be asked, what was received, and
how many questions that took. -/
inductive Browsing (P : Parser) (server : Server) :
    Server → List (Option NodePath) → List PlacedItem → Nat → Prop where
  | start : Browsing P server server [none] [] 0
  | ask {now next : Server} {before after : List (Option NodePath)} {parent : Option NodePath}
      {received items : List PlacedItem} {asked : Nat} {id : RequestId}
      (earlier : Browsing P server now (before ++ parent :: after) received asked)
      (answered :
        now.step P (childrenRequest id parent) = .ok (next, [.answer id (.items items)])) :
      Browsing P server next (before ++ after ++ toUnfold items) (received ++ items) (asked + 1)

/-- How far a client has got: each node below the root was either received, once, or is below one
of the nodes that are still to be unfolded. -/
structure Browsed (s : Session) (root : Node) (pending : List (Option NodePath))
    (received : List PlacedItem) (asked : Nat) : Prop where
  there : ∀ parent ∈ pending, (root.at? (parent.getD [])).isSome
  shown : ∀ placed ∈ received, Shown s placed
  below : ∀ placed ∈ received, placed.item.path ≠ []
  once : ∀ up i, (root.at? (up ++ [i])).isSome →
    (received.map (·.item.path)).count (up ++ [i]) +
      (pending.map (·.getD [])).countP (· <+: up) = 1
  effort : asked + pending.length = 1 + (toUnfold received).length

section Browsed

variable {P : Parser} {s : Session} {d : Document} {t : SyntaxTree}
  {pending before after : List (Option NodePath)} {parent : Option NodePath}
  {received items : List PlacedItem} {asked : Nat}

theorem toUnfold_paths (shows : Shows P s d t) (shown : ∀ placed ∈ items, Shown s placed) :
    (toUnfold items).map (·.getD []) = (items.map (·.item.path)).filter t.root.unfolds := by
  have same : ∀ placed ∈ items, decide (placed.item.collapsible = .collapsed) =
      t.root.unfolds placed.item.path := by
    intro placed mem
    obtain ⟨n, found, item⟩ := shows.found (shown placed mem)
    have collapsible : placed.item.collapsible =
        if n.children = [] then .none else .collapsed := by
      rw [item]
      rfl
    rw [Node.unfolds, found, Option.any_some, collapsible]
    cases n.children <;> rfl
  rw [List.filter_map, toUnfold, List.filter_congr same, List.map_map]
  rfl

theorem browsed_start (root : Node) : Browsed s root [none] [] 0 where
  there := by simp [Node.at?]
  shown := nofun
  below := nofun
  once up i there := by simp
  effort := rfl

theorem toUnfold_append (items more : List PlacedItem) :
    toUnfold (items ++ more) = toUnfold items ++ toUnfold more := by
  simp only [toUnfold, List.filter_append, List.map_append]

theorem Browsed.ask (shows : Shows P s d t)
    (browsed : Browsed s t.root (before ++ parent :: after) received asked) {n : Node}
    (found : t.root.at? (parent.getD []) = some n)
    (paths : items.map (·.item.path) = n.childPaths (parent.getD []))
    (shown : ∀ placed ∈ items, Shown s placed) :
    Browsed s t.root (before ++ after ++ toUnfold items) (received ++ items) (asked + 1) where
  there := by
    intro other mem
    simp only [List.append_assoc, List.mem_append] at mem
    rcases mem with mem | mem | mem
    · exact browsed.there other (by simp [mem])
    · exact browsed.there other (by simp [mem])
    · obtain ⟨placed, received, rfl⟩ := List.mem_map.mp mem
      obtain ⟨m, found, -⟩ := shows.found (shown placed (List.mem_filter.mp received).1)
      simp [found]
  shown := by
    intro placed mem
    exact (List.mem_append.mp mem).elim (browsed.shown placed) (shown placed)
  below := by
    intro placed mem
    rcases List.mem_append.mp mem with mem | mem
    · exact browsed.below placed mem
    · have child : placed.item.path ∈ n.childPaths (parent.getD []) :=
        paths ▸ List.mem_map_of_mem mem
      obtain ⟨i, -, same⟩ := Node.mem_childPaths.mp child
      simp [same]
  once up i there := by
    have earlier := browsed.once up i there
    -- What was below the node that was asked about is now a child of it, or below one.
    have covered := Node.covered_once found there
    simp only [List.map_append, List.map_cons, List.count_append, List.countP_append,
      List.countP_cons, decide_eq_true_eq, paths, toUnfold_paths shows shown] at earlier ⊢
    omega
  effort := by
    have earlier := browsed.effort
    simp only [List.length_append, List.length_cons, toUnfold_append] at earlier ⊢
    omega

theorem Browsed.path_once (shows : Shows P s d t)
    (browsed : Browsed s t.root pending received asked) {placed : PlacedItem}
    (mem : placed ∈ received) :
    ∃ up i, placed.item.path = up ++ [i] ∧ (t.root.at? (up ++ [i])).isSome := by
  obtain ⟨n, found, -⟩ := shows.found (browsed.shown placed mem)
  have split := List.dropLast_concat_getLast (browsed.below placed mem)
  exact ⟨_, _, split.symm, by rw [split, found]; rfl⟩

theorem Browsed.nodup (shows : Shows P s d t) (browsed : Browsed s t.root pending received asked) :
    (received.map (·.item.path)).Nodup := by
  rw [List.nodup_iff_count_le_one]
  intro path
  by_cases mem : path ∈ received.map (·.item.path)
  · obtain ⟨placed, received, rfl⟩ := List.mem_map.mp mem
    obtain ⟨up, i, same, there⟩ := browsed.path_once shows received
    have once := browsed.once up i there
    rw [same]
    omega
  · rw [List.count_eq_zero_of_not_mem mem]
    exact Nat.zero_le 1

theorem Browsed.asked_le (shows : Shows P s d t)
    (browsed : Browsed s t.root pending received asked) : asked ≤ t.root.size := by
  have distinct : ([] :: received.map (·.item.path)).Nodup := by
    rw [List.nodup_cons]
    refine ⟨?_, browsed.nodup shows⟩
    intro mem
    obtain ⟨placed, received, same⟩ := List.mem_map.mp mem
    exact browsed.below placed received same
  have met : [] :: received.map (·.item.path) ⊆ (t.root.preorder []).map Prod.fst := by
    intro path mem
    rcases List.mem_cons.mp mem with rfl | mem
    · exact List.mem_map_of_mem (Node.mem_preorder_self [] t.root)
    · obtain ⟨placed, received, rfl⟩ := List.mem_map.mp mem
      obtain ⟨n, found, -⟩ := shows.found (browsed.shown placed received)
      exact List.mem_map_of_mem (Node.mem_preorder_iff.mpr found)
  have few := (distinct.subperm met).length_le
  have unfolded : (toUnfold received).length ≤ received.length := by
    rw [toUnfold, List.length_map]
    exact List.length_filter_le _ _
  have effort := browsed.effort
  simp only [List.length_cons, List.length_map, Node.length_preorder] at few
  omega

theorem Browsed.count_eq (shows : Shows P s d t)
    (browsed : Browsed s t.root [] received asked) (path : NodePath) :
    (received.map (·.item.path)).count path =
      if path ≠ [] ∧ (t.root.at? path).isSome then 1 else 0 := by
  split
  · rename_i inside
    have split := List.dropLast_concat_getLast inside.1
    rw [← split] at inside ⊢
    exact browsed.once _ _ inside.2
  · rename_i outside
    rw [List.count_eq_zero]
    intro mem
    obtain ⟨placed, received, rfl⟩ := List.mem_map.mp mem
    obtain ⟨up, i, same, there⟩ := browsed.path_once shows received
    exact outside ⟨browsed.below placed received, same ▸ there⟩

def inOrder (received : List PlacedItem) : List PlacedItem :=
  received.mergeSort fun a b => a.item.path ≤ b.item.path

theorem inOrder_sorted (received : List PlacedItem) :
    ((inOrder received).map (·.item.path)).Pairwise (· ≤ ·) := by
  have ordered : (inOrder received).Pairwise fun a b => decide (a.item.path ≤ b.item.path) := by
    apply List.pairwise_mergeSort
    · intro a b c first second
      exact decide_eq_true (le_trans (of_decide_eq_true first) (of_decide_eq_true second))
    · intro a b
      simpa using le_total a.item.path b.item.path
  exact List.pairwise_map.mpr (ordered.imp of_decide_eq_true)

theorem Browsed.inOrder_paths (shows : Shows P s d t)
    (browsed : Browsed s t.root [] received asked) :
    (inOrder received).map (·.item.path) = ((t.root.preorder []).map Prod.fst).tail := by
  have distinct : ((inOrder received).map (·.item.path)).Nodup :=
    ((List.mergeSort_perm _ _).map _).nodup_iff.mpr (browsed.nodup shows)
  have increasing : ((inOrder received).map (·.item.path)).Pairwise (· < ·) :=
    ((inOrder_sorted received).and distinct).imp fun both => lt_of_le_of_ne both.1 both.2
  refine increasing.eq_of_mem_iff (Node.preorder_sorted [] t.root).tail ?_
  intro path
  have counted := browsed.count_eq shows path
  rw [Node.mem_tail_preorder_iff, inOrder, List.Perm.mem_iff ((List.mergeSort_perm _ _).map _),
    ← List.count_pos_iff, counted]
  split <;> simp_all

theorem Browsed.items_eq (shows : Shows P s d t)
    (browsed : Browsed s t.root [] received asked) :
    s.view.items d.text = TreeItem.ofNode s.view.compiler d.text [] t.root ::
      (inOrder received).map PlacedItem.item := by
  have described : (s.view.items d.text).map some =
      ((t.root.preorder []).map Prod.fst).map s.describe := by
    have asked : s.describe = fun path => s.view.describe path d.text := by
      funext path
      rw [Session.describe, shows.document, Option.bind_some]
    rw [asked, TreeView.describe_paths shows.tree d.text]
  have shown : ((inOrder received).map (·.item.path)).map s.describe =
      ((inOrder received).map PlacedItem.item).map some := by
    simp only [List.map_map]
    apply List.map_congr_left
    intro placed mem
    exact (browsed.shown placed (List.mem_mergeSort.mp mem)).described
  have root_first : (t.root.preorder []).map Prod.fst =
      [] :: ((t.root.preorder []).map Prod.fst).tail := by
    cases t.root
    rfl
  apply List.map_injective_iff.mpr (Option.some_injective TreeItem)
  rw [described, root_first, ← browsed.inOrder_paths shows, List.map_cons, shown,
    List.map_cons, shows.describe_eq]
  rfl

end Browsed

section Browsing

variable {P : Parser} {s : Session} {d : Document} {t : SyntaxTree} {now : Server}
  {pending : List (Option NodePath)} {received : List PlacedItem} {asked : Nat}

theorem Browsing.browsed (keeps : P.KeepsToText) (shows : Shows P s d t)
    (browsing : Browsing P (running (.active s)) now pending received asked) :
    now = running (.active s) ∧ Browsed s t.root pending received asked := by
  induction browsing with
  | start => exact ⟨rfl, browsed_start t.root⟩
  | @ask _ next before after parent received items asked id _ answered ih =>
    obtain ⟨rfl, browsed⟩ := ih
    obtain ⟨n, found⟩ := Option.isSome_iff_exists.mp (browsed.there parent (by simp))
    obtain ⟨_, same, paths, shown⟩ := shows.children_answer keeps found id
    cases same.symm.trans answered
    exact ⟨rfl, browsed.ask shows found paths shown⟩

theorem Browsing.answered (keeps : P.KeepsToText) (shows : Shows P s d t)
    (browsing : Browsing P (running (.active s)) now pending received asked)
    {parent : Option NodePath} (wanted : parent ∈ pending) (id : RequestId) :
    ∃ items, now.step P (childrenRequest id parent) = .ok (now, [.answer id (.items items)]) := by
  obtain ⟨rfl, browsed⟩ := browsing.browsed keeps shows
  obtain ⟨n, found⟩ := Option.isSome_iff_exists.mp (browsed.there parent wanted)
  obtain ⟨items, same, -⟩ := shows.children_answer keeps found id
  exact ⟨items, same⟩

theorem Browsing.finishes (keeps : P.KeepsToText) (shows : Shows P s d t)
    (browsing : Browsing P (running (.active s)) now pending received asked) :
    ∃ all total, Browsing P (running (.active s)) now [] all total := by
  -- There are never more questions than nodes, so what is left of the nodes gets less.
  induction left : t.root.size - asked using Nat.strongRecOn
    generalizing pending received asked with
  | ind left ih =>
    cases pending with
    | nil => exact ⟨received, asked, browsing⟩
    | cons parent rest =>
      obtain ⟨items, same⟩ := browsing.answered keeps shows List.mem_cons_self (.number 0)
      have later : Browsing P (running (.active s)) now ([] ++ rest ++ toUnfold items)
          (received ++ items) (asked + 1) := .ask browsing same
      have few := (later.browsed keeps shows).2.asked_le shows
      exact ih _ (by omega) later rfl

/-- While a document is active, a client gets the whole tree by unfolding it, whatever order it
asks in: each question is answered, with no more questions than there are nodes; each item that it
receives is the answer to the question for its node; and in the end it has received every node
below the root once. By their paths the items come into the order of the walk, and are then all
lines of the dump after the first. -/
theorem browsing_receives_tree (keeps : P.KeepsToText) (counts : P.CountsChildren)
    {config : Config} {messages : List Message} {sent : List (List Outgoing)} {id : DocumentId}
    (ran : (new config).run P messages = .ok (running (.active s), sent))
    (held : s.active = some id) :
    ∃ d t, s.document? id = some d ∧ s.view.tree = some t ∧
      (∀ request, (running (.active s)).step P (childrenRequest request none) =
        (running (.active s)).step P (childrenRequest request (some []))) ∧
      (∀ now pending received asked, Browsing P (running (.active s)) now pending received asked →
        now = running (.active s) ∧ asked ≤ t.root.size ∧
        (∀ parent ∈ pending, ∀ request, ∃ items, now.step P (childrenRequest request parent) =
          .ok (now, [.answer request (.items items)])) ∧
        ∀ placed ∈ received, ∀ request, now.step P (describeRequest request placed.item.path) =
          .ok (now, [.answer request (.item (some placed))])) ∧
      (∃ now received asked, Browsing P (running (.active s)) now [] received asked) ∧
      ∀ now received asked, Browsing P (running (.active s)) now [] received asked →
        (∀ path, (received.map (·.item.path)).count path =
          if path ≠ [] ∧ (t.root.at? path).isSome then 1 else 0) ∧
        (inOrder received).map (·.item.path) = ((t.root.preorder []).map Prod.fst).tail ∧
        ∃ first, s.describe [] = some first ∧
          s.view.dump d.text =
            String.join ((first :: (inOrder received).map (·.item)).map TreeItem.line) ∧
          ((∀ entry ∈ t.root.preorder [], '\n' ∉ entry.2.kind.toList) →
            Text.lines (s.view.dump d.text).toList =
              (first :: (inOrder received).map (·.item)).map (·.line.toList) ++ [[]]) := by
  obtain ⟨d, t, mirrored, shows⟩ := shows_of_run counts ran held
  refine ⟨d, t, mirrored, shows.tree, shows.children_root keeps, ?_, ?_, ?_⟩
  · intro now pending received asked browsing
    obtain ⟨rfl, browsed⟩ := browsing.browsed keeps shows
    refine ⟨rfl, browsed.asked_le shows, ?_, ?_⟩
    · exact fun parent wanted => browsing.answered keeps shows wanted
    · exact fun placed mem => shows.describe_answer (browsed.shown placed mem)
  · exact ⟨_, Browsing.start.finishes keeps shows⟩
  · intro now received asked browsing
    obtain ⟨rfl, browsed⟩ := browsing.browsed keeps shows
    have items := browsed.items_eq shows
    refine ⟨browsed.count_eq shows, browsed.inOrder_paths shows,
      TreeItem.ofNode s.view.compiler d.text [] t.root, shows.describe_eq [],
      by rw [TreeView.dump, items], ?_⟩
    intro unbroken
    rw [TreeView.dump, items]
    apply TreeItem.lines_join
    rw [← items, TreeView.items, shows.tree]
    intro item mem
    obtain ⟨entry, met, rfl⟩ := List.mem_map.mp mem
    exact TreeItem.newline_notMem_label (unbroken entry met)

end Browsing

def session? : Server → Option Session
  | running sh => sh.session?
  | _ => none

theorem session?_eq_some_iff {server : Server} {s : Session} :
    server.session? = some s ↔ server = running (.active s) := by
  cases server with
  | running sh => cases sh <;> simp [session?, Shell.session?]
  | _ => simp [session?]

theorem browsing_receives_tree_typing : accents.KeepsToText ∧ accents.CountsChildren ∧
    ∃ s sent received asked first,
      (new {}).run accents typing = .ok (running (.active s), sent) ∧
      s.active = some "file:///a.ts" ∧
      Browsing accents (running (.active s)) (running (.active s)) [] received asked ∧
      (inOrder received).map (·.item.path) = [[0], [0, 0]] ∧ s.describe [] = some first ∧
      String.join ((first :: (inOrder received).map (·.item)).map TreeItem.line) =
        "program [0, 3)\n  expression_statement [0, 3)\n    identifier [0, 3) \"éx\"\n" := by
  have keeps : accents.KeepsToText := Parser.ofTable_keepsToText (by decide +kernel)
  have counts : accents.CountsChildren := Parser.ofTable_countsChildren (by decide +kernel)
  obtain ⟨server, sent, ran, -, -⟩ := (sound_awaitingInitialize {}).run_ok keeps typing
  have ran : (new {}).run accents typing = .ok (server, sent) := ran
  have state : (((new {}).run accents typing).toOption.bind (·.1.session?)).map
      (fun s => (s.active, s.view.tree.map SyntaxTree.root, s.dump)) =
        some (some "file:///a.ts", some (word 3),
          "program [0, 3)\n  expression_statement [0, 3)\n    identifier [0, 3) \"éx\"\n") := by
    decide +kernel
  rw [ran] at state
  obtain ⟨s, behind, seen⟩ := Option.map_eq_some_iff.mp state
  obtain ⟨held, seen⟩ := Prod.mk.inj seen
  obtain ⟨loaded, dumped⟩ := Prod.mk.inj seen
  obtain rfl := session?_eq_some_iff.mp behind
  obtain ⟨d, t, mirrored, tree, -, going, ⟨now, received, asked, browsing⟩, complete⟩ :=
    browsing_receives_tree keeps counts ran held
  obtain ⟨rfl, -⟩ := going _ _ _ _ browsing
  obtain ⟨-, walk, first, described, whole, -⟩ := complete _ _ _ browsing
  rw [tree] at loaded
  have root : t.root = word 3 := Option.some.inj loaded
  have shown : s.dump = s.view.dump d.text := by
    simp [Session.dump, Session.activeDocument?, held, mirrored]
  exact ⟨keeps, counts, s, sent, received, asked, first, ran, held, browsing,
    by rw [walk, root]; rfl, described, by rw [← whole, ← shown, dumped]⟩

end SyntaxPanel.Server
