import SyntaxPanel.Proofs.Text.Quoted
import SyntaxPanel.Proofs.Tree.Walk

namespace SyntaxPanel

namespace Text

theorem lines_cons_line {body : List Char} (whole : '\n' ∉ body) (rest : List Char) :
    lines (body ++ '\n' :: rest) = (body ++ ['\n']) :: lines rest := by
  induction body with
  | nil => rw [List.nil_append, lines, if_pos rfl, List.nil_append]
  | cons c body ih =>
    have other : c ≠ '\n' := fun same => whole (same ▸ List.mem_cons_self)
    rw [List.cons_append, lines, if_neg other, ih fun mem => whole (List.mem_cons_of_mem c mem)]
    rfl

theorem lines_flatten {rows : List (List Char)}
    (whole : ∀ row ∈ rows, ∃ body, '\n' ∉ body ∧ row = body ++ ['\n']) :
    lines rows.flatten = rows ++ [[]] := by
  induction rows with
  | nil => rfl
  | cons row rows ih =>
    obtain ⟨body, unbroken, rfl⟩ := whole row List.mem_cons_self
    have later := ih fun row mem => whole row (List.mem_cons_of_mem _ mem)
    rw [List.flatten_cons, List.append_assoc, List.singleton_append, lines_cons_line unbroken,
      later, List.cons_append]

end Text

namespace TreeItem

theorem toList_label (compiler : Compiler) (text : String) (path : NodePath) (n : Node) :
    (ofNode compiler text path n).label.toList = n.kind.toList ++ ' ' :: '[' ::
      (Nat.toDigits 10 n.span.start ++ ',' :: ' ' :: (Nat.toDigits 10 n.span.stop ++ [')'])) := by
  simp [ofNode]

theorem label_ends (compiler : Compiler) (text : String) (path : NodePath) (n : Node) :
    ∃ front, (ofNode compiler text path n).label.toList = front ++ [')'] := by
  refine ⟨n.kind.toList ++ ' ' :: '[' ::
    (Nat.toDigits 10 n.span.start ++ ',' :: ' ' :: Nat.toDigits 10 n.span.stop), ?_⟩
  simp [toList_label]

theorem newline_notMem_label {compiler : Compiler} {text : String} {path : NodePath} {n : Node}
    (unbroken : '\n' ∉ n.kind.toList) : '\n' ∉ (ofNode compiler text path n).label.toList := by
  have digits (k : Nat) : '\n' ∉ Nat.toDigits 10 k :=
    Text.notMem_toDigits (by decide) (by decide) (by decide) k
  simp [toList_label, unbroken, digits]

def quotation (item : TreeItem) : List Char :=
  match item.description with
  | some d => ' ' :: Text.quoted d.toList
  | none => []

def mark (item : TreeItem) : List Char := if item.error then [' ', '!'] else []

theorem toList_line (item : TreeItem) :
    item.line.toList = List.replicate (2 * item.path.length) ' ' ++
      (item.label.toList ++ (item.quotation ++ (item.mark ++ ['\n']))) := by
  cases shown : item.description <;> cases flagged : item.error <;>
    simp [line, quotation, mark, shown, flagged, Text.quote]

theorem line_whole {item : TreeItem} (unbroken : '\n' ∉ item.label.toList) :
    ∃ body, '\n' ∉ body ∧ item.line.toList = body ++ ['\n'] := by
  refine ⟨List.replicate (2 * item.path.length) ' ' ++ (item.label.toList ++
    (item.quotation ++ item.mark)), ?_, by simp [toList_line]⟩
  have described : '\n' ∉ item.quotation := by
    unfold quotation
    split <;> simp [Text.newline_notMem_quoted]
  have marked : '\n' ∉ item.mark := by
    unfold mark
    split <;> decide
  simp [unbroken, described, marked]

theorem lines_join {items : List TreeItem}
    (unbroken : ∀ item ∈ items, '\n' ∉ item.label.toList) :
    Text.lines (String.join (items.map line)).toList =
      items.map (fun item => item.line.toList) ++ [[]] := by
  have rows : (String.join (items.map line)).toList =
      (items.map fun item => item.line.toList).flatten := by
    rw [String.toList_join, List.flatMap_map, List.flatMap_def]
  rw [rows]
  apply Text.lines_flatten
  intro row mem
  obtain ⟨item, written, rfl⟩ := List.mem_map.mp mem
  exact line_whole (unbroken item written)

end TreeItem

theorem Node.preorderFrom_eq (path : NodePath) (k : Nat) (children : List Node) :
    preorderFrom path k children =
      (children.zipIdx k).flatMap fun (n, i) => n.preorder (path ++ [i]) := by
  induction children generalizing k with
  | nil => rfl
  | cons n rest ih => rw [preorderFrom, ih, List.zipIdx_cons, List.flatMap_cons]

namespace TreeView

variable {v : TreeView} {t : SyntaxTree}

theorem items_of_loaded (loaded : v.tree = some t) (text : String) :
    v.items text = (t.root.preorder []).map fun (path, n) =>
      TreeItem.ofNode v.compiler text path n := by
  rw [items, loaded]

theorem items_of_unloaded (unloaded : v.tree = none) (text : String) : v.items text = [] := by
  rw [items, unloaded]

theorem describe_paths (loaded : v.tree = some t) (text : String) :
    ((t.root.preorder []).map Prod.fst).map (fun path => v.describe path text) =
      (v.items text).map some := by
  rw [items_of_loaded loaded, List.map_map, List.map_map]
  apply List.map_congr_left
  rintro ⟨path, n⟩ met
  have found : v.node? path = some n := by
    rw [node?, loaded]
    exact Node.mem_preorder_iff.mp met
  simp only [Function.comp_apply, describe, found, Option.map_some]

/-- The lines of a node and of all that is below it. -/
def part (v : TreeView) (text : String) (path : NodePath) : String :=
  match v.node? path with
  | none => ""
  | some n => String.join ((n.preorder path).map fun (path, n) =>
      (TreeItem.ofNode v.compiler text path n).line)

theorem dump_eq_part (v : TreeView) (text : String) : v.dump text = v.part text [] := by
  unfold dump items part node?
  cases v.tree with
  | none => rfl
  | some t => simp only [Node.at?, List.map_map]; rfl

theorem join_flatMap {α : Type} (f : α → List String) (xs : List α) :
    String.join (xs.flatMap f) = String.join (xs.map fun x => String.join (f x)) := by
  induction xs with
  | nil => rfl
  | cons x xs ih =>
    rw [List.flatMap_cons, String.join_append, List.map_cons, String.join_cons, ih]

/-- What a path has in the dump is the line of its item, and then what its children have, one after
the other. -/
theorem part_eq (v : TreeView) (text : String) (path : NodePath) :
    v.part text path = ((v.describe path text).elim "" TreeItem.line) ++
      String.join ((v.children (some path)).map (v.part text)) := by
  cases found : v.node? path with
  | none => simp [part, describe, children, found]
  | some n =>
    have indices : List.range n.children.length = n.children.zipIdx.map Prod.snd := by
      rw [List.zipIdx_map_snd, List.range_eq_range']
    have below : (n.preorder path).tail =
        n.children.zipIdx.flatMap fun (child, i) => child.preorder (path ++ [i]) := by
      cases n
      exact Node.preorderFrom_eq path 0 _
    have split : n.preorder path = (path, n) :: (n.preorder path).tail := by
      cases n
      rfl
    simp only [part, describe, children, found, Option.getD_some, Option.map_some, Option.elim_some]
    rw [split, below, List.map_cons, String.join_cons, List.map_flatMap, join_flatMap, indices,
      List.map_map, List.map_map]
    refine congrArg (_ ++ String.join ·) (List.map_congr_left ?_)
    rintro ⟨child, i⟩ mem
    have there : v.node? (path ++ [i]) = some child := by
      rw [node?_snoc, found, Option.bind_some]
      exact List.mem_zipIdx_iff_getElem?.mp mem
    simp only [Function.comp_apply, part, there]

theorem lines_dump (loaded : v.tree = some t)
    (unbroken : ∀ entry ∈ t.root.preorder [], '\n' ∉ entry.2.kind.toList) (text : String) :
    Text.lines (v.dump text).toList =
      (v.items text).map (fun item => item.line.toList) ++ [[]] := by
  apply TreeItem.lines_join
  rw [items_of_loaded loaded]
  intro item mem
  obtain ⟨entry, met, rfl⟩ := List.mem_map.mp mem
  exact TreeItem.newline_notMem_label (unbroken entry met)

end TreeView

end SyntaxPanel
