import Mathlib.Data.List.Perm.Subperm
import SyntaxPanel.Proofs.Tree.Dump
import SyntaxPanel.Proofs.Tree.Problems

/-! The error marks of a tree view beside its diagnostics. A node is marked wherever it stands, but
what stands below an `ERROR` node is not reported. So the marks and the diagnostics tell the same
only of trees in which no marked node is below an `ERROR` node. -/
namespace SyntaxPanel

namespace TreeItem

def diagnosis (item : TreeItem) : Diagnostic :=
  if item.kind == "ERROR" then ⟨"unexpected syntax", item.span⟩
  else ⟨"missing `" ++ item.kind ++ "`", item.span⟩

/-- The item `up` stands for an `ERROR` node above the node of `item`. -/
def Covers (up item : TreeItem) : Prop :=
  up.kind = "ERROR" ∧ up.path <+: item.path ∧ up.path ≠ item.path

def Marked (line : String) : Prop := [' ', '!', '\n'] <:+ line.toList

instance (line : String) : Decidable (Marked line) := inferInstanceAs (Decidable (_ <:+ _))

theorem line_unmarked {item : TreeItem} {front : List Char}
    (label : item.label.toList = front ++ [')']) (clean : item.error = false) :
    ∃ body c, c ≠ '!' ∧ item.line.toList = body ++ [c, '\n'] := by
  let indent := List.replicate (2 * item.path.length) ' '
  cases shown : item.description with
  | none =>
    refine ⟨indent ++ front, ')', by decide, ?_⟩
    simp [toList_line, quotation, mark, shown, clean, label, indent]
  | some d =>
    refine ⟨indent ++ front ++ ')' :: ' ' :: '"' :: d.toList.flatMap Text.escaped, '"',
      by decide, ?_⟩
    simp [toList_line, quotation, mark, shown, clean, label, indent, Text.quoted]

theorem marked_line_iff {item : TreeItem} {front : List Char}
    (label : item.label.toList = front ++ [')']) : Marked item.line ↔ item.error = true := by
  constructor
  · rintro ⟨start, same⟩
    by_contra unflagged
    obtain ⟨body, c, other, written⟩ := line_unmarked label (Bool.eq_false_iff.mpr unflagged)
    have ends : start ++ [' '] ++ ['!', '\n'] = body ++ [c, '\n'] := by
      rw [← written, ← same, List.append_assoc]
      rfl
    exact other (List.cons.inj (List.append_inj' ends rfl).2).1.symm
  · intro flagged
    rw [Marked, line, flagged, if_pos rfl, String.append_assoc, String.toList_append]
    exact List.suffix_append _ _

end TreeItem

namespace TreeView

variable {v : TreeView} {t : SyntaxTree} {text : String}

theorem mem_items_iff {item : TreeItem} :
    item ∈ v.items text ↔ v.describe item.path text = some item := by
  cases loaded : v.tree with
  | none => simp [items_of_unloaded loaded, describe, node?, loaded]
  | some t =>
    rw [items_of_loaded loaded, List.mem_map, describe, node?, loaded, Option.map_eq_some_iff]
    constructor
    · rintro ⟨⟨path, n⟩, mem, rfl⟩
      exact ⟨n, Node.mem_preorder_iff.mp mem, rfl⟩
    · rintro ⟨n, led, same⟩
      exact ⟨(item.path, n), Node.mem_preorder_iff.mpr led, same⟩

theorem items_nodup (v : TreeView) (text : String) : (v.items text).Nodup := by
  cases loaded : v.tree with
  | none =>
    rw [items_of_unloaded loaded]
    exact .nil
  | some t =>
    have paths : ((v.items text).map TreeItem.path).Nodup := by
      rw [items_of_loaded loaded, List.map_map]
      exact (Node.preorder_sorted [] t.root).imp fun lt => ne_of_lt lt
    exact paths.of_map _

theorem exposes_iff_uncovered (loaded : v.tree = some t) (text : String) (path : NodePath) :
    t.root.Exposes path ↔
      ∀ up ∈ v.items text, ¬ (up.kind = "ERROR" ∧ up.path <+: path ∧ up.path ≠ path) := by
  rw [items_of_loaded loaded]
  constructor
  · rintro exposed up mem ⟨error, before, proper⟩
    obtain ⟨⟨at_up, n⟩, met, rfl⟩ := List.mem_map.mp mem
    have clean := exposed at_up n before proper (Node.mem_preorder_iff.mp met)
    exact absurd error (beq_eq_false_iff_ne.mp clean)
  · intro uncovered at_up n before proper led
    have mem := List.mem_map_of_mem
      (f := fun entry : NodePath × Node => TreeItem.ofNode v.compiler text entry.1 entry.2)
      (Node.mem_preorder_iff.mpr led)
    exact beq_eq_false_iff_ne.mpr fun error => uncovered _ mem ⟨error, before, proper⟩

theorem exists_reported (v : TreeView) (text : String) : ∃ reported : List TreeItem,
    reported.Sublist ((v.items text).filter (·.error)) ∧
    v.problems = reported.map TreeItem.diagnosis ∧
    ∀ item, item ∈ reported ↔ item ∈ v.items text ∧ item.error = true ∧
      ∀ up ∈ v.items text, ¬ up.Covers item := by
  cases loaded : v.tree with
  | none =>
    rw [items_of_unloaded loaded, problems, loaded]
    exact ⟨[], .slnil, rfl, by simp⟩
  | some t =>
    let shown (entry : NodePath × Node) : TreeItem :=
      TreeItem.ofNode v.compiler text entry.1 entry.2
    refine ⟨((t.root.surface []).filter (·.2.isFlagged)).map shown, ?_, ?_, ?_⟩
    · rw [items_of_loaded loaded, List.filter_map]
      exact ((Node.surface_sublist [] t.root).filter _).map shown
    · rw [problems, loaded, List.map_map]
      exact t.root.problems_eq_flagged
    · intro item
      have uncovered : (∀ up ∈ v.items text, ¬ up.Covers item) ↔ t.root.Exposes item.path :=
        (exposes_iff_uncovered loaded text item.path).symm
      rw [uncovered, mem_items_iff]
      simp only [describe, node?, loaded, Option.map_eq_some_iff, List.mem_map, List.mem_filter]
      constructor
      · rintro ⟨⟨path, n⟩, ⟨mem, flagged⟩, rfl⟩
        obtain ⟨led, exposed⟩ := Node.mem_surface_iff.mp mem
        exact ⟨⟨n, led, rfl⟩, flagged, exposed⟩
      · rintro ⟨⟨n, led, same⟩, flagged, exposed⟩
        refine ⟨(item.path, n), ⟨Node.mem_surface_iff.mpr ⟨led, exposed⟩, ?_⟩, same⟩
        rw [← same] at flagged
        exact flagged

theorem filter_marked_lines (v : TreeView) (text : String) :
    ((v.items text).map TreeItem.line).filter TreeItem.Marked =
      ((v.items text).filter (·.error)).map TreeItem.line := by
  rw [List.filter_map]
  refine congrArg _ (List.filter_congr ?_)
  intro item mem
  have described := mem_items_iff.mp mem
  obtain ⟨n, -, same⟩ := Option.map_eq_some_iff.mp described
  obtain ⟨front, label⟩ := TreeItem.label_ends v.compiler text item.path n
  rw [same] at label
  have marked := TreeItem.marked_line_iff label
  simp only [Function.comp_apply, marked, Bool.decide_eq_true]

/-- The diagnostics are those of the marked items that are not below an `ERROR` node, in the order
of the items. They are those of all marked items just if none of these is below an `ERROR` node. The
marked lines of a dump are the lines of all marked items. -/
theorem problems_of_marks (v : TreeView) (text : String) :
    (∀ item, item ∈ v.items text ↔ v.describe item.path text = some item) ∧
    (∃ reported : List TreeItem,
      reported.Sublist ((v.items text).filter (·.error)) ∧
      v.problems = reported.map TreeItem.diagnosis ∧
      ∀ item, item ∈ reported ↔ item ∈ v.items text ∧ item.error = true ∧
        ∀ up ∈ v.items text, ¬ up.Covers item) ∧
    (v.problems = ((v.items text).filter (·.error)).map TreeItem.diagnosis ↔
      ∀ item ∈ v.items text, item.error = true → ∀ up ∈ v.items text, ¬ up.Covers item) ∧
    v.dump text = String.join ((v.items text).map TreeItem.line) ∧
    ((v.items text).map TreeItem.line).filter TreeItem.Marked =
      ((v.items text).filter (·.error)).map TreeItem.line := by
  obtain ⟨reported, sub, problems_eq, mem_iff⟩ := v.exists_reported text
  refine ⟨fun _ => mem_items_iff, ⟨reported, sub, problems_eq, mem_iff⟩, ?_, rfl,
    v.filter_marked_lines text⟩
  have all_iff : v.problems = ((v.items text).filter (·.error)).map TreeItem.diagnosis ↔
      reported = (v.items text).filter (·.error) := by
    rw [problems_eq]
    constructor
    · intro same
      have sizes := congrArg List.length same
      rw [List.length_map, List.length_map] at sizes
      exact sub.eq_of_length sizes
    · exact congrArg _
  rw [all_iff]
  constructor
  · intro all item mem flagged
    have kept : item ∈ reported := all ▸ List.mem_filter.mpr ⟨mem, flagged⟩
    exact ((mem_iff item).mp kept).2.2
  · intro uncovered
    have marked_nodup : ((v.items text).filter (·.error)).Nodup := (v.items_nodup text).filter _
    have kept : (v.items text).filter (·.error) ⊆ reported := by
      intro item mem
      obtain ⟨mem, flagged⟩ := List.mem_filter.mp mem
      exact (mem_iff item).mpr ⟨mem, flagged, uncovered item mem flagged⟩
    exact sub.eq_of_length_le (marked_nodup.subperm kept).length_le

def nestedErrors : TreeView where
  compiler := .typescript
  tree := some {
    dialect := .typescript
    root := .mk "ERROR" ⟨0, 12, by decide⟩ false [
      .mk "enum" ⟨0, 4, by decide⟩ false [],
      .mk "ERROR" ⟨5, 6, by decide⟩ false [.mk "\x7b" ⟨5, 6, by decide⟩ false []],
      .mk "identifier" ⟨7, 8, by decide⟩ false [],
      .mk "identifier" ⟨9, 10, by decide⟩ false [],
      .mk "\x7d" ⟨11, 12, by decide⟩ false []] }

theorem mark_unreported : ¬ ∀ (v : TreeView) (text : String),
    v.problems = ((v.items text).filter (·.error)).map TreeItem.diagnosis := by
  intro all_reported
  have two := congrArg List.length (all_reported nestedErrors "enum \x7b A B \x7d")
  have one : nestedErrors.problems = [⟨"unexpected syntax", ⟨0, 12, by decide⟩⟩] :=
    (Node.problems_eq_flagged _).trans (by decide)
  rw [one] at two
  revert two
  decide

end TreeView

end SyntaxPanel
