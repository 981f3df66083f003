import SyntaxPanel.Proofs.Panel.Coherence
import SyntaxPanel.Proofs.Tree.Fit

/-! No event breaks the panel down, as long as the parser keeps to its text. Positions are only
asked for of nodes in the tree of the active document; that this tree was answered for the text as
it is now is kept by every event, also by an edit and a reparse. It need not be the tree that a
parse would give. -/
namespace SyntaxPanel

/-- A tree that the parser answered for the text of a document, and that knows of all edits. -/
structure SyntaxTree.Current (P : Parser) (d : Document) (t : SyntaxTree) : Prop where
  edits : t.edits = []
  answered : P.Answers t.dialect d.text t.root

theorem Document.tree_current (P : Parser) (compiler : Compiler) (d : Document) :
    (d.tree P compiler).Current P d := ⟨rfl, .parse d.text⟩

theorem TreeView.applyEdits_current {P : Parser} {v : TreeView} {d d' : Document} {t : SyntaxTree}
    {edits : List Edit} (tree : v.tree = some t) (current : t.Current P d)
    (lead : EditsLead edits d.chars d'.chars) :
    ∃ t', (v.applyEdits P edits d'.text d'.path).tree = some t' ∧ t'.Current P d' := by
  obtain ⟨dialect, root, pending⟩ := t
  obtain ⟨nothing, answered⟩ := current
  obtain rfl : pending = [] := nothing
  refine ⟨{ dialect, root := P.reparse { dialect, root, edits } d'.text }, ?_, rfl,
    .reparse answered lead⟩
  simp only [applyEdits, tree, foldl_edit, List.nil_append]

theorem TreeView.update_current {P : Parser} (policy : ReparsePolicy) {v : TreeView}
    {d d' : Document} {t : SyntaxTree} {changes : List ContentChange} {edits : List (Option Edit)}
    (some_change : changes ≠ []) (applied : d.applyChanges changes = .ok (d', edits))
    (tree : v.tree = some t) (current : t.Current P d) :
    ∃ t', (v.update P policy d' edits).1.tree = some t' ∧ t'.Current P d' := by
  have some_edit : edits ≠ [] := fun empty => some_change ((d.edits_eq_nil_iff applied).mp empty)
  obtain ⟨_, _, known, -, -, leads⟩ := d.applyChanges_ok changes
  cases known.symm.trans applied
  unfold update
  rw [if_neg some_edit]
  split
  · rename_i es _ all
    exact applyEdits_current tree current (leads es all)
  · exact ⟨d'.tree P v.compiler, rfl, d'.tree_current P v.compiler⟩

theorem Highlighter.rangesOf_ok {d : Document} {spans : List Span}
    (told : ∀ span ∈ spans, ∃ r, d.range span = .ok r) :
    ∃ ranges, rangesOf d spans = .ok ranges := by
  induction spans with
  | nil => exact ⟨[], rfl⟩
  | cons span rest ih =>
    obtain ⟨range, first⟩ := told span List.mem_cons_self
    obtain ⟨ranges, others⟩ := ih fun span mem => told span (List.mem_cons_of_mem _ mem)
    refine ⟨range :: ranges, ?_⟩
    simp only [rangesOf, first, others, bind, Except.bind]
    rfl

namespace Session

variable {P : Parser} {s s' : Session} {effects : List Effect}

/-- The tree belongs to the active document as it is now. -/
def Sound (P : Parser) (s : Session) : Prop := s.TreeFits (SyntaxTree.Current P)

theorem sound_new (P : Parser) (compiler : Compiler) (policy : ReparsePolicy) :
    (new compiler policy).Sound P := .none

theorem Stepped.sound {e : Event} (stepped : Stepped P s e s' effects) (sound : s.Sound P) :
    s'.Sound P := by
  refine stepped.treeFits (fun d => d.tree_current P s.view.compiler) ?_ sound
  intro id changes d d' edits t _ _ some_change applied tree current
  exact TreeView.update_current s.policy some_change applied tree current

theorem sound_of_run {compiler : Compiler} {policy : ReparsePolicy} {events : List Event}
    (ran : (new compiler policy).run P events = .ok (s, effects)) : s.Sound P :=
  run_invariant (fun _ s _ => s.Sound P) (sound_new P compiler policy)
    (fun _ _ _ _ _ _ sound stepped => stepped.sound sound) ran

theorem Sound.range_ok (keeps : P.KeepsToText) (sound : s.Sound P) {d : Document}
    (document : s.activeDocument? = some d) {path : NodePath} {n : Node}
    (found : s.view.node? path = some n) : ∃ r, d.range n.span = .ok r := by
  obtain ⟨t, tree, current⟩ := sound.loaded document
  have led : t.root.at? path = some n := by simpa only [TreeView.node?, tree] using found
  obtain ⟨start, stop⟩ := (keeps _ _ _ current.answered).at? led
  exact Document.range_ok start stop

theorem Sound.showHighlights_ok (keeps : P.KeepsToText) (sound : s.Sound P) :
    ∃ s' effects, s.showHighlights = .ok (s', effects) := by
  unfold showHighlights
  split
  · rename_i id d held document
    obtain ⟨ranges, located⟩ : ∃ ranges, Highlighter.rangesOf d
        (s.highlighter.selection.filterMap s.view.span?) = .ok ranges := by
      apply Highlighter.rangesOf_ok
      intro span mem
      obtain ⟨path, -, spanned⟩ := List.mem_filterMap.mp mem
      obtain ⟨n, found, rfl⟩ := Option.map_eq_some_iff.mp spanned
      exact sound.range_ok keeps document found
    refine ⟨{ s with highlighter := { s.highlighter with highlighted := some id, ranges } },
      [.highlight ⟨id, ranges⟩], ?_⟩
    simp only [Highlighter.reveal, located, bind, Except.bind]
    rfl
  · exact ⟨s, [], rfl⟩

theorem changed_ok (P : Parser) (s : Session) (id : DocumentId) (changes : List ContentChange) :
    ∃ s' effects, s.changed P id changes = .ok (s', effects) := by
  cases mirrored : s.document? id with
  | none => exact ⟨_, _, changed_unknown P changes mirrored⟩
  | some d =>
    obtain ⟨d', edits, applied, -⟩ := d.applyChanges_ok changes
    by_cases untouched : s.active = some id → changes = []
    · exact ⟨_, _, changed_text P mirrored applied untouched⟩
    · obtain ⟨held, some_change⟩ := Classical.not_imp.mp untouched
      exact ⟨_, _, changed_tree P mirrored applied held some_change⟩

theorem Sound.setVisible_ok (keeps : P.KeepsToText) (sound : s.Sound P) (visible : Bool) :
    ∃ s' effects, s.setVisible P visible = .ok (s', effects) := by
  unfold setVisible
  split
  · exact ⟨s, [], rfl⟩
  · cases visible with
    | false => exact ⟨_, _, rfl⟩
    | true =>
      rcases result : sync P { s with visible := true } with ⟨middle, effects⟩
      have synced := synced_of_sync result
      have settled : middle.Sound P :=
        synced.treeFits (fun d => d.tree_current P s.view.compiler) sound.bare
      obtain ⟨last, shown, revealed⟩ := settled.showHighlights_ok keeps
      refine ⟨last, effects ++ shown, ?_⟩
      simp only [if_true, revealed, bind, Except.bind]
      rfl

theorem Sound.step_ok (keeps : P.KeepsToText) (sound : s.Sound P) (e : Event) :
    ∃ s' effects, s.step P e = .ok (s', effects) ∧ s'.Sound P := by
  obtain ⟨s', effects, stepped⟩ : ∃ s' effects, s.step P e = .ok (s', effects) := by
    cases e with
    | opened id path text => exact ⟨_, _, rfl⟩
    | closed id => exact ⟨_, _, rfl⟩
    | changed id changes => exact changed_ok P s id changes
    | focused id => exact ⟨_, _, rfl⟩
    | visibility visible => exact sound.setVisible_ok keeps visible
    | selected nodes =>
      simp only [step, select]
      split
      · have selected : Sound P
            { s with highlighter := s.highlighter.select (s.active.or s.focused) nodes } := sound
        exact selected.showHighlights_ok keeps
      · exact ⟨_, _, rfl⟩
  exact ⟨s', effects, stepped, (step_stepped stepped).sound sound⟩

theorem Sound.run_ok (keeps : P.KeepsToText) (sound : s.Sound P) (events : List Event) :
    ∃ s' effects, s.run P events = .ok (s', effects) ∧ s'.Sound P := by
  induction events generalizing s with
  | nil => exact ⟨s, [], rfl, sound⟩
  | cons e rest ih =>
    obtain ⟨middle, sent, stepped, next⟩ := sound.step_ok keeps e
    obtain ⟨last, more, ran, kept⟩ := ih next
    exact ⟨last, sent ++ more, run_cons_ok.mpr ⟨middle, sent, more, stepped, ran, rfl⟩, kept⟩

end Session

end SyntaxPanel
