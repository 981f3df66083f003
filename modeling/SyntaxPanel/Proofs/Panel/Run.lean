import Mathlib.Data.List.Induction
import SyntaxPanel.Proofs.Panel.Batch

/-! What one event can do to a session, and runs of events.
The cases of a step are told here once, each with the condition it happens under. What holds at
the start and is kept in every case holds after every run. A step that breaks down is in no case;
only a highlight can make it do so. -/
namespace SyntaxPanel

namespace Highlighter

@[simp] theorem retarget_ranges (h : Highlighter) (id : DocumentId) :
    (h.retarget id).ranges = h.ranges := by
  unfold retarget
  split <;> rfl

@[simp] theorem retarget_highlighted (h : Highlighter) (id : DocumentId) :
    (h.retarget id).highlighted = h.highlighted := by
  unfold retarget
  split <;> rfl

end Highlighter

namespace Session

def clearing (s : Session) : List Effect := s.highlighter.hide.2.toList.map .highlight

inductive Synced (P : Parser) (s : Session) : Session → List Effect → Prop where
  | stays {id : DocumentId} {d : Document} (wanted : s.target? = some (id, d))
      (held : s.active = some id) :
      Synced P s
        { s with highlighter := s.highlighter.retarget id,
                 view := s.view.parse P d.text d.path, active := some id }
        [.treeChanged (some id)]
  | moves {id : DocumentId} {d : Document} (wanted : s.target? = some (id, d))
      (other : s.active ≠ some id) :
      Synced P s
        { s with highlighter := s.highlighter.hide.1.retarget id,
                 view := s.view.parse P d.text d.path, active := some id }
        (s.clearing ++ [.treeChanged (some id)])
  | leaves {id : DocumentId} (unwanted : s.target? = none) (held : s.active = some id) :
      Synced P s
        { s with highlighter := s.highlighter.hide.1, view := s.view.clear, active := none }
        (s.clearing ++ [.treeChanged none])
  | rests (unwanted : s.target? = none) (idle : s.active = none) :
      Synced P s { s with highlighter := s.highlighter.hide.1 } s.clearing

theorem hideHighlights_eq (s : Session) :
    s.hideHighlights = ({ s with highlighter := s.highlighter.hide.1 }, s.clearing) := rfl

theorem synced_of_sync {P : Parser} {s s' : Session} {effects : List Effect}
    (result : s.sync P = (s', effects)) : Synced P s s' effects := by
  unfold sync at result
  split at result
  · rename_i id d wanted
    by_cases held : s.active = some id
    · simp only [activate, if_pos held, List.nil_append] at result
      cases result
      exact .stays wanted held
    · simp only [activate, if_neg held, hideHighlights_eq] at result
      cases result
      exact .moves wanted held
  · rename_i unwanted
    simp only [deactivate, hideHighlights_eq] at result
    split at result
    · rename_i idle
      cases result
      exact .rests unwanted idle
    · rename_i id held
      cases result
      exact .leaves unwanted held

structure SameInputs (s s' : Session) : Prop where
  documents : s'.documents = s.documents
  focused : s'.focused = s.focused
  visible : s'.visible = s.visible
  policy : s'.policy = s.policy
  compiler : s'.view.compiler = s.view.compiler

theorem SameInputs.refl (s : Session) : SameInputs s s := ⟨rfl, rfl, rfl, rfl, rfl⟩

theorem SameInputs.highlighter (s : Session) (highlighter : Highlighter) :
    SameInputs s { s with highlighter } := ⟨rfl, rfl, rfl, rfl, rfl⟩

theorem SameInputs.trans {s₁ s₂ s₃ : Session} (first : SameInputs s₁ s₂)
    (second : SameInputs s₂ s₃) : SameInputs s₁ s₃ :=
  ⟨second.documents.trans first.documents, second.focused.trans first.focused,
    second.visible.trans first.visible, second.policy.trans first.policy,
    second.compiler.trans first.compiler⟩

theorem SameInputs.document? {s s' : Session} (same : SameInputs s s') (id : DocumentId) :
    s'.document? id = s.document? id := by
  rw [Session.document?, same.documents, Session.document?]

theorem Synced.sameInputs {P : Parser} {s s' : Session} {effects : List Effect}
    (synced : Synced P s s' effects) : SameInputs s s' := by
  cases synced <;> exact ⟨rfl, rfl, rfl, rfl, rfl⟩

inductive Revealed (s : Session) : Session → List Effect → Prop where
  | none (idle : s.activeDocument? = none) : Revealed s s []
  | ranges {id : DocumentId} {d : Document} {ranges : List Range} (held : s.active = some id)
      (mirrored : s.document? id = some d)
      (located : Highlighter.rangesOf d (s.selection.filterMap s.view.span?) = .ok ranges) :
      Revealed s { s with highlighter := { s.highlighter with highlighted := some id, ranges } }
        [.highlight ⟨id, ranges⟩]

theorem Revealed.sameInputs {s s' : Session} {effects : List Effect}
    (revealed : Revealed s s' effects) : SameInputs s s' := by
  cases revealed <;> exact ⟨rfl, rfl, rfl, rfl, rfl⟩

theorem showHighlights_revealed {s s' : Session} {effects : List Effect}
    (shown : s.showHighlights = .ok (s', effects)) : Revealed s s' effects := by
  cases held : s.active with
  | none =>
    simp only [showHighlights, held] at shown
    cases shown
    exact .none (by simp only [activeDocument?, held, Option.bind_none])
  | some id =>
    cases mirrored : s.document? id with
    | none =>
      simp only [showHighlights, activeDocument?, held, Option.bind_some, mirrored] at shown
      cases shown
      exact .none (by simp only [activeDocument?, held, Option.bind_some, mirrored])
    | some d =>
      simp only [showHighlights, activeDocument?, held, Option.bind_some, mirrored, bind_eq_ok,
        Highlighter.reveal] at shown
      obtain ⟨_, ⟨ranges, located, revealed⟩, result⟩ := shown
      cases revealed
      cases result
      exact held ▸ .ranges held mirrored located

/-- What an event makes of a session, and what the host has to do: all cases of a step that does
not break down. -/
inductive Stepped (P : Parser) (s : Session) : Event → Session → List Effect → Prop where
  | openedElsewhere {id : DocumentId} {path text : String} (idle : s.active ≠ some id)
      (unfocused : s.focused ≠ some id) :
      Stepped P s (.opened id path text)
        { s with documents := s.documents.put id ⟨path, text⟩ } []
  | opened {id : DocumentId} {path text : String} {s' : Session} {effects : List Effect}
      (here : s.active = some id ∨ s.focused = some id)
      (synced : Synced P { s with documents := s.documents.put id ⟨path, text⟩ } s' effects) :
      Stepped P s (.opened id path text) s' effects
  | closedElsewhere {id : DocumentId} (idle : s.active ≠ some id) :
      Stepped P s (.closed id)
        { s with documents := s.documents.erase id,
                 focused := if s.focused = some id then none else s.focused } []
  | closed {id : DocumentId} {s' : Session} {effects : List Effect} (held : s.active = some id)
      (synced : Synced P
        { s with documents := s.documents.erase id,
                 focused := if s.focused = some id then none else s.focused } s' effects) :
      Stepped P s (.closed id) s' effects
  | changedUnknown {id : DocumentId} {changes : List ContentChange}
      (unknown : s.document? id = none) : Stepped P s (.changed id changes) s []
  | changedText {id : DocumentId} {changes : List ContentChange} {d d' : Document}
      {edits : List (Option Edit)} (mirrored : s.document? id = some d)
      (applied : d.applyChanges changes = .ok (d', edits))
      (untouched : s.active = some id → changes = []) :
      Stepped P s (.changed id changes) { s with documents := s.documents.put id d' } []
  | changedTree {id : DocumentId} {changes : List ContentChange} {d d' : Document}
      {edits : List (Option Edit)} (mirrored : s.document? id = some d)
      (applied : d.applyChanges changes = .ok (d', edits)) (held : s.active = some id)
      (some_change : changes ≠ []) :
      Stepped P s (.changed id changes)
        { s with documents := s.documents.put id d',
                 view := (s.view.update P s.policy d' edits).1 } [.treeChanged (some id)]
  | focused {id : Option DocumentId} {s' : Session} {effects : List Effect}
      (synced : Synced P { s with focused := id } s' effects) :
      Stepped P s (.focused id) s' effects
  | visibilitySame {visible : Bool} (same : s.visible = visible) :
      Stepped P s (.visibility visible) s []
  | hidden {s' : Session} {effects : List Effect} (visible : s.visible = true)
      (synced : Synced P { s with visible := false } s' effects) :
      Stepped P s (.visibility false) s' effects
  | shown {middle s' : Session} {effects more : List Effect} (hidden : s.visible = false)
      (synced : Synced P { s with visible := true } middle effects)
      (revealed : Revealed middle s' more) :
      Stepped P s (.visibility true) s' (effects ++ more)
  | selectedHidden {nodes : List NodePath} (hidden : s.visible = false) :
      Stepped P s (.selected nodes)
        { s with highlighter := s.highlighter.select (s.active.or s.focused) nodes } []
  | selected {nodes : List NodePath} {s' : Session} {effects : List Effect}
      (visible : s.visible = true)
      (revealed : Revealed
        { s with highlighter := s.highlighter.select (s.active.or s.focused) nodes } s' effects) :
      Stepped P s (.selected nodes) s' effects

theorem changed_unknown (P : Parser) {s : Session} {id : DocumentId}
    (changes : List ContentChange) (unknown : s.document? id = none) :
    s.changed P id changes = .ok (s, []) := by
  simp only [Session.changed, unknown]

section Changed

variable {s : Session} {id : DocumentId} {changes : List ContentChange} {d d' : Document}
  {edits : List (Option Edit)}

theorem changed_text (P : Parser) (mirrored : s.document? id = some d)
    (applied : d.applyChanges changes = .ok (d', edits))
    (untouched : s.active = some id → changes = []) :
    s.changed P id changes = .ok ({ s with documents := s.documents.put id d' }, []) := by
  by_cases held : s.active = some id
  · have empty : edits = [] := (d.edits_eq_nil_iff applied).mpr (untouched held)
    simp only [Session.changed, mirrored, if_pos held, applyBatch, applied, empty,
      TreeView.update_nil, bind, Except.bind, pure, Except.pure, Option.getD_some]
  · simp only [Session.changed, mirrored, if_neg held, applyBatch, applied, bind, Except.bind,
      pure, Except.pure, Option.getD_none]

theorem changed_tree (P : Parser) (mirrored : s.document? id = some d)
    (applied : d.applyChanges changes = .ok (d', edits)) (held : s.active = some id)
    (some_change : changes ≠ []) :
    s.changed P id changes =
      .ok ({ s with documents := s.documents.put id d',
                    view := (s.view.update P s.policy d' edits).1 },
        [.treeChanged (some id)]) := by
  have touched := s.view.update_touched P s.policy d' fun empty =>
    some_change ((d.edits_eq_nil_iff applied).mp empty)
  simp only [Session.changed, mirrored, if_pos held, applyBatch, applied, bind, Except.bind, pure,
    Except.pure, Option.getD_some]

end Changed

theorem changed_stepped {P : Parser} {s s' : Session} {id : DocumentId}
    {changes : List ContentChange} {effects : List Effect}
    (result : s.changed P id changes = .ok (s', effects)) :
    Stepped P s (.changed id changes) s' effects := by
  cases mirrored : s.document? id with
  | none =>
    rw [changed_unknown P changes mirrored] at result
    cases result
    exact .changedUnknown mirrored
  | some d =>
    obtain ⟨d', edits, applied, -⟩ := d.applyChanges_ok changes
    by_cases untouched : s.active = some id → changes = []
    · rw [changed_text P mirrored applied untouched] at result
      cases result
      exact .changedText mirrored applied untouched
    · obtain ⟨held, some_change⟩ := Classical.not_imp.mp untouched
      rw [changed_tree P mirrored applied held some_change] at result
      cases result
      exact .changedTree mirrored applied held some_change

theorem step_stepped {P : Parser} {s s' : Session} {e : Event} {effects : List Effect}
    (stepped : s.step P e = .ok (s', effects)) : Stepped P s e s' effects := by
  cases e with
  | opened id path text =>
    have result : s.opened P id path text = (s', effects) := Except.ok.inj stepped
    by_cases here : s.active = some id ∨ s.focused = some id
    · simp only [Session.opened, if_pos here] at result
      exact .opened here (synced_of_sync result)
    · simp only [Session.opened, if_neg here] at result
      cases result
      obtain ⟨idle, unfocused⟩ := not_or.mp here
      exact .openedElsewhere idle unfocused
  | closed id =>
    have result : s.closed P id = (s', effects) := Except.ok.inj stepped
    by_cases held : s.active = some id
    · simp only [Session.closed, if_pos held] at result
      exact .closed held (synced_of_sync result)
    · simp only [Session.closed, if_neg held] at result
      cases result
      exact .closedElsewhere held
  | changed id changes => exact changed_stepped stepped
  | focused id =>
    exact .focused (synced_of_sync (Except.ok.inj stepped))
  | visibility visible =>
    simp only [step, setVisible] at stepped
    split at stepped
    · rename_i same
      cases stepped
      exact .visibilitySame same
    · rename_i switched
      cases visible with
      | false =>
        cases stepped
        exact .hidden (by simpa using switched) (synced_of_sync rfl)
      | true =>
        simp only [if_true, bind_eq_ok] at stepped
        obtain ⟨⟨middle, more⟩, shown, result⟩ := stepped
        cases result
        exact .shown (by simpa using switched) (synced_of_sync rfl) (showHighlights_revealed shown)
  | selected nodes =>
    simp only [step, select] at stepped
    split at stepped
    · rename_i visible
      exact .selected visible (showHighlights_revealed stepped)
    · rename_i hidden
      cases stepped
      exact .selectedHidden (by simpa using hidden)

theorem run_cons_ok {P : Parser} {s s' : Session} {e : Event} {rest : List Event}
    {effects : List Effect} : s.run P (e :: rest) = .ok (s', effects) ↔
      ∃ middle sent more, s.step P e = .ok (middle, sent) ∧
        middle.run P rest = .ok (s', more) ∧ effects = sent ++ more :=
  bind_both_eq_ok (x := s.step P e) (y := fun s => s.run P rest) (f := List.append)

theorem run_append_ok {P : Parser} {s s' : Session} {before after : List Event}
    {effects : List Effect} : s.run P (before ++ after) = .ok (s', effects) ↔
      ∃ middle sent more, s.run P before = .ok (middle, sent) ∧
        middle.run P after = .ok (s', more) ∧ effects = sent ++ more := by
  induction before generalizing s effects with
  | nil =>
    constructor
    · exact fun ran => ⟨s, [], effects, rfl, ran, rfl⟩
    · rintro ⟨_, _, _, nothing, ran, rfl⟩
      cases nothing
      exact ran
  | cons e before ih =>
    simp only [List.cons_append, run_cons_ok, ih]
    constructor
    · rintro ⟨first, sent, _, stepped, ⟨middle, front, back, ran, rest, rfl⟩, rfl⟩
      exact ⟨middle, sent ++ front, back, ⟨first, sent, front, stepped, ran, rfl⟩, rest,
        (List.append_assoc _ _ _).symm⟩
    · rintro ⟨middle, _, back, ⟨first, sent, front, stepped, ran, rfl⟩, rest, rfl⟩
      exact ⟨first, sent, front ++ back, stepped, ⟨middle, front, back, ran, rest, rfl⟩,
        List.append_assoc _ _ _⟩

theorem run_snoc_ok {P : Parser} {s s' : Session} {events : List Event} {e : Event}
    {effects : List Effect} : s.run P (events ++ [e]) = .ok (s', effects) ↔
      ∃ middle sent more, s.run P events = .ok (middle, sent) ∧
        middle.step P e = .ok (s', more) ∧ effects = sent ++ more := by
  have single (middle : Session) (more : List Effect) :
      middle.run P [e] = .ok (s', more) ↔ middle.step P e = .ok (s', more) := by
    rw [run_cons_ok]
    constructor
    · rintro ⟨_, _, _, stepped, nothing, rfl⟩
      cases nothing
      rwa [List.append_nil]
    · exact fun stepped => ⟨s', more, [], stepped, rfl, (List.append_nil _).symm⟩
  simp only [run_append_ok, single]

theorem run_induction {P : Parser} {start : Session}
    (holds : List Event → Session → List Effect → Prop) (initial : holds [] start [])
    (kept : ∀ events s sent e s' effects, start.run P events = .ok (s, sent) →
      holds events s sent → s.step P e = .ok (s', effects) →
      holds (events ++ [e]) s' (sent ++ effects))
    {events : List Event} {s : Session} {effects : List Effect}
    (ran : start.run P events = .ok (s, effects)) : holds events s effects := by
  induction events using List.reverseRecOn generalizing s effects with
  | nil =>
    cases ran
    exact initial
  | append_singleton events e ih =>
    obtain ⟨middle, sent, more, front, stepped, rfl⟩ := run_snoc_ok.mp ran
    exact kept events middle sent e s more front (ih front) stepped

/-- What holds at the start and is kept by every step holds after every run, of the events, the
session and all effects so far. -/
theorem run_invariant {P : Parser} {start : Session}
    (holds : List Event → Session → List Effect → Prop) (initial : holds [] start [])
    (kept : ∀ events s sent e s' effects, holds events s sent → Stepped P s e s' effects →
      holds (events ++ [e]) s' (sent ++ effects))
    {events : List Event} {s : Session} {effects : List Effect}
    (ran : start.run P events = .ok (s, effects)) : holds events s effects :=
  run_induction holds initial (fun events s sent e s' effects _ held stepped =>
    kept events s sent e s' effects held (step_stepped stepped)) ran

end Session

end SyntaxPanel
