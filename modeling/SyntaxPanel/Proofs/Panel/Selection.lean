import Mathlib.Data.List.Forall2
import SyntaxPanel.Proofs.Panel.Progress

/-! Whose nodes are highlighted. The selection belongs to the document that was active when it was
made, or to the focused one if none was. It is dropped as soon as another document becomes active,
so what is highlighted in a document was selected there. -/
namespace SyntaxPanel

namespace Event

def Selects : Event → Prop
  | selected _ => True
  | _ => False

end Event

/-- The ranges are those of the nodes at some paths, in their order; paths that lead nowhere are
left out. -/
def TreeView.Locates (v : TreeView) (d : Document) (nodes : List NodePath)
    (ranges : List Range) : Prop :=
  List.Forall₂ (fun span range => d.range span = .ok range) (nodes.filterMap v.span?) ranges

theorem TreeView.Locates.nodes_ne_nil {v : TreeView} {d : Document} {nodes : List NodePath}
    {ranges : List Range} (located : v.Locates d nodes ranges) (marked : ranges ≠ []) :
    nodes ≠ [] := by
  rintro rfl
  exact marked (List.forall₂_nil_left_iff.mp located)

namespace Highlighter

theorem rangesOf_eq_ok_iff {d : Document} {spans : List Span} {ranges : List Range} :
    rangesOf d spans = .ok ranges ↔
      List.Forall₂ (fun span range => d.range span = .ok range) spans ranges := by
  induction spans generalizing ranges with
  | nil =>
    rw [List.forall₂_nil_left_iff]
    exact ⟨fun told => (Except.ok.inj told).symm, fun nothing => nothing ▸ rfl⟩
  | cons span rest ih =>
    simp only [rangesOf, bind_eq_ok, List.forall₂_cons_left_iff, ih]
    constructor
    · rintro ⟨range, first, others, later, result⟩
      cases result
      exact ⟨range, others, first, later, rfl⟩
    · rintro ⟨range, others, first, later, rfl⟩
      exact ⟨range, first, others, later, rfl⟩

@[simp] theorem retarget_owner (h : Highlighter) (id : DocumentId) :
    (h.retarget id).owner = some id := by
  unfold retarget
  split
  · assumption
  · rfl

theorem retarget_own {h : Highlighter} {id : DocumentId} (own : h.owner = some id) :
    h.retarget id = h := if_pos own

theorem retarget_other {h : Highlighter} {id : DocumentId} (other : h.owner ≠ some id) :
    (h.retarget id).selection = [] := by
  rw [retarget, if_neg other]

end Highlighter

namespace Session

def Owned (s : Session) : Prop := ∀ id, s.active = some id → s.highlighter.owner = some id

structure SameSelection (s s' : Session) : Prop where
  selection : s'.selection = s.selection
  owner : s'.highlighter.owner = s.highlighter.owner

section Step

variable {P : Parser} {s s' : Session} {e : Event} {effects : List Effect}

theorem Synced.owned (synced : Synced P s s' effects) : s'.Owned := by
  cases synced with
  | stays wanted held =>
    rintro _ ⟨⟩
    exact Highlighter.retarget_owner _ _
  | moves wanted other =>
    rintro _ ⟨⟩
    exact Highlighter.retarget_owner _ _
  | leaves unwanted held => exact nofun
  | rests unwanted idle => exact fun id held => nomatch idle.symm.trans held

theorem Revealed.sameSelection (revealed : Revealed s s' effects) : SameSelection s s' := by
  cases revealed <;> exact ⟨rfl, rfl⟩

theorem Revealed.owned (revealed : Revealed s s' effects) (owned : s.Owned) : s'.Owned := by
  intro id held
  rw [revealed.sameSelection.owner]
  exact owned id (revealed.active ▸ held)

theorem owned_select (s : Session) (nodes : List NodePath) :
    Owned { s with highlighter := s.highlighter.select (s.active.or s.focused) nodes } := by
  intro id held
  have held : s.active = some id := held
  simp only [Highlighter.select, held, Option.some_or]

theorem Stepped.owned (stepped : Stepped P s e s' effects) (owned : s.Owned) : s'.Owned := by
  cases stepped with
  | openedElsewhere idle unfocused => exact owned
  | opened here synced => exact synced.owned
  | closedElsewhere idle => exact owned
  | closed held synced => exact synced.owned
  | changedUnknown unknown => exact owned
  | changedText mirrored applied untouched => exact owned
  | changedTree mirrored applied held some_change => exact owned
  | focused synced => exact synced.owned
  | visibilitySame same => exact owned
  | hidden visible synced => exact synced.owned
  | shown hidden synced revealed => exact revealed.owned synced.owned
  | selectedHidden hidden => exact owned_select s _
  | selected visible revealed => exact revealed.owned (owned_select s _)

theorem Synced.sameSelection (synced : Synced P s s' effects) :
    SameSelection s s' ∨ s'.selection = [] := by
  -- What was selected stays selected in the document that owns it.
  have retargeted (h : Highlighter) (id : DocumentId) :
      ((h.retarget id).selection = h.selection ∧ (h.retarget id).owner = h.owner) ∨
        (h.retarget id).selection = [] := by
    by_cases own : h.owner = some id
    · rw [Highlighter.retarget_own own]
      exact .inl ⟨rfl, rfl⟩
    · exact .inr (Highlighter.retarget_other own)
  cases synced with
  | @stays id d wanted held =>
    exact (retargeted s.highlighter id).imp_left fun ⟨selection, owner⟩ => ⟨selection, owner⟩
  | @moves id d wanted other =>
    exact (retargeted s.highlighter.hide.1 id).imp_left
      fun ⟨selection, owner⟩ => ⟨selection, owner⟩
  | leaves unwanted held => exact .inl ⟨rfl, rfl⟩
  | rests unwanted idle => exact .inl ⟨rfl, rfl⟩

theorem Stepped.sameSelection (stepped : Stepped P s e s' effects) (quiet : ¬ e.Selects) :
    SameSelection s s' ∨ s'.selection = [] := by
  have after {t : Session} (synced : Synced P t s' effects) (same : SameSelection s t) :
      SameSelection s s' ∨ s'.selection = [] :=
    synced.sameSelection.imp_left fun ⟨selection, owner⟩ =>
      ⟨selection.trans same.selection, owner.trans same.owner⟩
  cases stepped with
  | openedElsewhere idle unfocused => exact .inl ⟨rfl, rfl⟩
  | opened here synced => exact after synced ⟨rfl, rfl⟩
  | closedElsewhere idle => exact .inl ⟨rfl, rfl⟩
  | closed held synced => exact after synced ⟨rfl, rfl⟩
  | changedUnknown unknown => exact .inl ⟨rfl, rfl⟩
  | changedText mirrored applied untouched => exact .inl ⟨rfl, rfl⟩
  | changedTree mirrored applied held some_change => exact .inl ⟨rfl, rfl⟩
  | focused synced => exact after synced ⟨rfl, rfl⟩
  | visibilitySame same => exact .inl ⟨rfl, rfl⟩
  | hidden visible synced => exact after synced ⟨rfl, rfl⟩
  | shown hidden synced revealed =>
    have still := revealed.sameSelection
    rcases synced.sameSelection with ⟨selection, owner⟩ | dropped
    · exact .inl ⟨still.selection.trans selection, still.owner.trans owner⟩
    · exact .inr (still.selection.trans dropped)
  | selectedHidden hidden => exact absurd trivial quiet
  | selected visible revealed => exact absurd trivial quiet

theorem Stepped.selects {nodes : List NodePath}
    (stepped : Stepped P s (.selected nodes) s' effects) :
    s'.selection = nodes ∧ s'.highlighter.owner = s.active.or s.focused := by
  cases stepped with
  | selectedHidden hidden => exact ⟨rfl, rfl⟩
  | selected visible revealed =>
    exact ⟨revealed.sameSelection.selection, revealed.sameSelection.owner⟩

theorem Revealed.located {id : DocumentId} {d : Document} (revealed : Revealed s s' effects)
    (held : s.active = some id) (mirrored : s.document? id = some d) :
    ∃ ranges, effects = [.highlight ⟨id, ranges⟩] ∧ s'.highlights = ranges ∧
      s'.view.Locates d s'.selection ranges := by
  cases revealed with
  | none idle =>
    rw [activeDocument?_eq_some_iff.mpr ⟨id, held, mirrored⟩] at idle
    cases idle
  | ranges held' mirrored' located =>
    cases held.symm.trans held'
    cases mirrored.symm.trans mirrored'
    exact ⟨_, rfl, rfl, Highlighter.rangesOf_eq_ok_iff.mp located⟩

theorem Revealed.requests {id : DocumentId} {ranges : List Range}
    (revealed : Revealed s s' effects) (requested : .highlight ⟨id, ranges⟩ ∈ effects) :
    s'.active = some id ∧
      ∃ d, s'.document? id = some d ∧ s'.view.Locates d s'.selection ranges := by
  cases revealed with
  | none idle => cases requested
  | ranges held mirrored located =>
    cases List.mem_singleton.mp requested
    exact ⟨held, _, mirrored, Highlighter.rangesOf_eq_ok_iff.mp located⟩

theorem clearing_bare {id : DocumentId} {ranges : List Range}
    (requested : .highlight ⟨id, ranges⟩ ∈ s.clearing) : ranges = [] := by
  obtain ⟨request, mem, same⟩ := List.mem_map.mp requested
  cases same
  simp only [Highlighter.hide, Option.mem_toList] at mem
  split at mem
  · cases mem
  · obtain ⟨_, -, same⟩ := Option.map_eq_some_iff.mp mem
    cases same
    rfl

theorem Synced.bare {id : DocumentId} {ranges : List Range} (synced : Synced P s s' effects)
    (requested : .highlight ⟨id, ranges⟩ ∈ effects) : ranges = [] := by
  cases synced with
  | stays wanted held => simp at requested
  | moves wanted other =>
    rcases List.mem_append.mp requested with clear | signal
    · exact clearing_bare clear
    · simp at signal
  | leaves unwanted held =>
    rcases List.mem_append.mp requested with clear | signal
    · exact clearing_bare clear
    · simp at signal
  | rests unwanted idle => exact clearing_bare requested

theorem Stepped.requests {id : DocumentId} {ranges : List Range}
    (stepped : Stepped P s e s' effects) (requested : .highlight ⟨id, ranges⟩ ∈ effects)
    (marked : ranges ≠ []) : s'.active = some id ∧
      ∃ d, s'.document? id = some d ∧ s'.view.Locates d s'.selection ranges := by
  cases stepped with
  | opened here synced => exact absurd (synced.bare requested) marked
  | closed held synced => exact absurd (synced.bare requested) marked
  | changedTree mirrored applied held some_change => simp at requested
  | focused synced => exact absurd (synced.bare requested) marked
  | hidden visible synced => exact absurd (synced.bare requested) marked
  | shown hidden synced revealed =>
    rcases List.mem_append.mp requested with first | second
    · exact absurd (synced.bare first) marked
    · exact revealed.requests second
  | selected visible revealed => exact revealed.requests requested
  | _ => cases requested

end Step

section Run

variable {P : Parser} {compiler : Compiler} {policy : ReparsePolicy} {events : List Event}
  {s : Session} {effects : List Effect}

theorem owned_new (compiler : Compiler) (policy : ReparsePolicy) : (new compiler policy).Owned := by
  intro id held
  cases held

theorem owned_of_run (ran : (new compiler policy).run P events = .ok (s, effects)) : s.Owned :=
  run_invariant (fun _ s _ => s.Owned) (owned_new compiler policy)
    (fun _ _ _ _ _ _ owned stepped => stepped.owned owned) ran

/-- The selection is the last one that was made, in `before`, by the document that was active then
or else focused; and no other document was active since. -/
def Stands (P : Parser) (start : Session) (events : List Event) (s : Session) : Prop :=
  ∃ before since s₀ sent₀, events = before ++ .selected s.selection :: since ∧
    (∀ later ∈ since, ¬ later.Selects) ∧ start.run P before = .ok (s₀, sent₀) ∧
    s.highlighter.owner = s₀.active.or s₀.focused ∧
    ∀ mid, mid <+: since → ∀ t more,
      start.run P (before ++ .selected s.selection :: mid) = .ok (t, more) →
      ∀ id, t.active = some id → s.highlighter.owner = some id

theorem stands_of_run (ran : (new compiler policy).run P events = .ok (s, effects)) :
    s.selection = [] ∨ Stands P (new compiler policy) events s := by
  refine run_induction
    (fun events s _ => s.selection = [] ∨ Stands P (new compiler policy) events s) (.inl rfl) ?_ ran
  intro events s sent e s' effects ran earlier stepped
  have run' := run_snoc_ok.mpr ⟨s, sent, effects, ran, stepped, rfl⟩
  have owned := owned_of_run run'
  have now {t : Session} {more : List Effect}
      (same : (new compiler policy).run P (events ++ [e]) = .ok (t, more)) : t = s' := by
    cases run'.symm.trans same
    rfl
  by_cases selects : e.Selects
  · cases e with
    | selected nodes =>
      obtain ⟨selection, owner⟩ := (step_stepped stepped).selects
      refine .inr ⟨events, [], s, sent, by rw [selection], nofun, ran, owner, ?_⟩
      intro mid early t more reran id held
      rw [List.prefix_nil.mp early, selection] at reran
      exact owned id (now reran ▸ held)
    | _ => exact selects.elim
  · rcases (step_stepped stepped).sameSelection selects with same | dropped
    · rcases earlier with nothing | ⟨before, since, s₀, sent₀, parts, quiet, first, owner, only⟩
      · exact .inl (same.selection.trans nothing)
      · refine .inr ⟨before, since ++ [e], s₀, sent₀, ?_, ?_, first, same.owner.trans owner, ?_⟩
        · rw [parts, same.selection, List.append_assoc, List.cons_append]
        · intro later mem
          rcases List.mem_append.mp mem with mem | mem
          · exact quiet later mem
          · exact List.mem_singleton.mp mem ▸ selects
        · intro mid early t more reran id held
          rcases List.prefix_concat_iff.mp early with rfl | early
          · rw [same.selection, ← List.cons_append, ← List.append_assoc, ← parts] at reran
            exact owned id (now reran ▸ held)
          · rw [same.selection] at reran
            rw [same.owner]
            exact only mid early t more reran id held
    · exact .inl dropped

/-- Whatever is highlighted was selected last, in the document that is highlighted: it was active
when the selection was made, or focused while none was, and no other was active since. -/
theorem highlight_of_selection {e : Event} {s' : Session} {sent : List Effect} {id : DocumentId}
    {ranges : List Range} (ran : (new compiler policy).run P events = .ok (s, sent))
    (stepped : s.step P e = .ok (s', effects)) (requested : .highlight ⟨id, ranges⟩ ∈ effects)
    (marked : ranges ≠ []) :
    ∃ d t nodes before since s₀ sent₀,
      s'.active = some id ∧ s'.document? id = some d ∧
      s'.view.tree = some t ∧ t.Current P d ∧ s'.view.Locates d nodes ranges ∧
      events ++ [e] = before ++ .selected nodes :: since ∧ (∀ later ∈ since, ¬ later.Selects) ∧
      (new compiler policy).run P before = .ok (s₀, sent₀) ∧
      (s₀.active = some id ∨ s₀.active = none ∧ s₀.focused = some id) ∧
      ∀ mid, mid <+: since → ∀ u more,
        (new compiler policy).run P (before ++ .selected nodes :: mid) = .ok (u, more) →
        ∀ other, u.active = some other → other = id := by
  have run' := run_snoc_ok.mpr ⟨s, sent, effects, ran, stepped, rfl⟩
  obtain ⟨held, d, mirrored, located⟩ := (step_stepped stepped).requests requested marked
  obtain ⟨t, tree, current⟩ :=
    (sound_of_run run').loaded (activeDocument?_eq_some_iff.mpr ⟨id, held, mirrored⟩)
  have owner := owned_of_run run' id held
  rcases stands_of_run run' with
    nothing | ⟨before, since, s₀, sent₀, parts, quiet, first, made, only⟩
  · exact absurd nothing (located.nodes_ne_nil marked)
  · refine ⟨d, t, s'.selection, before, since, s₀, sent₀, held, mirrored, tree, current, located,
      parts, quiet, first, ?_, ?_⟩
    · rw [owner] at made
      exact Option.or_eq_some_iff.mp made.symm
    · intro mid early u more reran other active
      have same := only mid early u more reran other active
      rw [owner] at same
      exact (Option.some.inj same).symm

def selectingFirst : List Event :=
  [.focused (some "a"), .selected [[0]], .opened "a" "a.ts" "x"]

theorem highlight_of_selection_selectingFirst :
    ∃ s sent s' effects d nodes,
      (new .typescript .incremental).run .letters selectingFirst = .ok (s, sent) ∧
      s.step .letters (.visibility true) = .ok (s', effects) ∧
      .highlight ⟨"a", [⟨⟨0, 0⟩, ⟨0, 1⟩⟩]⟩ ∈ effects ∧
      s'.document? "a" = some d ∧ s'.view.Locates d nodes [⟨⟨0, 0⟩, ⟨0, 1⟩⟩] ∧
      .selected nodes ∈ selectingFirst ++ [.visibility true] := by
  obtain ⟨s, sent, s', effects, ran, stepped, requested⟩ : ∃ s sent s' effects,
      (new .typescript .incremental).run .letters selectingFirst = .ok (s, sent) ∧
        s.step .letters (.visibility true) = .ok (s', effects) ∧
        .highlight ⟨"a", [⟨⟨0, 0⟩, ⟨0, 1⟩⟩]⟩ ∈ effects := ⟨_, _, _, _, rfl, rfl, by decide +kernel⟩
  obtain ⟨d, -, nodes, before, since, -, -, -, mirrored, -, -, located, parts, -⟩ :=
    highlight_of_selection ran stepped requested (List.cons_ne_nil _ _)
  have made : .selected nodes ∈ selectingFirst ++ [.visibility true] := by
    rw [parts]
    exact List.mem_append_right before List.mem_cons_self
  exact ⟨s, sent, s', effects, d, nodes, ran, stepped, requested, mirrored, located, made⟩

end Run

end Session

end SyntaxPanel
