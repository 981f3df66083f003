import SyntaxPanel.Proofs.Panel.Selection

namespace SyntaxPanel

theorem Parser.letters_keepsToText : Parser.letters.KeepsToText :=
  ofTable_keepsToText (by decide +kernel)

namespace Event

def Unseen (e : Event) : Prop := ¬ e.Selects ∧ e ≠ visibility true

end Event

namespace Session

structure Waiting (id : DocumentId) (nodes : List NodePath) (s : Session) : Prop where
  visible : s.visible = false
  idle : s.active = none
  owner : s.highlighter.owner = some id
  selection : s.selection = nodes
  bare : s.highlights = []

section Step

variable {P : Parser} {s s' : Session} {e : Event} {effects : List Effect} {id : DocumentId}
  {nodes : List NodePath}

theorem Synced.waiting (synced : Synced P s s' effects) (hidden : s.visible = false)
    (owner : s.highlighter.owner = some id) (selection : s.selection = nodes) :
    Waiting id nodes s' := by
  have unwanted {other : DocumentId} {d : Document} : s.target? ≠ some (other, d) := by
    intro wanted
    obtain ⟨-, visible, -⟩ := target?_eq_some_iff.mp wanted
    cases hidden.symm.trans visible
  cases synced with
  | stays wanted held => exact absurd wanted unwanted
  | moves wanted other => exact absurd wanted unwanted
  | leaves none held => exact ⟨hidden, rfl, owner, selection, rfl⟩
  | rests none idle => exact ⟨hidden, idle, owner, selection, rfl⟩

theorem Stepped.waiting_of_hidden (stepped : Stepped P s (.visibility false) s' effects)
    (settled : s.Settled) (owned : s.Owned) (held : s.active = some id) :
    Waiting id s.selection s' := by
  cases stepped with
  | visibilitySame same =>
    obtain ⟨-, visible, -⟩ := (settled id).mp held
    cases same.symm.trans visible
  | hidden visible synced => exact synced.waiting rfl (owned id held) rfl

theorem Stepped.waiting (stepped : Stepped P s e s' effects) (unseen : e.Unseen)
    (waiting : Waiting id nodes s) : Waiting id nodes s' := by
  obtain ⟨hidden, idle, owner, selection, bare⟩ := waiting
  cases stepped with
  | openedElsewhere _ unfocused => exact ⟨hidden, idle, owner, selection, bare⟩
  | opened here synced => exact synced.waiting hidden owner selection
  | closedElsewhere _ => exact ⟨hidden, idle, owner, selection, bare⟩
  | closed held synced => exact synced.waiting hidden owner selection
  | changedUnknown unknown => exact ⟨hidden, idle, owner, selection, bare⟩
  | changedText mirrored applied untouched => exact ⟨hidden, idle, owner, selection, bare⟩
  | changedTree mirrored applied held some_change => cases idle.symm.trans held
  | focused synced => exact synced.waiting hidden owner selection
  | visibilitySame same => exact ⟨hidden, idle, owner, selection, bare⟩
  | hidden visible synced => cases hidden.symm.trans visible
  | shown _ synced revealed => exact absurd rfl unseen.2
  | selectedHidden _ => exact absurd trivial unseen.1
  | selected visible revealed => exact absurd trivial unseen.1

theorem Waiting.of_run {events : List Event} (waiting : Waiting id nodes s)
    (unseen : ∀ e ∈ events, e.Unseen) (ran : s.run P events = .ok (s', effects)) :
    Waiting id nodes s' := by
  refine run_invariant
    (fun events t _ => (∀ e ∈ events, e.Unseen) → Waiting id nodes t) (fun _ => waiting) ?_ ran
    unseen
  intro events t _ e t' _ kept stepped unseen
  have earlier := kept fun e mem => unseen e (List.mem_append_left _ mem)
  exact stepped.waiting (unseen e (List.mem_append_right _ (List.mem_singleton_self e))) earlier

theorem Synced.activates (synced : Synced P s s' effects) {d : Document}
    (wanted : s.target? = some (id, d)) (idle : s.active = none)
    (owner : s.highlighter.owner = some id) (bare : s.highlights = []) :
    effects = [.treeChanged (some id)] ∧ s'.active = some id ∧
      s'.view = s.view.parse P d.text d.path ∧ s'.selection = s.selection := by
  cases synced with
  | stays _ held => cases idle.symm.trans held
  | leaves unwanted held => cases idle.symm.trans held
  | rests unwanted _ => cases wanted.symm.trans unwanted
  | moves known other =>
    cases wanted.symm.trans known
    have nothing : s.clearing = [] := by
      have bare : s.highlighter.ranges = [] := bare
      simp only [clearing, Highlighter.hide, bare, if_true, Option.toList_none, List.map_nil]
    have own : s.highlighter.hide.1.retarget id = s.highlighter.hide.1 :=
      Highlighter.retarget_own owner
    refine ⟨?_, rfl, rfl, ?_⟩
    · rw [nothing, List.nil_append]
    · show (s.highlighter.hide.1.retarget id).selection = s.highlighter.selection
      rw [own]
      rfl

theorem Stepped.shown_of_waiting (stepped : Stepped P s (.visibility true) s' effects)
    (waiting : Waiting id nodes s) (focused : s.focused = some id) {d : Document}
    (mirrored : s.document? id = some d) :
    ∃ ranges, effects = [.treeChanged (some id), .highlight ⟨id, ranges⟩] ∧
      s'.view = s.view.parse P d.text d.path ∧ s'.view.Locates d nodes ranges ∧
      s'.selection = nodes := by
  obtain ⟨hidden, idle, owner, selection, bare⟩ := waiting
  cases stepped with
  | visibilitySame same => cases hidden.symm.trans same
  | shown _ synced revealed =>
    obtain ⟨rfl, held, view, kept⟩ :=
      synced.activates (target?_eq_some_iff.mpr ⟨focused, rfl, mirrored⟩) idle owner bare
    have known := (synced.sameInputs.document? id).trans mirrored
    obtain ⟨ranges, rfl, -, located⟩ := revealed.located held known
    have still : s'.selection = nodes :=
      revealed.sameSelection.selection.trans (kept.trans selection)
    exact ⟨ranges, rfl, revealed.view.trans view, still ▸ located, still⟩

end Step

/-- Hiding the panel while nodes are selected in its document, and showing it again later with that
document in focus: the nodes are highlighted where they are by then, whatever else was done unless
it showed the panel or selected. -/
theorem show_restores_selection {P : Parser} {compiler : Compiler} {policy : ReparsePolicy}
    {events away : List Event} {s : Session} {sent : List Effect} {id : DocumentId}
    (keeps : P.KeepsToText) (ran : (new compiler policy).run P events = .ok (s, sent))
    (held : s.active = some id) (unseen : ∀ e ∈ away, e.Unseen) :
    ∃ t more, s.run P (.visibility false :: away) = .ok (t, more) ∧
      ∀ d, t.focused = some id → t.document? id = some d →
        ∃ u ranges, t.step P (.visibility true) =
            .ok (u, [.treeChanged (some id), .highlight ⟨id, ranges⟩]) ∧
          u.view.tree = some { dialect := compiler.dialect d.path,
                               root := P.parse (compiler.dialect d.path) d.text } ∧
          u.view.Locates d s.selection ranges ∧ u.selection = s.selection := by
  obtain ⟨t, more, gone, sound⟩ := (sound_of_run ran).run_ok keeps (.visibility false :: away)
  refine ⟨t, more, gone, ?_⟩
  intro d focused mirrored
  have waiting : Waiting id s.selection t := by
    obtain ⟨middle, _, _, hidden, later, -⟩ := run_cons_ok.mp gone
    have left :=
      (step_stepped hidden).waiting_of_hidden (settled_of_run ran) (owned_of_run ran) held
    exact left.of_run unseen later
  have compiled : t.view.compiler = compiler :=
    (choices_of_run (run_append_ok.mpr ⟨s, sent, more, ran, gone, rfl⟩)).2
  obtain ⟨u, effects, shown, -⟩ := sound.step_ok keeps (.visibility true)
  obtain ⟨ranges, rfl, view, located, kept⟩ :=
    (step_stepped shown).shown_of_waiting waiting focused mirrored
  refine ⟨u, ranges, shown, ?_, located, kept⟩
  rw [view, ← compiled]
  rfl

def elsewhere : List Event :=
  [.focused none, .closed "a", .opened "a" "a.js" "z", .changed "a" [⟨none, "y"⟩],
    .focused (some "a")]

theorem show_restores_selection_elsewhere : ∃ s sent t more u ranges,
    (new .typescript .incremental).run .letters (reopening ++ [.selected [[0], [7]]]) =
        .ok (s, sent) ∧
      s.run .letters (.visibility false :: elsewhere) = .ok (t, more) ∧
      t.step .letters (.visibility true) =
        .ok (u, [.treeChanged (some "a"), .highlight ⟨"a", ranges⟩]) ∧
      u.view.Locates ⟨"a.js", "y"⟩ [[0], [7]] ranges ∧ ranges = [⟨⟨0, 0⟩, ⟨0, 1⟩⟩] ∧
      u.selection = [[0], [7]] := by
  obtain ⟨s, sent, ran, held, chosen⟩ : ∃ s sent,
      (new .typescript .incremental).run .letters (reopening ++ [.selected [[0], [7]]]) =
          .ok (s, sent) ∧
        s.active = some "a" ∧ s.selection = [[0], [7]] := ⟨_, _, rfl, rfl, rfl⟩
  have unseen : ∀ e ∈ elsewhere, e.Unseen := by
    simp [elsewhere, Event.Unseen, Event.Selects]
  obtain ⟨t, more, gone, restored⟩ :=
    show_restores_selection Parser.letters_keepsToText ran held unseen
  obtain ⟨focused, mirrored⟩ : t.focused = some "a" ∧ t.document? "a" = some ⟨"a.js", "y"⟩ := by
    cases ran
    cases gone
    exact ⟨rfl, by decide +kernel⟩
  obtain ⟨u, ranges, shown, -, located, kept⟩ := restored _ focused mirrored
  refine ⟨s, sent, t, more, u, ranges, ran, gone, shown, chosen ▸ located, ?_, kept.trans chosen⟩
  cases ran
  cases gone
  cases shown
  decide +kernel

end Session

end SyntaxPanel
