import SyntaxPanel.Proofs.Panel.Signals

/-! What a host that does as it is told has decorated. Only the document that was signalled last
can be decorated, at every moment, also between two effects of one event; after each event the
decorations are the highlights of the active document. Which ranges these are is not told here. -/
namespace SyntaxPanel

abbrev Decorations := DocumentId → List Range

def Decorations.apply (shown : Decorations) : Effect → Decorations
  | .treeChanged _ => shown
  | .highlight request => fun id => if id = request.document then request.ranges else shown id

def decorations (effects : List Effect) : Decorations :=
  effects.foldl Decorations.apply fun _ => []

/-- Nothing is decorated but the document that was signalled last. -/
def Tidy (effects : List Effect) : Prop :=
  ∀ id, decorations effects id ≠ [] → lastSignal effects = some id

theorem decorations_snoc (effects : List Effect) (e : Effect) :
    decorations (effects ++ [e]) = (decorations effects).apply e := by
  rw [decorations, List.foldl_append, decorations]
  rfl

theorem decorations_snoc_treeChanged (effects : List Effect) (document : Option DocumentId) :
    decorations (effects ++ [.treeChanged document]) = decorations effects :=
  decorations_snoc effects _

theorem decorations_snoc_highlight (effects : List Effect) (request : Highlight)
    (id : DocumentId) : decorations (effects ++ [.highlight request]) id =
      if id = request.document then request.ranges else decorations effects id := by
  rw [decorations_snoc]
  rfl

theorem tidy_of_clear {effects : List Effect} (clear : ∀ id, decorations effects id = []) :
    Tidy effects := fun id decorated => absurd (clear id) decorated

def AlwaysTidy (effects : List Effect) : Prop := ∀ seen, seen <+: effects → Tidy seen

theorem AlwaysTidy.snoc {effects : List Effect} {e : Effect} (always : AlwaysTidy effects)
    (last : Tidy (effects ++ [e])) : AlwaysTidy (effects ++ [e]) := by
  intro seen early
  rcases List.prefix_concat_iff.mp early with rfl | early
  · exact last
  · exact always seen early

namespace Session

/-- A host that has done all it was told shows what the session means it to show. -/
structure Decorated (sent : List Effect) (s : Session) : Prop where
  signal : lastSignal sent = s.active
  decorations : ∀ id, decorations sent id = if s.active = some id then s.highlights else []
  highlighted : s.highlights ≠ [] → s.highlighter.highlighted = s.active
  tidy : AlwaysTidy sent

theorem decorated_new (compiler : Compiler) (policy : ReparsePolicy) :
    Decorated [] (new compiler policy) where
  signal := rfl
  decorations _ := rfl
  highlighted shown := absurd rfl shown
  tidy seen early := by
    rw [List.prefix_nil.mp early]
    exact tidy_of_clear fun _ => rfl

theorem Decorated.of_eq {sent : List Effect} {s t : Session} (decorated : Decorated sent s)
    (active : t.active = s.active) (highlights : t.highlights = s.highlights)
    (highlighted : t.highlighter.highlighted = s.highlighter.highlighted) : Decorated sent t where
  signal := decorated.signal.trans active.symm
  decorations := by rw [active, highlights]; exact decorated.decorations
  highlighted := by rw [active, highlights, highlighted]; exact decorated.highlighted
  tidy := decorated.tidy

theorem Decorated.requested {sent : List Effect} {s : Session} {id : DocumentId}
    (decorated : Decorated sent s) (held : s.active = some id) (ranges : List Range)
    (other : DocumentId) :
    SyntaxPanel.decorations (sent ++ [.highlight ⟨id, ranges⟩]) other =
      if s.active = some other then ranges else [] := by
  rw [decorations_snoc_highlight, decorated.decorations, held]
  by_cases same : other = id
  · rw [if_pos same, if_pos (same ▸ rfl)]
  · have differ : some id ≠ some other := fun eq => same (Option.some.inj eq).symm
    rw [if_neg same, if_neg differ, if_neg differ]

theorem Decorated.clearing_cases {sent : List Effect} {s : Session}
    (decorated : Decorated sent s) :
    (s.clearing = [] ∧ ∀ id, SyntaxPanel.decorations sent id = []) ∨
      ∃ id, s.active = some id ∧ s.clearing = [.highlight ⟨id, []⟩] := by
  by_cases bare : s.highlights = []
  · left
    refine ⟨?_, fun id => ?_⟩
    · have bare' : s.highlighter.ranges = [] := bare
      simp only [clearing, Highlighter.hide, if_pos bare', Option.toList_none, List.map_nil]
    · rw [decorated.decorations, bare, ite_self]
  · have highlighted := decorated.highlighted bare
    have shown : s.highlighter.ranges ≠ [] := bare
    cases held : s.active with
    | none =>
      left
      refine ⟨?_, fun id => ?_⟩
      · simp only [clearing, Highlighter.hide, if_neg shown, highlighted, held, Option.map_none,
          Option.toList_none, List.map_nil]
      · rw [decorated.decorations, held, if_neg nofun]
    | some id =>
      right
      refine ⟨id, rfl, ?_⟩
      simp only [clearing, Highlighter.hide, if_neg shown, highlighted, held, Option.map_some,
        Option.toList_some, List.map_cons, List.map_nil]

theorem Decorated.cleared {sent : List Effect} {s : Session} (decorated : Decorated sent s) :
    (∀ id, SyntaxPanel.decorations (sent ++ s.clearing) id = []) ∧
      AlwaysTidy (sent ++ s.clearing) := by
  rcases decorated.clearing_cases with ⟨nothing, clear⟩ | ⟨id, held, request⟩
  · rw [nothing, List.append_nil]
    exact ⟨clear, decorated.tidy⟩
  · rw [request]
    have clear : ∀ other, SyntaxPanel.decorations (sent ++ [.highlight ⟨id, []⟩]) other = [] := by
      intro other
      rw [decorated.requested held, ite_self]
    exact ⟨clear, decorated.tidy.snoc (tidy_of_clear clear)⟩

theorem Decorated.signalled {sent : List Effect} {s s' : Session} {document : Option DocumentId}
    (decorated : Decorated sent s) (active : s'.active = document) (bare : s'.highlights = []) :
    Decorated (sent ++ (s.clearing ++ [.treeChanged document])) s' := by
  obtain ⟨clear, tidy⟩ := decorated.cleared
  rw [← List.append_assoc]
  have still : ∀ id,
      SyntaxPanel.decorations (sent ++ s.clearing ++ [.treeChanged document]) id = [] := by
    rw [decorations_snoc_treeChanged]
    exact clear
  exact {
    signal := (lastSignal_append_of_single rfl).trans active.symm
    decorations := fun id => by rw [still, bare, ite_self]
    highlighted := fun shown => absurd bare shown
    tidy := tidy.snoc (tidy_of_clear still) }

theorem Decorated.repeated {sent : List Effect} {s : Session} {id : DocumentId}
    (decorated : Decorated sent s) (held : s.active = some id) :
    Decorated (sent ++ [.treeChanged (some id)]) s := by
  have signal : lastSignal (sent ++ [.treeChanged (some id)]) = s.active :=
    (lastSignal_append_of_single rfl).trans held.symm
  refine { signal, decorations := ?_, highlighted := decorated.highlighted, tidy := ?_ }
  · rw [decorations_snoc_treeChanged]
    exact decorated.decorations
  · apply decorated.tidy.snoc
    intro other shown
    rw [decorations_snoc_treeChanged] at shown
    rw [signal, ← decorated.signal]
    exact decorated.tidy sent List.prefix_rfl other shown

theorem Synced.decorated {P : Parser} {s s' : Session} {sent effects : List Effect}
    (synced : Synced P s s' effects) (decorated : Decorated sent s) :
    Decorated (sent ++ effects) s' := by
  cases synced with
  | stays wanted held =>
    exact (decorated.repeated held).of_eq held.symm (Highlighter.retarget_ranges _ _)
      (Highlighter.retarget_highlighted _ _)
  | moves wanted other =>
    exact decorated.signalled rfl (Highlighter.retarget_ranges _ _)
  | leaves unwanted held =>
    exact decorated.signalled rfl rfl
  | rests unwanted idle =>
    obtain ⟨clear, tidy⟩ := decorated.cleared
    exact {
      signal := (lastSignal_append_of_silent (signals_clearing s)).trans decorated.signal
      decorations := fun id => by rw [clear]; exact (ite_self _).symm
      highlighted := fun shown => absurd rfl shown
      tidy }

theorem Revealed.decorated {s s' : Session} {sent effects : List Effect}
    (revealed : Revealed s s' effects) (decorated : Decorated sent s) :
    Decorated (sent ++ effects) s' := by
  cases revealed with
  | none idle => rwa [List.append_nil]
  | @ranges id d ranges held mirrored located =>
    have signal : lastSignal (sent ++ [.highlight ⟨id, ranges⟩]) = s.active :=
      (lastSignal_append_of_silent rfl).trans decorated.signal
    have shown := decorated.requested held ranges
    refine ⟨signal, shown, fun _ => held.symm, decorated.tidy.snoc ?_⟩
    intro other decorated
    rw [shown] at decorated
    rw [signal]
    by_contra unheld
    exact decorated (if_neg unheld)

theorem Stepped.decorated {P : Parser} {s s' : Session} {e : Event} {sent effects : List Effect}
    (stepped : Stepped P s e s' effects) (decorated : Decorated sent s) :
    Decorated (sent ++ effects) s' := by
  have quiet {t : Session} (active : t.active = s.active)
      (highlights : t.highlights = s.highlights)
      (highlighted : t.highlighter.highlighted = s.highlighter.highlighted) :
      Decorated (sent ++ []) t := by
    rw [List.append_nil]
    exact decorated.of_eq active highlights highlighted
  cases stepped with
  | openedElsewhere idle unfocused => exact quiet rfl rfl rfl
  | opened here synced => exact synced.decorated (decorated.of_eq rfl rfl rfl)
  | closedElsewhere idle => exact quiet rfl rfl rfl
  | closed held synced => exact synced.decorated (decorated.of_eq rfl rfl rfl)
  | changedUnknown unknown => exact quiet rfl rfl rfl
  | changedText mirrored applied untouched => exact quiet rfl rfl rfl
  | changedTree mirrored applied held some_change =>
    exact (decorated.repeated held).of_eq rfl rfl rfl
  | focused synced => exact synced.decorated (decorated.of_eq rfl rfl rfl)
  | visibilitySame same => exact quiet rfl rfl rfl
  | hidden visible synced => exact synced.decorated (decorated.of_eq rfl rfl rfl)
  | shown hidden synced revealed =>
    rw [← List.append_assoc]
    exact revealed.decorated (synced.decorated (decorated.of_eq rfl rfl rfl))
  | selectedHidden hidden => exact quiet rfl rfl rfl
  | selected visible revealed => exact revealed.decorated (decorated.of_eq rfl rfl rfl)

/-- At every moment of any run at most the document that was signalled last is decorated; after
the run the decorations are the highlights of the active document, and none when hidden. -/
theorem decorations_of_run {P : Parser} {compiler : Compiler} {policy : ReparsePolicy}
    {events : List Event} {s : Session} {effects : List Effect}
    (ran : (new compiler policy).run P events = .ok (s, effects)) :
    (∀ seen, seen <+: effects → ∀ id, decorations seen id ≠ [] → lastSignal seen = some id) ∧
    (∀ id, decorations effects id = if s.active = some id then s.highlights else []) ∧
    (s.visible = false → ∀ id, decorations effects id = []) := by
  have decorated : Decorated effects s :=
    run_invariant (fun _ s sent => Decorated sent s) (decorated_new compiler policy)
      (fun _ _ _ _ _ _ decorated stepped => stepped.decorated decorated) ran
  refine ⟨decorated.tidy, decorated.decorations, ?_⟩
  intro hidden id
  have idle : s.active ≠ some id := by
    intro held
    obtain ⟨-, visible, -⟩ := (settled_of_run ran id).mp held
    rw [hidden] at visible
    cases visible
  rw [decorated.decorations, if_neg idle]

def refocusing : List Event :=
  [.opened "a" "a.ts" "x", .opened "b" "b.ts" "y", .focused (some "a"), .visibility true,
    .selected [[0]], .focused (some "b")]

theorem decorations_of_run_refocusing :
    ∃ s effects, (new .typescript .incremental).run .letters refocusing = .ok (s, effects) ∧
      decorations (effects.take 3) "a" = [⟨⟨0, 0⟩, ⟨0, 1⟩⟩] ∧
      lastSignal (effects.take 3) = some "a" ∧ ∀ id, decorations effects id = [] := by
  obtain ⟨s, effects, ran, shown, bare⟩ :
      ∃ s effects, (new .typescript .incremental).run .letters refocusing = .ok (s, effects) ∧
        decorations (effects.take 3) "a" = [⟨⟨0, 0⟩, ⟨0, 1⟩⟩] ∧ s.highlights = [] :=
    ⟨_, _, rfl, by decide +kernel, rfl⟩
  obtain ⟨tidy, known, -⟩ := decorations_of_run ran
  have marked : decorations (effects.take 3) "a" ≠ [] := by
    rw [shown]
    exact List.cons_ne_nil _ _
  refine ⟨s, effects, ran, shown, tidy _ (List.take_prefix 3 effects) "a" marked, ?_⟩
  intro id
  rw [known, bare, ite_self]

end Session

end SyntaxPanel
