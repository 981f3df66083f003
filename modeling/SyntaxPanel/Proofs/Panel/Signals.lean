import SyntaxPanel.Proofs.Panel.Coherence

namespace SyntaxPanel

def Effect.signal? : Effect → Option (Option DocumentId)
  | treeChanged document => some document
  | highlight _ => none

def signals (effects : List Effect) : List (Option DocumentId) := effects.filterMap Effect.signal?

def lastSignal (effects : List Effect) : Option DocumentId := (signals effects).getLast?.join

theorem signals_append (a b : List Effect) : signals (a ++ b) = signals a ++ signals b :=
  List.filterMap_append

theorem signals_eq_nil_iff {effects : List Effect} :
    signals effects = [] ↔ ∀ document, .treeChanged document ∉ effects := by
  rw [signals, List.filterMap_eq_nil_iff]
  constructor
  · exact fun silent document mem => nomatch silent _ mem
  · intro absent e mem
    cases e with
    | treeChanged document => exact absurd mem (absent document)
    | highlight request => rfl

theorem lastSignal_append_of_silent {a b : List Effect} (silent : signals b = []) :
    lastSignal (a ++ b) = lastSignal a := by
  rw [lastSignal, signals_append, silent, List.append_nil, lastSignal]

theorem lastSignal_append_of_single {a b : List Effect} {document : Option DocumentId}
    (single : signals b = [document]) : lastSignal (a ++ b) = document := by
  rw [lastSignal, signals_append, single, List.getLast?_concat, Option.join_some]

namespace Session

theorem signals_clearing (s : Session) : signals s.clearing = [] := by
  rw [signals_eq_nil_iff]
  intro document mem
  obtain ⟨request, -, impossible⟩ := List.mem_map.mp mem
  cases impossible

structure SameTree (s s' : Session) : Prop where
  active : s'.active = s.active
  view : s'.view = s.view
  document : s'.activeDocument? = s.activeDocument?

theorem SameTree.refl (s : Session) : SameTree s s := ⟨rfl, rfl, rfl⟩

theorem SameTree.highlighter (s : Session) (highlighter : Highlighter) :
    SameTree s { s with highlighter } := ⟨rfl, rfl, rfl⟩

theorem SameTree.idle {s s' : Session} (before : s.active = none) (after : s'.active = none)
    (view : s'.view = s.view) : SameTree s s' where
  active := after.trans before.symm
  view := view
  document := by rw [activeDocument?, activeDocument?, before, after]; rfl

theorem SameTree.trans {s₁ s₂ s₃ : Session} (first : SameTree s₁ s₂) (second : SameTree s₂ s₃) :
    SameTree s₁ s₃ :=
  ⟨second.active.trans first.active, second.view.trans first.view,
    second.document.trans first.document⟩

theorem SameTree.children {s s' : Session} (same : SameTree s s') : s'.children = s.children := by
  funext path
  rw [Session.children, Session.children, same.view]

theorem SameTree.describe {s s' : Session} (same : SameTree s s') : s'.describe = s.describe := by
  funext path
  rw [Session.describe, Session.describe, same.document, same.view]

theorem SameTree.dump {s s' : Session} (same : SameTree s s') : s'.dump = s.dump := by
  rw [Session.dump, Session.dump, same.document, same.view]

theorem Revealed.sameTree {s s' : Session} {effects : List Effect}
    (revealed : Revealed s s' effects) : SameTree s s' :=
  ⟨revealed.active, revealed.view, revealed.activeDocument?⟩

theorem Revealed.silent {s s' : Session} {effects : List Effect}
    (revealed : Revealed s s' effects) : signals effects = [] := by
  cases revealed <;> rfl

theorem Synced.signals {P : Parser} {s s' : Session} {effects : List Effect}
    (synced : Synced P s s' effects) : signals effects = [s'.active] ∨
      (signals effects = [] ∧ s.active = none ∧ s'.active = none ∧ s'.view = s.view) := by
  cases synced with
  | stays wanted held => exact .inl rfl
  | moves wanted other =>
    left
    rw [signals_append, signals_clearing]
    rfl
  | leaves unwanted held =>
    left
    rw [signals_append, signals_clearing]
    rfl
  | rests unwanted idle => exact .inr ⟨signals_clearing s, idle, idle, rfl⟩

theorem Stepped.signals {P : Parser} {s s' : Session} {e : Event} {effects : List Effect}
    (stepped : Stepped P s e s' effects) :
    signals effects = [s'.active] ∨ (signals effects = [] ∧ SameTree s s') := by
  -- The event itself moved neither the active document nor the view.
  have after {t : Session} (synced : Synced P t s' effects) (active : t.active = s.active)
      (view : t.view = s.view) :
      SyntaxPanel.signals effects = [s'.active] ∨
        (SyntaxPanel.signals effects = [] ∧ SameTree s s') := by
    rcases synced.signals with single | ⟨silent, before, idle, same⟩
    · exact .inl single
    · exact .inr ⟨silent, .idle (active ▸ before) idle (same.trans view)⟩
  cases stepped with
  | openedElsewhere idle unfocused =>
    exact .inr ⟨rfl, rfl, rfl, activeDocument?_put fun held => absurd held idle⟩
  | opened here synced => exact after synced rfl rfl
  | closedElsewhere idle => exact .inr ⟨rfl, rfl, rfl, activeDocument?_erase _ idle⟩
  | closed held synced => exact after synced rfl rfl
  | changedUnknown unknown => exact .inr ⟨rfl, .refl s⟩
  | changedText mirrored applied untouched =>
    exact .inr ⟨rfl, rfl, rfl, activeDocument?_untouched mirrored applied untouched⟩
  | changedTree mirrored applied held some_change => exact .inl (congrArg (fun a => [a]) held.symm)
  | focused synced => exact after synced rfl rfl
  | visibilitySame same => exact .inr ⟨rfl, .refl s⟩
  | hidden visible synced => exact after synced rfl rfl
  | @shown middle _ effects more hidden synced revealed =>
    rw [signals_append, revealed.silent, List.append_nil, revealed.active]
    rcases synced.signals with single | ⟨silent, before, idle, same⟩
    · exact .inl single
    · have unmoved : SameTree s middle := .idle before idle same
      exact .inr ⟨silent, unmoved.trans revealed.sameTree⟩
  | selectedHidden hidden => exact .inr ⟨rfl, rfl, rfl, rfl⟩
  | selected visible revealed =>
    exact .inr ⟨revealed.silent, (SameTree.highlighter s _).trans revealed.sameTree⟩

theorem lastSignal_step {P : Parser} {s s' : Session} {e : Event} {sent effects : List Effect}
    (last : lastSignal sent = s.active) (stepped : Stepped P s e s' effects) :
    lastSignal (sent ++ effects) = s'.active := by
  rcases stepped.signals with single | ⟨silent, same⟩
  · exact lastSignal_append_of_single single
  · rw [lastSignal_append_of_silent silent, last, same.active]

theorem lastSignal_run {P : Parser} {compiler : Compiler} {policy : ReparsePolicy}
    {events : List Event} {s : Session} {sent : List Effect}
    (ran : (new compiler policy).run P events = .ok (s, sent)) : lastSignal sent = s.active :=
  run_invariant (fun _ s sent => lastSignal sent = s.active) rfl
    (fun _ _ _ _ _ _ last stepped => lastSignal_step last stepped) ran

/-- After any run, an event signals at most once; the last signal of all tells the active document;
and an event without a signal leaves the active document and all that its tree shows as before. -/
theorem refresh_on_signal {P : Parser} {compiler : Compiler} {policy : ReparsePolicy}
    {events : List Event} {e : Event} {s s' : Session} {sent effects : List Effect}
    (ran : (new compiler policy).run P events = .ok (s, sent))
    (stepped : s.step P e = .ok (s', effects)) :
    (SyntaxPanel.signals effects).length ≤ 1 ∧
    lastSignal (sent ++ effects) = s'.active ∧
    ((∀ document, .treeChanged document ∉ effects) →
      s'.active = s.active ∧ s'.activeDocument? = s.activeDocument? ∧
      (∀ parent, s'.children parent = s.children parent) ∧
      (∀ path, s'.describe path = s.describe path) ∧ s'.dump = s.dump) := by
  have cases_of_step := (step_stepped stepped).signals
  refine ⟨?_, lastSignal_step (lastSignal_run ran) (step_stepped stepped), ?_⟩
  · rcases cases_of_step with single | ⟨silent, -⟩
    · rw [single]; exact Nat.le_refl 1
    · rw [silent]; exact Nat.zero_le 1
  · intro absent
    have silent := signals_eq_nil_iff.mpr absent
    rcases cases_of_step with single | ⟨-, same⟩
    · rw [silent] at single
      cases single
    · exact ⟨same.active, same.document, congrFun same.children, congrFun same.describe,
        same.dump⟩

theorem refresh_on_signal_reopening : ∃ s sent s' effects,
    (new .typescript .incremental).run .letters reopening = .ok (s, sent) ∧
      s.step .letters (.selected [[0]]) = .ok (s', effects) ∧
      effects = [.highlight ⟨"a", [⟨⟨0, 0⟩, ⟨0, 1⟩⟩]⟩] ∧
      lastSignal (sent ++ effects) = s'.active ∧ s'.dump = s.dump := by
  obtain ⟨s, sent, s', effects, ran, stepped, highlighted⟩ : ∃ s sent s' effects,
      (new .typescript .incremental).run .letters reopening = .ok (s, sent) ∧
        s.step .letters (.selected [[0]]) = .ok (s', effects) ∧
        effects = [.highlight ⟨"a", [⟨⟨0, 0⟩, ⟨0, 1⟩⟩]⟩] :=
    ⟨_, _, _, _, rfl, rfl, by decide +kernel⟩
  obtain ⟨-, last, same⟩ := refresh_on_signal ran stepped
  have silent : ∀ document, .treeChanged document ∉ effects := by
    rw [highlighted]
    exact fun document => by simp
  exact ⟨s, sent, s', effects, ran, stepped, highlighted, last, (same silent).2.2.2.2⟩

end Session

end SyntaxPanel
