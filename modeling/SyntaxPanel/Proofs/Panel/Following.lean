import SyntaxPanel.Proofs.Panel.Selection
import SyntaxPanel.Proofs.Panel.Signals

/-! How far the highlights follow the selection. They are computed when the panel is shown and when
nodes are selected, and at no other time. A document that becomes active again because it has the
focus again, or is open again, keeps its selection, but nothing is highlighted in it until one of
the two happens. -/
namespace SyntaxPanel.Session

/-- The event neither opens nor changes the active document. -/
def Spares (s : Session) : Event → Prop
  | .opened id _ _ => s.active ≠ some id
  | .changed id _ => s.active ≠ some id
  | _ => True

def Calm (P : Parser) (start : Session) (events : List Event) : Prop :=
  ∀ before e after s sent, events = before ++ e :: after → start.run P before = .ok (s, sent) →
    s.Spares e

structure ActiveSince (P : Parser) (start : Session) (id : DocumentId) (before : List Event)
    (e : Event) (since : List Event) : Prop where
  idle : ∃ s sent, start.run P before = .ok (s, sent) ∧ s.active ≠ some id
  held : ∀ mid, mid <+: since → ∀ s sent, start.run P (before ++ e :: mid) = .ok (s, sent) →
    s.active = some id

/-- The highlights of a document that is active ever since the event `e`: those of the selection
from the moment on at which the panel was shown or nodes were selected, and none up to it. -/
structure Follows (P : Parser) (start : Session) (id : DocumentId) (before : List Event)
    (e : Event) (since : List Event) (s : Session) : Prop
    extends ActiveSince P start id before e since where
  located : (e = .visibility true ∨ ∃ later ∈ since, later.Selects) →
    ∀ d, s.document? id = some d → s.view.Locates d s.selection s.highlights
  bare : e ≠ .visibility true → (∀ later ∈ since, ¬ later.Selects) → s.highlights = []

structure SameShown (s s' : Session) : Prop extends SameTree s s' where
  selection : s'.selection = s.selection
  highlights : s'.highlights = s.highlights

theorem SameShown.refl (s : Session) : SameShown s s := ⟨.refl s, rfl, rfl⟩

theorem SameTree.document? {s s' : Session} (same : SameTree s s') {id : DocumentId}
    (held : s.active = some id) : s'.document? id = s.document? id := by
  simpa only [activeDocument?, same.active, held, Option.bind_some] using same.document

section Step

variable {P : Parser} {s s' : Session} {e : Event} {effects : List Effect} {id : DocumentId}

theorem Stepped.upToDate_of_spares (stepped : Stepped P s e s' effects) (spares : s.Spares e)
    (upToDate : s.UpToDate P) : s'.UpToDate P := by
  refine stepped.upToDate_of_change ?_ upToDate
  rintro id changes rfl held
  exact absurd held spares

theorem Revealed.locates (revealed : Revealed s s' effects) {d : Document}
    (held : s'.active = some id) (mirrored : s'.document? id = some d) :
    s'.view.Locates d s'.selection s'.highlights := by
  rw [revealed.active] at held
  rw [revealed.sameInputs.document?] at mirrored
  obtain ⟨_, -, rfl, located⟩ := revealed.located held mirrored
  exact located

theorem Synced.sameShown (synced : Synced P s s' effects) (upToDate : s.UpToDate P)
    (owned : s.Owned) (held : s.active = some id) (still : s'.active = some id) :
    SameShown s s' := by
  cases synced with
  | leaves unwanted _ => cases still
  | rests unwanted idle => cases idle.symm.trans held
  | moves wanted other =>
    cases still
    exact absurd held other
  | @stays id' d wanted held' =>
    cases still
    obtain ⟨-, -, mirrored⟩ := target?_eq_some_iff.mp wanted
    -- Without a change in between, the text that is parsed once more gives the tree that is held.
    have tree : s.view.tree = some (d.tree P s.view.compiler) := upToDate.loaded held mirrored
    have reparsed : s.view.parse P d.text d.path = s.view := by
      show { s.view with tree := some (d.tree P s.view.compiler) } = s.view
      rw [← tree]
    rw [Highlighter.retarget_own (owned id held), reparsed]
    exact ⟨⟨held.symm, rfl, activeDocument?_congr held.symm fun _ _ => rfl⟩, rfl, rfl⟩

theorem Synced.bare_of_activated (synced : Synced P s s' effects) (idle : s.active ≠ some id)
    (still : s'.active = some id) : s'.highlights = [] := by
  cases synced with
  | leaves unwanted _ => cases still
  | rests unwanted _ => exact absurd still idle
  | stays wanted held =>
    cases still
    exact absurd held idle
  | moves wanted other => exact Highlighter.retarget_ranges _ _

theorem Stepped.sameShown (stepped : Stepped P s e s' effects) (spares : s.Spares e)
    (quiet : ¬ e.Selects) (settled : s.Settled) (upToDate : s.UpToDate P) (owned : s.Owned)
    (held : s.active = some id) (still : s'.active = some id) : SameShown s s' := by
  obtain ⟨focus, visible, -⟩ := (settled id).mp held
  obtain ⟨-, visible', opened'⟩ := (stepped.settled settled id).mp still
  cases stepped with
  | openedElsewhere idle unfocused =>
    exact ⟨⟨rfl, rfl, activeDocument?_put fun held => absurd held idle⟩, rfl, rfl⟩
  | opened here synced =>
    rcases here with active | focused
    · exact absurd active spares
    · exact absurd (held.trans (focus.symm.trans focused)) spares
  | closedElsewhere idle => exact ⟨⟨rfl, rfl, activeDocument?_erase _ idle⟩, rfl, rfl⟩
  | closed held' synced =>
    cases held.symm.trans held'
    rw [synced.sameInputs.document?, document?_erase, if_pos rfl] at opened'
    cases opened'
  | changedUnknown unknown => exact .refl s
  | changedText mirrored applied untouched =>
    exact ⟨⟨rfl, rfl, activeDocument?_untouched mirrored applied untouched⟩, rfl, rfl⟩
  | changedTree mirrored applied held' some_change => exact absurd held' spares
  | focused synced =>
    have same := synced.sameShown upToDate owned held still
    exact ⟨⟨same.active, same.view, same.document⟩, same.selection, same.highlights⟩
  | visibilitySame same => exact .refl s
  | hidden _ synced => cases synced.sameInputs.visible.symm.trans visible'
  | shown hidden synced revealed => cases hidden.symm.trans visible
  | selectedHidden hidden => exact absurd trivial quiet
  | selected _ revealed => exact absurd trivial quiet

theorem Stepped.locates_of_selects (stepped : Stepped P s e s' effects) (selects : e.Selects)
    (settled : s.Settled) {d : Document} (still : s'.active = some id)
    (mirrored : s'.document? id = some d) : s'.view.Locates d s'.selection s'.highlights := by
  cases stepped with
  | selectedHidden hidden =>
    obtain ⟨-, visible, -⟩ := (settled id).mp still
    cases hidden.symm.trans visible
  | selected visible revealed => exact revealed.locates still mirrored
  | _ => exact selects.elim

theorem Stepped.activated (stepped : Stepped P s e s' effects) (idle : s.active ≠ some id)
    (still : s'.active = some id) :
    (e = .visibility true → ∀ d, s'.document? id = some d →
      s'.view.Locates d s'.selection s'.highlights) ∧
    (e ≠ .visibility true → s'.highlights = []) := by
  have bare {t : Session} (synced : Synced P t s' effects) (same : t.active = s.active) :
      s'.highlights = [] := synced.bare_of_activated (same ▸ idle) still
  cases stepped with
  | openedElsewhere _ unfocused => exact absurd still idle
  | opened here synced => exact ⟨nofun, fun _ => bare synced rfl⟩
  | closedElsewhere _ => exact absurd still idle
  | closed held synced => exact ⟨nofun, fun _ => bare synced rfl⟩
  | changedUnknown unknown => exact absurd still idle
  | changedText mirrored applied untouched => exact absurd still idle
  | changedTree mirrored applied held some_change => exact absurd still idle
  | focused synced => exact ⟨nofun, fun _ => bare synced rfl⟩
  | visibilitySame same => exact absurd still idle
  | hidden visible synced => exact ⟨nofun, fun _ => bare synced rfl⟩
  | shown hidden synced revealed =>
    exact ⟨fun _ d mirrored => revealed.locates still mirrored, fun other => absurd rfl other⟩
  | selectedHidden hidden => exact absurd still idle
  | selected visible revealed => exact absurd (revealed.active ▸ still) idle

end Step

section Run

variable {P : Parser} {start s s' : Session} {events : List Event} {e : Event}
  {sent sent' effects : List Effect} {id : DocumentId}

theorem Calm.cons (spares : start.Spares e)
    (later : ∀ s sent, start.step P e = .ok (s, sent) → Calm P s events) :
    Calm P start (e :: events) := by
  intro before last after s sent parts ran
  cases before with
  | nil =>
    cases parts
    cases ran
    exact spares
  | cons first before =>
    obtain ⟨rfl, rest⟩ := List.cons.inj parts
    obtain ⟨middle, front, back, stepped, ran, -⟩ := run_cons_ok.mp ran
    exact later middle front stepped before last after s back rest ran

theorem calm_of_spared (spared : ∀ e ∈ events, ∀ s : Session, s.Spares e) :
    Calm P start events := by
  rintro before e after s sent rfl -
  exact spared e (List.mem_append_right before List.mem_cons_self) s

theorem Calm.front (calm : Calm P start (events ++ [e])) : Calm P start events := by
  intro before e' after s sent parts ran
  have parts' : events ++ [e] = before ++ e' :: (after ++ [e]) := by
    rw [parts, List.append_assoc, List.cons_append]
  exact calm before e' (after ++ [e]) s sent parts' ran

theorem Calm.spares (calm : Calm P start (events ++ [e]))
    (ran : start.run P events = .ok (s, sent)) : s.Spares e :=
  calm events e [] s sent rfl ran

theorem ActiveSince.now (ran : start.run P events = .ok (s, sent)) (idle : s.active ≠ some id)
    (ran' : start.run P (events ++ [e]) = .ok (s', sent')) (still : s'.active = some id) :
    ActiveSince P start id events e [] where
  idle := ⟨s, sent, ran, idle⟩
  held mid early t more reran := by
    rw [List.prefix_nil.mp early] at reran
    cases ran'.symm.trans reran
    exact still

theorem ActiveSince.snoc {before since : List Event} {last : Event}
    (active : ActiveSince P start id before e since)
    (ran : start.run P (before ++ e :: (since ++ [last])) = .ok (s, sent))
    (held : s.active = some id) : ActiveSince P start id before e (since ++ [last]) where
  idle := active.idle
  held mid early t more reran := by
    rcases List.prefix_concat_iff.mp early with rfl | early
    · cases ran.symm.trans reran
      exact held
    · exact active.held mid early t more reran

theorem Follows.snoc {before since : List Event} {last : Event}
    (follows : Follows P start id before e since s) (stepped : Stepped P s last s' effects)
    (spares : s.Spares last) (settled : s.Settled) (upToDate : s.UpToDate P) (owned : s.Owned)
    (held : s.active = some id)
    (ran : start.run P (before ++ e :: (since ++ [last])) = .ok (s', sent))
    (still : s'.active = some id) : Follows P start id before e (since ++ [last]) s' where
  toActiveSince := follows.toActiveSince.snoc ran still
  located shown d mirrored := by
    by_cases selects : last.Selects
    · exact stepped.locates_of_selects selects settled still mirrored
    · have same := stepped.sameShown spares selects settled upToDate owned held still
      rw [same.document? held] at mirrored
      rw [same.view, same.selection, same.highlights]
      refine follows.located (shown.imp_right ?_) d mirrored
      rintro ⟨later, mem, chosen⟩
      rcases List.mem_append.mp mem with mem | mem
      · exact ⟨later, mem, chosen⟩
      · exact absurd (List.mem_singleton.mp mem ▸ chosen) selects
  bare other quiet := by
    have selects : ¬ last.Selects :=
      quiet last (List.mem_append_right _ (List.mem_singleton_self last))
    have same := stepped.sameShown spares selects settled upToDate owned held still
    rw [same.highlights]
    exact follows.bare other fun later mem => quiet later (List.mem_append_left _ mem)

end Run

section Calm

variable {P : Parser} {compiler : Compiler} {policy : ReparsePolicy} {events : List Event}
  {s : Session} {sent : List Effect}

theorem upToDate_of_calm (calm : Calm P (new compiler policy) events)
    (ran : (new compiler policy).run P events = .ok (s, sent)) : s.UpToDate P := by
  refine run_induction (fun events s _ => Calm P (new compiler policy) events → s.UpToDate P)
    (fun _ => upToDate_new P compiler policy) ?_ ran calm
  intro events s sent e s' effects ran earlier stepped calm
  exact (step_stepped stepped).upToDate_of_spares (calm.spares ran) (earlier calm.front)

/-- As long as the active document is neither opened anew nor changed, its highlights follow the
selection as soon as the panel is shown or nodes are selected. Up to then, in a document that
became active for another reason, nothing is highlighted, whatever is selected. -/
theorem highlights_follow {id : DocumentId} (calm : Calm P (new compiler policy) events)
    (ran : (new compiler policy).run P events = .ok (s, sent)) (held : s.active = some id) :
    ∃ before e since, events = before ++ e :: since ∧
      Follows P (new compiler policy) id before e since s := by
  refine run_induction
    (fun events s _ => Calm P (new compiler policy) events → s.active = some id →
      ∃ before e since, events = before ++ e :: since ∧
        Follows P (new compiler policy) id before e since s)
    (fun _ held => by cases held) ?_ ran calm held
  intro events s sent e s' effects ran earlier ok calm still
  have stepped := step_stepped ok
  have run' := run_snoc_ok.mpr ⟨s, sent, effects, ran, ok, rfl⟩
  -- Either the document has been active for some time, or it is since this event.
  by_cases held : s.active = some id
  · obtain ⟨before, first, since, rfl, follows⟩ := earlier calm.front held
    rw [List.append_assoc, List.cons_append] at run' ⊢
    exact ⟨before, first, since ++ [e], rfl,
      follows.snoc stepped (calm.spares ran) (settled_of_run ran) (upToDate_of_calm calm.front ran)
        (owned_of_run ran) held run' still⟩
  · refine ⟨events, e, [], rfl, .now ran held run' still, ?_, ?_⟩
    · rintro (shown | ⟨_, impossible, _⟩) d mirrored
      · exact (stepped.activated held still).1 shown d mirrored
      · cases impossible
    · intro other _
      exact (stepped.activated held still).2 other

def leaving : List Event :=
  [.opened "a" "a.ts" "x", .focused (some "a"), .visibility true, .selected [[0]], .focused none,
    .focused (some "a")]

theorem calm_leaving : Calm .letters (new .typescript .incremental) leaving := by
  apply Calm.cons
  · show (new .typescript .incremental).active ≠ some "a"
    decide
  · exact fun _ _ _ => calm_of_spared (by simp [Spares])

theorem highlights_follow_leaving : ∃ s sent before e since,
    (new .typescript .incremental).run .letters leaving = .ok (s, sent) ∧ s.active = some "a" ∧
      leaving = before ++ e :: since ∧
      Follows .letters (new .typescript .incremental) "a" before e since s ∧
      s.selection = [[0]] ∧ s.highlights = [] := by
  obtain ⟨s, sent, ran, held, chosen, bare⟩ : ∃ s sent,
      (new .typescript .incremental).run .letters leaving = .ok (s, sent) ∧ s.active = some "a" ∧
        s.selection = [[0]] ∧ s.highlights = [] := ⟨_, _, rfl, rfl, rfl, rfl⟩
  obtain ⟨before, e, since, parts, follows⟩ := highlights_follow calm_leaving ran held
  exact ⟨s, sent, before, e, since, ran, held, parts, follows, chosen, bare⟩

/-- The highlights of an active document need not be those of the selection. -/
theorem highlights_lost_leaving : ¬ ∀ (events : List Event) (s : Session) (sent : List Effect)
    (id : DocumentId) (d : Document), (∀ other changes, .changed other changes ∉ events) →
      Calm .letters (new .typescript .incremental) events →
      (new .typescript .incremental).run .letters events = .ok (s, sent) →
      s.active = some id → s.document? id = some d →
      s.view.Locates d s.selection s.highlights := by
  intro followed
  have located := followed leaving _ _ "a" ⟨"a.ts", "x"⟩ (by simp [leaving]) calm_leaving rfl rfl
    (by decide +kernel)
  have nothing := List.forall₂_nil_right_iff.mp located
  exact absurd nothing (by decide +kernel)

end Calm

end SyntaxPanel.Session
