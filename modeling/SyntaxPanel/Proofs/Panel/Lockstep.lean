import SyntaxPanel.Proofs.Panel.Coherence

/-! Two sessions side by side. They may differ in their policies and in documents that no event
names; one event then has the same effects on both, and leaves them as much alike as before. A
breakdown is an outcome like any other here: it has to be the same one. -/
namespace SyntaxPanel

structure Observation where
  active : Option DocumentId
  visible : Bool
  selection : List NodePath
  highlights : List Range
  document? : DocumentId → Option Document
  children : Option NodePath → List NodePath
  describe : NodePath → Option TreeItem
  dump : String → String

namespace Session

def observe (s : Session) : Observation where
  active := s.active
  visible := s.visible
  selection := s.selection
  highlights := s.highlights
  document? := s.document?
  children := s.children
  describe := s.describe
  dump := s.view.dump

/-- What is seen of each event in turn: its effects, and what can be asked after it. A breakdown is
the last thing that is seen. -/
def watch (P : Parser) (s : Session) : List Event → List (Except Fault (List Effect × Observation))
  | [] => []
  | e :: rest =>
    match s.step P e with
    | .error fault => [.error fault]
    | .ok (s', effects) => .ok (effects, s'.observe) :: s'.watch P rest

end Session

def Event.document? : Event → Option DocumentId
  | opened id _ _ => some id
  | closed id => some id
  | changed id _ => some id
  | focused id => id
  | visibility _ => none
  | selected _ => none

namespace Session

structure Alike (unseen : DocumentId → Prop) (s t : Session) : Prop where
  view : s.view = t.view
  highlighter : s.highlighter = t.highlighter
  focused : s.focused = t.focused
  active : s.active = t.active
  visible : s.visible = t.visible
  document? : ∀ id, ¬ unseen id → s.document? id = t.document? id
  focused_seen : ∀ id, s.focused = some id → ¬ unseen id
  active_seen : ∀ id, s.active = some id → ¬ unseen id

/-- Both break down alike, or both lead to related sessions with the same effects. -/
inductive SameOutcome (related : Session → Session → Prop) : Outcome → Outcome → Prop where
  | fault (f : Fault) : SameOutcome related (.error f) (.error f)
  | ok {s t : Session} (effects : List Effect) :
      related s t → SameOutcome related (.ok (s, effects)) (.ok (t, effects))

theorem SameOutcome.of_ok {related : Session → Session → Prop} {r r' : Session × List Effect}
    (same : SameOutcome related (.ok r) (.ok r')) : related r.1 r'.1 ∧ r.2 = r'.2 := by
  cases same with
  | ok effects alike => exact ⟨alike, rfl⟩

theorem SameOutcome.mono {related weaker : Session → Session → Prop} {o o' : Outcome}
    (same : SameOutcome related o o') (implied : ∀ s t, related s t → weaker s t) :
    SameOutcome weaker o o' := by
  cases same with
  | fault f => exact .fault f
  | ok effects held => exact .ok effects (implied _ _ held)

theorem SameOutcome.bind {related : Session → Session → Prop} {o o' : Outcome}
    {f g : Session × List Effect → Outcome} (same : SameOutcome related o o')
    (next : ∀ s t effects, related s t → SameOutcome related (f (s, effects)) (g (t, effects))) :
    SameOutcome related (o >>= f) (o' >>= g) := by
  cases same with
  | fault fault => exact .fault fault
  | ok effects alike => exact next _ _ effects alike

variable {P : Parser} {unseen : DocumentId → Prop} {s t : Session}

theorem Alike.target? (alike : Alike unseen s t) : s.target? = t.target? := by
  unfold Session.target?
  rw [← alike.focused, ← alike.visible]
  cases focused : s.focused with
  | none => rfl
  | some id => simp only [alike.document? id (alike.focused_seen id focused)]

theorem Alike.activeDocument? (alike : Alike unseen s t) :
    s.activeDocument? = t.activeDocument? := by
  rw [Session.activeDocument?, Session.activeDocument?, ← alike.active]
  cases held : s.active with
  | none => rfl
  | some id => exact alike.document? id (alike.active_seen id held)

theorem Alike.activate (alike : Alike unseen s t) {id : DocumentId} (seen : ¬ unseen id)
    (d : Document) :
    SameOutcome (Alike unseen) (.ok (s.activate P id d)) (.ok (t.activate P id d)) := by
  have parsed : s.view.parse P d.text d.path = t.view.parse P d.text d.path := by rw [alike.view]
  have active_seen : ∀ other, some id = some other → ¬ unseen other := by
    rintro _ ⟨⟩
    exact seen
  by_cases held : s.active = some id
  · have held' : t.active = some id := alike.active ▸ held
    simp only [Session.activate, if_pos held, if_pos held']
    exact .ok _ { alike with
      view := parsed, active := rfl, active_seen
      highlighter := by rw [alike.highlighter] }
  · have other : t.active ≠ some id := alike.active ▸ held
    simp only [Session.activate, if_neg held, if_neg other, hideHighlights_eq, clearing,
      alike.highlighter]
    exact .ok _ { alike with view := parsed, active := rfl, active_seen, highlighter := rfl }

theorem Alike.deactivate (alike : Alike unseen s t) :
    SameOutcome (Alike unseen) (.ok s.deactivate) (.ok t.deactivate) := by
  have none_seen : ∀ id, (none : Option DocumentId) = some id → ¬ unseen id := nofun
  simp only [Session.deactivate, hideHighlights_eq, clearing, alike.highlighter, ← alike.active]
  cases s.active with
  | none => exact .ok _ { alike with highlighter := rfl, active := rfl, active_seen := none_seen }
  | some id =>
    exact .ok _ { alike with
      highlighter := rfl, view := by rw [alike.view], active := rfl, active_seen := none_seen }

theorem Alike.sync (alike : Alike unseen s t) :
    SameOutcome (Alike unseen) (.ok (s.sync P)) (.ok (t.sync P)) := by
  have same := alike.target?
  unfold Session.sync
  rw [← same]
  split
  · rename_i id d wanted
    exact alike.activate (alike.focused_seen id (target?_eq_some_iff.mp wanted).1) d
  · exact alike.deactivate

theorem Alike.showHighlights (alike : Alike unseen s t) :
    SameOutcome (Alike unseen) s.showHighlights t.showHighlights := by
  have same := alike.activeDocument?
  unfold Session.showHighlights
  rw [← same, ← alike.active]
  cases held : s.active with
  | none => exact .ok [] alike
  | some id =>
    cases s.activeDocument? with
    | none => exact .ok [] alike
    | some d =>
      simp only [Highlighter.reveal, alike.highlighter, ← alike.view]
      cases Highlighter.rangesOf d (t.highlighter.selection.filterMap s.view.span?) with
      | error fault => exact .fault fault
      | ok ranges =>
        exact .ok _ { alike with
          view := rfl, highlighter := rfl, active := rfl
          active_seen := fun other same => alike.active_seen other (held.trans same) }

theorem Alike.put (alike : Alike unseen s t) (id : DocumentId) (d : Document) :
    Alike unseen { s with documents := s.documents.put id d }
      { t with documents := t.documents.put id d } :=
  { alike with
    document? := by
      intro other seen
      rw [document?_put, document?_put, alike.document? other seen] }

theorem Alike.opened (alike : Alike unseen s t) (id : DocumentId) (path text : String) :
    SameOutcome (Alike unseen) (.ok (s.opened P id path text)) (.ok (t.opened P id path text)) := by
  have put := alike.put id ⟨path, text⟩
  by_cases here : s.active = some id ∨ s.focused = some id
  · have here' : t.active = some id ∨ t.focused = some id := by
      rwa [← alike.active, ← alike.focused]
    simp only [Session.opened, if_pos here, if_pos here']
    exact put.sync
  · have elsewhere : ¬ (t.active = some id ∨ t.focused = some id) := by
      rwa [← alike.active, ← alike.focused]
    simp only [Session.opened, if_neg here, if_neg elsewhere]
    exact .ok [] put

theorem Alike.closed (alike : Alike unseen s t) (id : DocumentId) :
    SameOutcome (Alike unseen) (.ok (s.closed P id)) (.ok (t.closed P id)) := by
  have erased : Alike unseen
      { s with documents := s.documents.erase id,
               focused := if s.focused = some id then none else s.focused }
      { t with documents := t.documents.erase id,
               focused := if t.focused = some id then none else t.focused } :=
    { alike with
      focused := by rw [alike.focused]
      document? := by
        intro other seen
        rw [document?_erase, document?_erase, alike.document? other seen]
      focused_seen := by
        intro other
        split
        · nofun
        · exact alike.focused_seen other }
  by_cases held : s.active = some id
  · have held' : t.active = some id := alike.active ▸ held
    simp only [Session.closed, if_pos held, if_pos held']
    exact erased.sync
  · have idle : t.active ≠ some id := alike.active ▸ held
    simp only [Session.closed, if_neg held, if_neg idle]
    exact .ok [] erased

def SameUpdate (P : Parser) (s t : Session) (changes : List ContentChange) : Prop :=
  ∀ id d d' edits, s.active = some id → s.document? id = some d → changes ≠ [] →
    d.applyChanges changes = .ok (d', edits) →
      (s.view.update P s.policy d' edits).1 = (t.view.update P t.policy d' edits).1

theorem Alike.sameUpdate_of_policy (alike : Alike unseen s t) (same : s.policy = t.policy)
    (changes : List ContentChange) : SameUpdate P s t changes := by
  intro id d d' edits held mirrored some_change applied
  rw [alike.view, same]

theorem Alike.sameUpdate (agrees : P.ReparseAgrees) (upToDate : s.UpToDate P)
    (alike : Alike unseen s t) (changes : List ContentChange) : SameUpdate P s t changes := by
  intro id d d' edits held mirrored some_change applied
  have loaded := upToDate.loaded held mirrored
  have loaded' : t.view.tree = some (d.tree P t.view.compiler) := alike.view ▸ loaded
  rw [TreeView.update_eq_parse agrees s.policy loaded applied some_change,
    TreeView.update_eq_parse agrees t.policy loaded' applied some_change, alike.view]

theorem Alike.changed (alike : Alike unseen s t) {id : DocumentId} (seen : ¬ unseen id)
    {changes : List ContentChange} (update : SameUpdate P s t changes) :
    SameOutcome (Alike unseen) (s.changed P id changes) (t.changed P id changes) := by
  have same := alike.document? id seen
  cases mirrored : s.document? id with
  | none =>
    rw [changed_unknown P changes mirrored, changed_unknown P changes (same ▸ mirrored)]
    exact .ok [] alike
  | some d =>
    obtain ⟨d', edits, applied, -⟩ := d.applyChanges_ok changes
    have mirrored' : t.document? id = some d := same ▸ mirrored
    by_cases untouched : s.active = some id → changes = []
    · rw [changed_text P mirrored applied untouched,
        changed_text P mirrored' applied (alike.active ▸ untouched)]
      exact .ok [] (alike.put id d')
    · obtain ⟨held, some_change⟩ := Classical.not_imp.mp untouched
      have held' : t.active = some id := alike.active ▸ held
      rw [changed_tree P mirrored applied held some_change,
        changed_tree P mirrored' applied held' some_change]
      exact .ok _ { alike.put id d' with
        view := update id d d' edits held mirrored some_change applied }

theorem Alike.setVisible (alike : Alike unseen s t) (visible : Bool) :
    SameOutcome (Alike unseen) (s.setVisible P visible) (t.setVisible P visible) := by
  have switched : Alike unseen { s with visible } { t with visible } :=
    { alike with visible := rfl }
  by_cases same : s.visible = visible
  · have same' : t.visible = visible := alike.visible ▸ same
    simp only [Session.setVisible, if_pos same, if_pos same']
    exact .ok [] alike
  · have differ : t.visible ≠ visible := alike.visible ▸ same
    simp only [Session.setVisible, if_neg same, if_neg differ]
    obtain ⟨synced, effects⟩ := (switched.sync (P := P)).of_ok
    rw [effects]
    cases visible with
    | false => exact .ok _ synced
    | true => exact synced.showHighlights.bind fun _ _ _ shown => .ok _ shown

theorem Alike.select (alike : Alike unseen s t) (nodes : List NodePath) :
    SameOutcome (Alike unseen) (s.select nodes) (t.select nodes) := by
  have selected : Alike unseen
      { s with highlighter := s.highlighter.select (s.active.or s.focused) nodes }
      { t with highlighter := t.highlighter.select (t.active.or t.focused) nodes } :=
    { alike with highlighter := by rw [alike.highlighter, alike.active, alike.focused] }
  by_cases visible : s.visible = true
  · have visible' : t.visible = true := alike.visible ▸ visible
    simp only [Session.select, if_pos visible, if_pos visible']
    exact selected.showHighlights
  · have hidden : ¬ t.visible = true := alike.visible ▸ visible
    simp only [Session.select, if_neg visible, if_neg hidden]
    exact .ok [] selected

theorem Alike.focusedOn (alike : Alike unseen s t) {id : Option DocumentId}
    (seen : ∀ other, id = some other → ¬ unseen other) :
    SameOutcome (Alike unseen) (.ok (s.focusedOn P id)) (.ok (t.focusedOn P id)) := by
  have focused : Alike unseen { s with focused := id } { t with focused := id } :=
    { alike with focused := rfl, focused_seen := seen }
  exact focused.sync

theorem Alike.step (alike : Alike unseen s t) {e : Event}
    (seen : ∀ id, e.document? = some id → ¬ unseen id)
    (update : ∀ changes, SameUpdate P s t changes) :
    SameOutcome (Alike unseen) (s.step P e) (t.step P e) := by
  cases e with
  | opened id path text => exact alike.opened id path text
  | closed id => exact alike.closed id
  | changed id changes => exact alike.changed (seen id rfl) (update changes)
  | focused id => exact alike.focusedOn seen
  | visibility visible => exact alike.setVisible visible
  | selected nodes => exact alike.select nodes

theorem Alike.observe_documents (alike : Alike unseen s t) :
    s.observe = { t.observe with document? := s.document? } := by
  have described : s.describe = t.describe := by
    funext path
    rw [describe, describe, alike.activeDocument?, alike.view]
  have children : s.children = t.children := by
    funext path
    rw [Session.children, Session.children, alike.view]
  simp only [Session.observe, selection, highlights, alike.active, alike.visible, alike.highlighter,
    alike.view, described, children]

theorem Alike.observe (alike : Alike (fun _ => False) s t) : s.observe = t.observe := by
  have document : s.document? = t.document? := funext fun id => alike.document? id not_false
  rw [alike.observe_documents, document]
  rfl

theorem Alike.watch (agrees : P.ReparseAgrees) (upToDate : s.UpToDate P)
    (alike : Alike (fun _ => False) s t) (events : List Event) :
    s.watch P events = t.watch P events := by
  induction events generalizing s t with
  | nil => rfl
  | cons e rest ih =>
    have same := alike.step (e := e) (fun _ _ => not_false) (alike.sameUpdate agrees upToDate)
    unfold Session.watch
    generalize left : s.step P e = o at same
    generalize t.step P e = o' at same
    cases same with
    | fault f => rfl
    | ok effects alike =>
      have next := ih ((step_stepped left).upToDate agrees upToDate) alike
      simp only [alike.observe, next]

/-- The reparse policy cannot be seen in any run. -/
theorem watch_policy (agrees : P.ReparseAgrees) (compiler : Compiler) (events : List Event) :
    (new compiler .incremental).watch P events = (new compiler .full).watch P events := by
  have alike : Alike (fun _ => False) (new compiler .incremental) (new compiler .full) :=
    { view := rfl, highlighter := rfl, focused := rfl, active := rfl, visible := rfl
      document? := fun _ _ => rfl, focused_seen := fun _ _ => not_false
      active_seen := fun _ _ => not_false }
  exact alike.watch agrees (upToDate_new P compiler .incremental) events

theorem watch_policy_reopening : Parser.letters.ReparseAgrees ∧
    ((new .typescript .incremental).run .letters reopening).isOk = true ∧
    (new .typescript .incremental).watch .letters reopening =
      (new .typescript .full).watch .letters reopening :=
  ⟨Parser.letters_reparseAgrees, rfl, watch_policy Parser.letters_reparseAgrees .typescript _⟩

end Session

end SyntaxPanel
