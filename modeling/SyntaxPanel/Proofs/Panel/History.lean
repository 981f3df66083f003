import SyntaxPanel.Proofs.Panel.Run

/-! What a row of events says by itself: which document was focused last and not closed since,
whether the panel was shown last, and which document is open under an id with which text.
Nothing here mentions a session until the end, where each of its inputs is matched with what the
events say. -/
namespace SyntaxPanel

/-- `e` happened, `since` is all that came after it, and none of that undoes it. -/
def Since (events : List Event) (undoes : Event → Prop) (e : Event) (since : List Event) : Prop :=
  (∃ before, events = before ++ e :: since) ∧ ∀ later ∈ since, ¬ undoes later

theorem since_nil (undoes : Event → Prop) (e : Event) (since : List Event) :
    ¬ Since [] undoes e since := by
  rintro ⟨⟨before, impossible⟩, -⟩
  exact absurd impossible.symm (by simp)

theorem since_snoc {events : List Event} {undoes : Event → Prop} {last e : Event}
    {since : List Event} : Since (events ++ [last]) undoes e since ↔
      (last = e ∧ since = []) ∨
        (¬ undoes last ∧ ∃ rest, Since events undoes e rest ∧ since = rest ++ [last]) := by
  constructor
  · rintro ⟨⟨before, parts⟩, kept⟩
    rcases List.eq_nil_or_concat since with rfl | ⟨rest, x, rfl⟩
    · exact .inl ⟨(List.append_inj' parts rfl).2 |> List.head_eq_of_cons_eq, rfl⟩
    · rw [List.concat_eq_append] at parts kept ⊢
      have split : events ++ [last] = (before ++ e :: rest) ++ [x] := by
        rw [parts, List.append_assoc, List.cons_append]
      obtain ⟨rfl, same⟩ := List.append_inj' split rfl
      obtain rfl := List.head_eq_of_cons_eq same
      refine .inr ⟨kept last (by simp), rest, ⟨⟨before, rfl⟩, ?_⟩, rfl⟩
      exact fun later mem => kept later (List.mem_append_left _ mem)
  · rintro (⟨rfl, rfl⟩ | ⟨kept, rest, ⟨⟨before, rfl⟩, all⟩, rfl⟩)
    · exact ⟨⟨events, rfl⟩, nofun⟩
    · refine ⟨⟨before, by simp⟩, ?_⟩
      intro later mem
      rcases List.mem_append.mp mem with mem | mem
      · exact all later mem
      · exact List.mem_singleton.mp mem ▸ kept

namespace Event

def SetsVisibility : Event → Prop
  | visibility _ => True
  | _ => False

def EndsFocus (id : DocumentId) : Event → Prop
  | focused _ => True
  | closed other => other = id
  | _ => False

def Replaces (id : DocumentId) : Event → Prop
  | opened other _ _ => other = id
  | closed other => other = id
  | _ => False

def changesTo (id : DocumentId) : Event → List ContentChange
  | changed other changes => if other = id then changes else []
  | _ => []

end Event

def ShownLast (events : List Event) : Prop :=
  ∃ since, Since events Event.SetsVisibility (.visibility true) since

/-- The last focus went to a document, and it was not closed since. -/
def FocusedLast (events : List Event) (id : DocumentId) : Prop :=
  ∃ since, Since events (Event.EndsFocus id) (.focused (some id)) since

/-- A document was opened last under an id and not closed since, and all changes made to it since
then, in their order, lead to `d`. -/
def OpenAs (events : List Event) (id : DocumentId) (d : Document) : Prop :=
  ∃ path text since edits, Since events (Event.Replaces id) (.opened id path text) since ∧
    Document.applyChanges ⟨path, text⟩ (since.flatMap (Event.changesTo id)) = .ok (d, edits)

theorem exists_since_snoc {events : List Event} {undoes : Event → Prop} {last e : Event} :
    (∃ since, Since (events ++ [last]) undoes e since) ↔
      last = e ∨ (¬ undoes last ∧ ∃ since, Since events undoes e since) := by
  simp only [since_snoc]
  constructor
  · rintro ⟨_, ⟨same, -⟩ | ⟨kept, rest, held, -⟩⟩
    · exact .inl same
    · exact .inr ⟨kept, rest, held⟩
  · rintro (same | ⟨kept, rest, held⟩)
    · exact ⟨[], .inl ⟨same, rfl⟩⟩
    · exact ⟨rest ++ [last], .inr ⟨kept, rest, held, rfl⟩⟩

theorem openAs_snoc {events : List Event} {last : Event} {id : DocumentId} {d : Document} :
    OpenAs (events ++ [last]) id d ↔
      last = .opened id d.path d.text ∨
        (¬ last.Replaces id ∧ ∃ d' edits, OpenAs events id d' ∧
          d'.applyChanges (last.changesTo id) = .ok (d, edits)) := by
  constructor
  · rintro ⟨path, text, since, edits, held, applied⟩
    rcases since_snoc.mp held with ⟨rfl, rfl⟩ | ⟨kept, rest, earlier, rfl⟩
    · cases applied
      exact .inl rfl
    · rw [List.flatMap_append, Document.applyChanges_append, bind_eq_ok] at applied
      obtain ⟨⟨d', front⟩, first, second⟩ := applied
      rw [List.flatMap_singleton, bind_eq_ok] at second
      obtain ⟨⟨d'', back⟩, second, result⟩ := second
      cases result
      exact .inr ⟨kept, d', back, ⟨path, text, rest, front, earlier, first⟩, second⟩
  · rintro (rfl | ⟨kept, d', back, ⟨path, text, rest, front, held, first⟩, second⟩)
    · exact ⟨d.path, d.text, [], [], since_snoc.mpr (.inl ⟨rfl, rfl⟩), rfl⟩
    · refine ⟨path, text, rest ++ [last], front ++ back,
        since_snoc.mpr (.inr ⟨kept, rest, held, rfl⟩), ?_⟩
      simp only [List.flatMap_append, List.flatMap_singleton, Document.applyChanges_append, first,
        second, bind, Except.bind, pure, Except.pure]

namespace Session

/-- What the host tells with an event, before the session does anything about it. -/
inductive Told (s : Session) : Event → Session → Prop where
  | opened {id : DocumentId} {path text : String} :
      Told s (.opened id path text) { s with documents := s.documents.put id ⟨path, text⟩ }
  | closed {id : DocumentId} :
      Told s (.closed id)
        { s with documents := s.documents.erase id,
                 focused := if s.focused = some id then none else s.focused }
  | changed {id : DocumentId} {changes : List ContentChange} {d d' : Document}
      {edits : List (Option Edit)} (mirrored : s.document? id = some d)
      (applied : d.applyChanges changes = .ok (d', edits)) :
      Told s (.changed id changes) { s with documents := s.documents.put id d' }
  | changedUnknown {id : DocumentId} {changes : List ContentChange}
      (unknown : s.document? id = none) : Told s (.changed id changes) s
  | focused {id : Option DocumentId} : Told s (.focused id) { s with focused := id }
  | visibility {visible : Bool} : Told s (.visibility visible) { s with visible }
  | selected {nodes : List NodePath} : Told s (.selected nodes) s

theorem Stepped.told {P : Parser} {s s' : Session} {e : Event} {effects : List Effect}
    (stepped : Stepped P s e s' effects) : ∃ t, Told s e t ∧ SameInputs t s' := by
  cases stepped with
  | openedElsewhere => exact ⟨_, .opened, .refl _⟩
  | opened here synced => exact ⟨_, .opened, synced.sameInputs⟩
  | closedElsewhere => exact ⟨_, .closed, .refl _⟩
  | closed held synced => exact ⟨_, .closed, synced.sameInputs⟩
  | changedUnknown unknown => exact ⟨_, .changedUnknown unknown, .refl _⟩
  | changedText mirrored applied untouched => exact ⟨_, .changed mirrored applied, .refl _⟩
  | changedTree mirrored applied held some_change =>
    exact ⟨_, .changed mirrored applied, ⟨rfl, rfl, rfl, rfl, TreeView.compiler_update _ _ _ _ _⟩⟩
  | focused synced => exact ⟨_, .focused, synced.sameInputs⟩
  | visibilitySame same => exact ⟨_, .visibility, ⟨rfl, rfl, same, rfl, rfl⟩⟩
  | hidden visible synced => exact ⟨_, .visibility, synced.sameInputs⟩
  | shown hidden synced revealed =>
    exact ⟨_, .visibility, synced.sameInputs.trans revealed.sameInputs⟩
  | selectedHidden => exact ⟨_, .selected, .highlighter s _⟩
  | selected visible revealed =>
    exact ⟨_, .selected, (SameInputs.highlighter s _).trans revealed.sameInputs⟩

theorem Told.visible_iff {s t : Session} {e : Event} (told : Told s e t) :
    t.visible = true ↔ e = .visibility true ∨ (¬ e.SetsVisibility ∧ s.visible = true) := by
  cases told with
  | visibility => simp [Event.SetsVisibility]
  | _ => simp [Event.SetsVisibility]

theorem Told.focused_iff {s t : Session} {e : Event} (told : Told s e t) (id : DocumentId) :
    t.focused = some id ↔ e = .focused (some id) ∨ (¬ e.EndsFocus id ∧ s.focused = some id) := by
  cases told with
  | @closed other =>
    by_cases same : s.focused = some other
    · simp only [same, if_true, Event.EndsFocus, Option.some.injEq, reduceCtorEq, false_or]
      exact ⟨nofun, fun ⟨differ, eq⟩ => absurd eq differ⟩
    · simp only [if_neg same, Event.EndsFocus, reduceCtorEq, false_or, iff_and_self]
      exact fun held eq => same (eq ▸ held)
  | focused => simp [Event.EndsFocus]
  | _ => simp [Event.EndsFocus]

theorem document?_put (s : Session) (id other : DocumentId) (d : Document) :
    Session.document? { s with documents := s.documents.put id d } other =
      if other = id then some d else s.document? other := Store.find?_put s.documents id other d

theorem document?_erase (s : Session) (focused : Option DocumentId) (id other : DocumentId) :
    Session.document? { s with documents := s.documents.erase id, focused } other =
      if other = id then none else s.document? other := Store.find?_erase s.documents id other

theorem document?_iff_of_untold {s t : Session} {e : Event} {id : DocumentId} {d : Document}
    (kept : ¬ e.Replaces id) (quiet : e.changesTo id = [])
    (same : t.document? id = s.document? id) :
    t.document? id = some d ↔ e = .opened id d.path d.text ∨
      (¬ e.Replaces id ∧ ∃ d' edits, s.document? id = some d' ∧
        d'.applyChanges (e.changesTo id) = .ok (d, edits)) := by
  rw [same, quiet]
  constructor
  · exact fun mirrored => .inr ⟨kept, d, [], mirrored, rfl⟩
  · rintro (rfl | ⟨-, d', _, mirrored, nothing⟩)
    · exact absurd rfl kept
    · cases nothing
      exact mirrored

theorem Told.document?_iff {s t : Session} {e : Event} (told : Told s e t) (id : DocumentId)
    (d : Document) : t.document? id = some d ↔ e = .opened id d.path d.text ∨
      (¬ e.Replaces id ∧ ∃ d' edits, s.document? id = some d' ∧
        d'.applyChanges (e.changesTo id) = .ok (d, edits)) := by
  cases told with
  | @opened other path text =>
    by_cases same : id = other
    · subst same
      obtain ⟨p, t⟩ := d
      simp [document?_put, Event.Replaces]
    · exact document?_iff_of_untold (Ne.symm same) rfl (by rw [document?_put, if_neg same])
  | @closed other =>
    by_cases same : id = other
    · subst same
      simp [document?_erase, Event.Replaces]
    · exact document?_iff_of_untold (Ne.symm same) rfl (by rw [document?_erase, if_neg same])
  | @changed other changes d₀ d₁ edits mirrored applied =>
    by_cases same : id = other
    · subst same
      simp [document?_put, Event.Replaces, Event.changesTo, mirrored, applied]
    · exact document?_iff_of_untold nofun (by simp [Event.changesTo, Ne.symm same])
        (by rw [document?_put, if_neg same])
  | @changedUnknown other changes unknown =>
    by_cases same : id = other
    · subst same
      simp [unknown]
    · exact document?_iff_of_untold nofun (by simp [Event.changesTo, Ne.symm same]) rfl
  | focused => exact document?_iff_of_untold nofun rfl rfl
  | visibility => exact document?_iff_of_untold nofun rfl rfl
  | selected => exact document?_iff_of_untold nofun rfl rfl

structure Heard (events : List Event) (s : Session) : Prop where
  visible : s.visible = true ↔ ShownLast events
  focused : ∀ id, s.focused = some id ↔ FocusedLast events id
  document? : ∀ id d, s.document? id = some d ↔ OpenAs events id d

theorem heard_new (compiler : Compiler) (policy : ReparsePolicy) :
    Heard [] (Session.new compiler policy) where
  visible := ⟨nofun, fun ⟨_, shown⟩ => absurd shown (since_nil _ _ _)⟩
  focused _ := ⟨nofun, fun ⟨_, focused⟩ => absurd focused (since_nil _ _ _)⟩
  document? _ _ := ⟨nofun, fun ⟨_, _, _, _, opened, _⟩ => absurd opened (since_nil _ _ _)⟩

theorem Heard.step {P : Parser} {events : List Event} {s s' : Session} {e : Event}
    {effects : List Effect} (heard : Heard events s) (stepped : Stepped P s e s' effects) :
    Heard (events ++ [e]) s' := by
  obtain ⟨t, told, same⟩ := stepped.told
  constructor
  · rw [same.visible, told.visible_iff, ShownLast, exists_since_snoc, heard.visible, ShownLast]
  · intro id
    rw [same.focused, told.focused_iff, FocusedLast, exists_since_snoc, heard.focused, FocusedLast]
  · intro id d
    rw [same.document?, told.document?_iff, openAs_snoc]
    simp only [heard.document?]

theorem heard_run {P : Parser} {compiler : Compiler} {policy : ReparsePolicy}
    {events : List Event} {s : Session} {effects : List Effect}
    (ran : (Session.new compiler policy).run P events = .ok (s, effects)) : Heard events s :=
  run_invariant (fun events s _ => Heard events s) (heard_new compiler policy)
    (fun _ _ _ _ _ _ heard stepped => heard.step stepped) ran

end Session

end SyntaxPanel
