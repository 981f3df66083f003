import SyntaxPanel.Proofs.Panel.Lockstep

/-! Events for documents that are not open. A batch of changes is dropped. So is a close, unless
its document has the focus: an editor may be focused before its document is opened, and a close
then takes the focus away, which is only seen once the document is opened after all. -/
namespace SyntaxPanel

theorem Store.erase_unknown {s : Store} {id : DocumentId} (unknown : s.find? id = none) :
    s.erase id = s := by
  have kept : s.entries.filter (fun entry => entry.1 != id) = s.entries := by
    rw [List.filter_eq_self]
    intro entry mem
    have differ := List.lookup_eq_none_iff.mp unknown entry mem
    simpa [bne_comm] using differ
  exact congrArg Store.mk kept

namespace Session

/-- An event without effects, of which nothing is seen at once and nothing in any run after it. -/
def Drops (P : Parser) (s : Session) (e : Event) : Prop :=
  ∃ s', s.step P e = .ok (s', []) ∧ s'.observe = s.observe ∧
    ∀ later, s'.watch P later = s.watch P later

section Step

variable {P : Parser} {s : Session} {e : Event} {id : DocumentId}

theorem Drops.of_same (same : s.step P e = .ok (s, [])) : s.Drops P e :=
  ⟨s, same, rfl, fun _ => rfl⟩

theorem idle_of_unknown (settled : s.Settled) (unknown : s.document? id = none) :
    s.active ≠ some id := by
  intro held
  have opened := ((settled id).mp held).2.2
  rw [unknown] at opened
  cases opened

theorem closed_unknown (P : Parser) (settled : s.Settled) (unknown : s.document? id = none) :
    s.step P (.closed id) =
      .ok ({ s with focused := if s.focused = some id then none else s.focused }, []) := by
  have idle := idle_of_unknown settled unknown
  have same := Store.erase_unknown unknown
  simp only [step, Session.closed, if_neg idle, same]

theorem shown_of_unwanted (P : Parser)
    (unwanted : Session.target? { s with visible := true } = none) :
    ∃ s' effects, s.step P (.visibility true) = .ok (s', effects) := by
  by_cases same : s.visible = true
  · exact ⟨s, [], if_pos same⟩
  · rcases result : sync P { s with visible := true } with ⟨middle, effects⟩
    have idle : middle.active = none := by
      cases synced_of_sync result with
      | stays wanted _ => cases unwanted.symm.trans wanted
      | moves wanted _ => cases unwanted.symm.trans wanted
      | leaves _ _ => rfl
      | rests _ idle => exact idle
    refine ⟨middle, effects, ?_⟩
    simp only [step, setVisible, if_neg same, result, if_true, showHighlights, idle, bind,
      Except.bind, pure, Except.pure, List.append_nil]

theorem watch_shown_opened (P : Parser) (settled : s.Settled)
    (unwanted : Session.target? { s with visible := true } = none) (id : DocumentId)
    (path text : String) :
    ∃ (first : Except Fault (List Effect × Observation)) (effects : List Effect) (t : Session),
      s.watch P [.visibility true, .opened id path text] = [first, .ok (effects, t.observe)] ∧
      (t.active = some id ↔ s.focused = some id) := by
  obtain ⟨middle, sent, shown⟩ := shown_of_unwanted P unwanted
  rcases result : middle.opened P id path text with ⟨t, effects⟩
  have opened : middle.step P (.opened id path text) = .ok (t, effects) := congrArg Except.ok result
  refine ⟨.ok (sent, middle.observe), effects, t, ?_, ?_⟩
  · simp only [watch, shown, opened]
  · have settled' := ((step_stepped opened).settled ((step_stepped shown).settled settled)) id
    obtain ⟨_, ⟨⟩, told⟩ := (step_stepped shown).told
    obtain ⟨_, ⟨⟩, told'⟩ := (step_stepped opened).told
    rw [settled', told'.focused, told'.visible, told'.document?, document?_put, if_pos rfl]
    show middle.focused = some id ∧ middle.visible = true ∧ _ ↔ _
    rw [told.focused, told.visible]
    simp only [Option.isSome_some, and_self, and_true]

theorem drops_closed_iff (settled : s.Settled) (unknown : s.document? id = none) :
    s.Drops P (.closed id) ↔ s.focused ≠ some id := by
  have closed := closed_unknown P settled unknown
  constructor
  · rintro ⟨s', dropped, -, later⟩ focused
    rw [if_pos focused] at closed
    cases closed.symm.trans dropped
    -- The document is opened after all, in a panel that is visible.
    have unwanted : Session.target? { s with visible := true } = none := by
      rw [Option.eq_none_iff_forall_ne_some]
      rintro ⟨other, d⟩ wanted
      obtain ⟨focused', -, mirrored⟩ := target?_eq_some_iff.mp wanted
      cases focused.symm.trans focused'
      cases unknown.symm.trans mirrored
    have settled' := (step_stepped dropped).settled settled
    obtain ⟨_, _, t, seen, active⟩ := watch_shown_opened P settled unwanted id "" ""
    obtain ⟨_, _, t', seen', active'⟩ := watch_shown_opened P settled' rfl id "" ""
    have same := (seen'.symm.trans (later _)).trans seen
    simp only [List.cons.injEq, Except.ok.injEq, Prod.mk.injEq, and_true] at same
    have same : t'.active = t.active := congrArg Observation.active same.2.2
    have impossible := active'.mp (same.trans (active.mpr focused))
    cases impossible
  · intro unfocused
    rw [if_neg unfocused] at closed
    exact .of_same closed

end Step

section Run

variable {P : Parser} {compiler : Compiler} {policy : ReparsePolicy} {events : List Event}
  {s : Session} {sent : List Effect} {id : DocumentId}

/-- For a document that is not open, a batch of changes is dropped, and so is a close unless the
document has the focus. A close has no effects even then, but it leaves no document focused. -/
theorem unknown_dropped (ran : (new compiler policy).run P events = .ok (s, sent))
    (unknown : s.document? id = none) :
    (∀ changes, s.Drops P (.changed id changes)) ∧
    (s.Drops P (.closed id) ↔ s.focused ≠ some id) ∧
    (s.focused = some id → s.step P (.closed id) = .ok ({ s with focused := none }, [])) := by
  have settled := settled_of_run ran
  refine ⟨?_, drops_closed_iff settled unknown, ?_⟩
  · exact fun changes => .of_same (changed_unknown P changes unknown)
  · intro focused
    rw [closed_unknown P settled unknown, if_pos focused]

def focusingFirst : List Event := [.visibility true, .focused (some "a")]

theorem unknown_dropped_focusingFirst : ∃ s sent,
    (new .typescript .incremental).run .letters focusingFirst = .ok (s, sent) ∧
      s.document? "a" = none ∧ s.Drops .letters (.changed "a" [⟨none, "x"⟩]) ∧
      s.Drops .letters (.closed "b") ∧ ¬ s.Drops .letters (.closed "a") := by
  obtain ⟨s, sent, ran, unknown, unknown', focused⟩ : ∃ s sent,
      (new .typescript .incremental).run .letters focusingFirst = .ok (s, sent) ∧
        s.document? "a" = none ∧ s.document? "b" = none ∧ s.focused = some "a" :=
    ⟨_, _, rfl, rfl, rfl, rfl⟩
  obtain ⟨changed, closed, -⟩ := unknown_dropped ran unknown
  obtain ⟨-, elsewhere, -⟩ := unknown_dropped ran unknown'
  refine ⟨s, sent, ran, unknown, changed _, elsewhere.mpr ?_, fun drops => closed.mp drops focused⟩
  rw [focused]
  decide

theorem closed_unknown_seen : ¬ ∀ (events : List Event) (s : Session) (sent : List Effect)
    (id : DocumentId), (new .typescript .incremental).run .letters events = .ok (s, sent) →
      s.document? id = none → s.Drops .letters (.closed id) := by
  intro dropped
  obtain ⟨s, sent, ran, unknown, focused⟩ : ∃ s sent,
      (new .typescript .incremental).run .letters focusingFirst = .ok (s, sent) ∧
        s.document? "a" = none ∧ s.focused = some "a" := ⟨_, _, rfl, rfl, rfl⟩
  have drops := dropped focusingFirst s sent "a" ran unknown
  exact (drops_closed_iff (settled_of_run ran) unknown).mp drops focused

end Run

end Session

end SyntaxPanel
