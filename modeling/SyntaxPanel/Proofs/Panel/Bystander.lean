import SyntaxPanel.Proofs.Panel.Lockstep

namespace SyntaxPanel

namespace Event

def Concerns (id : DocumentId) : Event → Prop
  | opened other _ _ => other = id
  | closed other => other = id
  | changed other _ => other = id
  | _ => False

instance (id : DocumentId) : DecidablePred (Concerns id)
  | opened other _ _ => inferInstanceAs (Decidable (other = id))
  | closed other => inferInstanceAs (Decidable (other = id))
  | changed other _ => inferInstanceAs (Decidable (other = id))
  | focused _ => isFalse not_false
  | visibility _ => isFalse not_false
  | selected _ => isFalse not_false

theorem document?_ne_of_elsewhere {id : DocumentId} {e : Event} (elsewhere : ¬ e.Concerns id)
    (never : e ≠ .focused (some id)) : e.document? ≠ some id := by
  cases e with
  | opened other path text => simpa [document?, Concerns] using elsewhere
  | closed other => simpa [document?, Concerns] using elsewhere
  | changed other changes => simpa [document?, Concerns] using elsewhere
  | focused other => simpa [document?] using never
  | visibility visible => nofun
  | selected nodes => nofun

end Event

def Observation.apart (o : Observation) (id : DocumentId) : Observation :=
  { o with document? := fun other => if other = id then none else o.document? other }

def withoutDocument (id : DocumentId) (events : List Event) : List Event :=
  events.filter fun e => ¬ e.Concerns id

theorem withoutDocument_cons_concerned {id : DocumentId} {e : Event} {rest : List Event}
    (concerned : e.Concerns id) : withoutDocument id (e :: rest) = withoutDocument id rest :=
  List.filter_cons_of_neg (by simpa using concerned)

theorem withoutDocument_cons_elsewhere {id : DocumentId} {e : Event} {rest : List Event}
    (elsewhere : ¬ e.Concerns id) :
    withoutDocument id (e :: rest) = e :: withoutDocument id rest :=
  List.filter_cons_of_pos (by simpa using elsewhere)

namespace Session

/-- Two sessions that differ in one document only, and that document is neither focused nor
active. -/
structure Apart (id : DocumentId) (s t : Session) : Prop where
  alike : Alike (· = id) s t
  policy : s.policy = t.policy

variable {P : Parser} {id : DocumentId} {s t : Session}

theorem Apart.observe (apart : Apart id s t) : s.observe.apart id = t.observe.apart id := by
  have documents : ∀ other, (if other = id then none else s.document? other) =
      if other = id then none else t.document? other := by
    intro other
    split
    · rfl
    · rename_i differ
      exact apart.alike.document? other differ
  rw [apart.alike.observe_documents]
  simp only [Observation.apart, documents]
  rfl

theorem Apart.put (apart : Apart id s t) (d : Document) :
    Apart id { s with documents := s.documents.put id d } t := by
  refine ⟨{ apart.alike with document? := ?_ }, apart.policy⟩
  intro other differ
  rw [document?_put, if_neg differ, apart.alike.document? other differ]

theorem Apart.erase (apart : Apart id s t) :
    Apart id { s with documents := s.documents.erase id } t := by
  refine ⟨{ apart.alike with document? := ?_ }, apart.policy⟩
  intro other differ
  have kept := document?_erase s s.focused id other
  rw [kept, if_neg differ, apart.alike.document? other differ]

theorem Apart.step_concerned (P : Parser) (apart : Apart id s t) {e : Event}
    (concerned : e.Concerns id) : ∃ s', s.step P e = .ok (s', []) ∧ Apart id s' t := by
  have idle : s.active ≠ some id := fun held => apart.alike.active_seen id held rfl
  have unfocused : s.focused ≠ some id := fun focused => apart.alike.focused_seen id focused rfl
  cases e with
  | opened other path text =>
    obtain rfl : other = id := concerned
    refine ⟨_, ?_, apart.put ⟨path, text⟩⟩
    simp only [step, Session.opened, if_neg (not_or.mpr ⟨idle, unfocused⟩)]
  | closed other =>
    obtain rfl : other = id := concerned
    refine ⟨_, ?_, apart.erase⟩
    simp only [step, Session.closed, if_neg idle, if_neg unfocused]
  | changed other changes =>
    obtain rfl : other = id := concerned
    cases mirrored : s.document? other with
    | none => exact ⟨s, changed_unknown P changes mirrored, apart⟩
    | some d =>
      obtain ⟨d', edits, applied, -⟩ := d.applyChanges_ok changes
      have changed := changed_text P mirrored applied fun held => absurd held idle
      exact ⟨_, changed, apart.put d'⟩
  | focused other => exact concerned.elim
  | visibility visible => exact concerned.elim
  | selected nodes => exact concerned.elim

theorem Apart.step_elsewhere (P : Parser) (apart : Apart id s t) {e : Event}
    (elsewhere : ¬ e.Concerns id) (never : e ≠ .focused (some id)) :
    SameOutcome (Apart id) (s.step P e) (t.step P e) := by
  have seen : ∀ other, e.document? = some other → ¬ other = id := by
    rintro other named rfl
    exact Event.document?_ne_of_elsewhere elsewhere never named
  have same := apart.alike.step seen (apart.alike.sameUpdate_of_policy (P := P) apart.policy)
  generalize left : s.step P e = o at same
  generalize right : t.step P e = o' at same
  cases same with
  | fault f => exact .fault f
  | ok effects alike =>
    have policy := (step_stepped left).sameChoices.1
    have policy' := (step_stepped right).sameChoices.1
    exact .ok effects ⟨alike, by rw [policy, policy', apart.policy]⟩

theorem run_cons_silent {s' : Session} {e : Event} {rest : List Event}
    (stepped : s.step P e = .ok (s', [])) : s.run P (e :: rest) = s'.run P rest := by
  simp only [Session.run, stepped, bind, Except.bind]
  cases s'.run P rest <;> rfl

theorem Apart.run (P : Parser) (apart : Apart id s t) {events : List Event}
    (never : Event.focused (some id) ∉ events) :
    SameOutcome (Apart id) (s.run P events) (t.run P (withoutDocument id events)) := by
  induction events generalizing s t with
  | nil => exact .ok [] apart
  | cons e rest ih =>
    have later : Event.focused (some id) ∉ rest := fun mem => never (List.mem_cons_of_mem _ mem)
    have now : e ≠ .focused (some id) := fun same => never (same ▸ List.mem_cons_self)
    by_cases concerned : e.Concerns id
    · obtain ⟨s', stepped, apart'⟩ := apart.step_concerned P concerned
      rw [withoutDocument_cons_concerned concerned, run_cons_silent stepped]
      exact ih apart' later
    · have same := apart.step_elsewhere P concerned now
      rw [withoutDocument_cons_elsewhere concerned, Session.run, Session.run]
      refine same.bind ?_
      intro s' t' effects apart'
      exact (ih apart' later).bind fun _ _ _ last => .ok _ last

theorem apart_new (id : DocumentId) (compiler : Compiler) (policy : ReparsePolicy) :
    Apart id (new compiler policy) (new compiler policy) where
  alike := {
    view := rfl, highlighter := rfl, focused := rfl, active := rfl, visible := rfl
    document? := fun _ _ => rfl, focused_seen := nofun, active_seen := nofun }
  policy := rfl

/-- In any run that never moves the focus to a document, the events of that document have no
effects. Without them all other events have the same effects, and breakdowns, and at every moment
and in the end all that can be seen is the same but for the document itself. -/
theorem bystander_unseen (P : Parser) (compiler : Compiler) (policy : ReparsePolicy)
    (id : DocumentId) {events : List Event} (never : Event.focused (some id) ∉ events) :
    SameOutcome (fun s t => s.observe.apart id = t.observe.apart id)
      ((new compiler policy).run P events)
      ((new compiler policy).run P (withoutDocument id events)) ∧
    ∀ before e after s sent, events = before ++ e :: after →
      (new compiler policy).run P before = .ok (s, sent) →
      ∃ t, (new compiler policy).run P (withoutDocument id before) = .ok (t, sent) ∧
        s.observe.apart id = t.observe.apart id ∧
        (e.Concerns id → ∃ s', s.step P e = .ok (s', [])) ∧
        (¬ e.Concerns id → SameOutcome (fun s t => s.observe.apart id = t.observe.apart id)
          (s.step P e) (t.step P e)) := by
  have start := apart_new id compiler policy
  refine ⟨(start.run P never).mono fun _ _ apart => apart.observe, ?_⟩
  rintro before e after s sent rfl ran
  have earlier : Event.focused (some id) ∉ before :=
    fun mem => never (List.mem_append_left _ mem)
  have now : e ≠ .focused (some id) := by
    rintro rfl
    exact never (List.mem_append_right _ List.mem_cons_self)
  have same := start.run P earlier
  rw [ran] at same
  generalize left : (new compiler policy).run P (withoutDocument id before) = o at same
  cases same with
  | @ok _ t effects apart =>
    refine ⟨t, rfl, apart.observe, ?_, ?_⟩
    · intro concerned
      obtain ⟨s', stepped, -⟩ := apart.step_concerned P concerned
      exact ⟨s', stepped⟩
    · intro elsewhere
      exact (apart.step_elsewhere P elsewhere now).mono fun _ _ apart => apart.observe

def besides : List Event :=
  [.opened "b" "b.ts" "x", .opened "a" "a.ts" "x", .focused (some "a"),
    .changed "b" [⟨none, "y"⟩], .visibility true, .closed "b", .selected [[0]],
    .opened "b" "b.js" "z"]

theorem bystander_unseen_besides : Event.focused (some "b") ∉ besides ∧
    ∃ s t sent, (new .typescript .incremental).run .letters besides = .ok (s, sent) ∧
      (new .typescript .incremental).run .letters (withoutDocument "b" besides) = .ok (t, sent) ∧
      s.observe.apart "b" = t.observe.apart "b" ∧ sent.length = 3 ∧
      (s.document? "b").isSome = true ∧ t.document? "b" = none := by
  have never : Event.focused (some "b") ∉ besides := by decide
  obtain ⟨s, sent, ran, size, opened⟩ : ∃ s sent,
      (new .typescript .incremental).run .letters besides = .ok (s, sent) ∧ sent.length = 3 ∧
        (s.document? "b").isSome = true := ⟨_, _, rfl, by decide +kernel, by decide +kernel⟩
  obtain ⟨t, sent', ran', unknown⟩ : ∃ t sent',
      (new .typescript .incremental).run .letters (withoutDocument "b" besides) =
        .ok (t, sent') ∧ t.document? "b" = none := ⟨_, _, rfl, by decide +kernel⟩
  obtain ⟨same, -⟩ := bystander_unseen .letters .typescript .incremental "b" never
  rw [ran, ran'] at same
  obtain ⟨seen, rfl⟩ : s.observe.apart "b" = t.observe.apart "b" ∧ sent = sent' := same.of_ok
  exact ⟨never, s, t, sent, ran, ran', seen, size, opened, unknown⟩

end Session

end SyntaxPanel
