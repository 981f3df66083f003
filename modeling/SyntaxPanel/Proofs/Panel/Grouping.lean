import SyntaxPanel.Proofs.Panel.Coherence

namespace SyntaxPanel.Session

variable {P : Parser} {s : Session} {id : DocumentId} {d d' : Document}

def edited (P : Parser) (s : Session) (id : DocumentId) (d : Document) : Session :=
  { s with
    documents := s.documents.put id d
    view := if s.active = some id then s.view.parse P d.text d.path else s.view }

theorem edited_edited (P : Parser) (s : Session) (id : DocumentId) (d d' : Document) :
    (s.edited P id d).edited P id d' = s.edited P id d' := by
  simp only [edited, Store.put_put]
  split <;> rfl

theorem document?_edited (P : Parser) (s : Session) (id : DocumentId) (d : Document) :
    (s.edited P id d).document? id = some d := by
  rw [document?, edited, Store.find?_put, if_pos rfl]

def timesTold (s : Session) (id : DocumentId) (batches : List (List ContentChange)) : Nat :=
  if s.active = some id then batches.countP fun changes => !changes.isEmpty else 0

theorem timesTold_cons (s : Session) (id : DocumentId) (changes : List ContentChange)
    (rest : List (List ContentChange)) :
    s.timesTold id (changes :: rest) = s.timesTold id [changes] + s.timesTold id rest := by
  unfold timesTold
  split
  · rw [← List.singleton_append, List.countP_append]
  · rfl

theorem timesTold_append (s : Session) (id : DocumentId) (xs ys : List ContentChange) :
    s.timesTold id [xs ++ ys] = min (s.timesTold id [xs, ys]) 1 := by
  unfold timesTold
  split
  · cases xs <;> cases ys <;> simp
  · rfl

theorem UpToDate.parse_eq (upToDate : s.UpToDate P) (held : s.active = some id)
    (mirrored : s.document? id = some d) : s.view.parse P d.text d.path = s.view := by
  have loaded := upToDate.loaded held mirrored
  rw [TreeView.parse]
  exact congrArg (TreeView.mk s.view.compiler) loaded.symm

theorem UpToDate.changed_eq (agrees : P.ReparseAgrees) (upToDate : s.UpToDate P)
    (mirrored : s.document? id = some d) {changes : List ContentChange}
    {edits : List (Option Edit)} (applied : d.applyChanges changes = .ok (d', edits)) :
    s.changed P id changes =
      .ok (s.edited P id d',
        List.replicate (s.timesTold id [changes]) (.treeChanged (some id))) := by
  by_cases held : s.active = some id
  · cases changes with
    | nil =>
      cases applied
      rw [changed_text P mirrored rfl fun _ => rfl, edited, if_pos held,
        upToDate.parse_eq held mirrored]
      simp [timesTold]
    | cons c rest =>
      have loaded := upToDate.loaded held mirrored
      rw [changed_tree P mirrored applied held (List.cons_ne_nil c rest), edited, if_pos held,
        TreeView.update_eq_parse agrees s.policy loaded applied (List.cons_ne_nil c rest)]
      simp [timesTold, held]
  · rw [changed_text P mirrored applied fun impossible => absurd impossible held, edited,
      if_neg held, timesTold, if_neg held, List.replicate_zero]

theorem UpToDate.edited (agrees : P.ReparseAgrees) (upToDate : s.UpToDate P)
    (mirrored : s.document? id = some d) {changes : List ContentChange}
    {edits : List (Option Edit)} (applied : d.applyChanges changes = .ok (d', edits)) :
    (s.edited P id d').UpToDate P :=
  (changed_stepped (upToDate.changed_eq agrees mirrored applied)).upToDate agrees upToDate

theorem UpToDate.run_batches (agrees : P.ReparseAgrees) (upToDate : s.UpToDate P)
    (mirrored : s.document? id = some d) (first : List ContentChange)
    (rest : List (List ContentChange)) {edits : List (Option Edit)}
    (applied : d.applyChanges (first ++ rest.flatten) = .ok (d', edits)) :
    s.run P ((first :: rest).map (.changed id)) =
      .ok (s.edited P id d',
        List.replicate (s.timesTold id (first :: rest)) (.treeChanged (some id))) := by
  induction rest generalizing s d first edits with
  | nil =>
    rw [List.flatten_nil, List.append_nil] at applied
    have changed := upToDate.changed_eq agrees mirrored applied
    exact run_cons_ok.mpr ⟨_, _, [], changed, rfl, (List.append_nil _).symm⟩
  | cons second rest ih =>
    rw [Document.applyChanges_append, bind_eq_ok] at applied
    obtain ⟨⟨d₁, front⟩, applied₁, later⟩ := applied
    obtain ⟨⟨d₂, back⟩, applied₂, result⟩ := bind_eq_ok.mp later
    cases result
    have changed := upToDate.changed_eq agrees mirrored applied₁
    have others := ih (upToDate.edited agrees mirrored applied₁) (document?_edited P s id d₁)
      second applied₂
    -- What the first batch made of the session is overwritten by the later ones.
    rw [edited_edited] at others
    refine run_cons_ok.mpr ⟨_, _, _, changed, others, ?_⟩
    rw [timesTold_cons, ← List.replicate_append_replicate]
    rfl

theorem run_unknown (P : Parser) (unknown : s.document? id = none)
    (batches : List (List ContentChange)) : s.run P (batches.map (.changed id)) = .ok (s, []) := by
  induction batches with
  | nil => rfl
  | cons changes rest ih =>
    exact run_cons_ok.mpr ⟨s, [], [], changed_unknown P changes unknown, ih, rfl⟩

/-- Two batches lead to the session that one batch of all their changes leads to. What the host is
told is at most repeated: once for the one batch just if at least once for the two. -/
theorem grouping_unseen (agrees : P.ReparseAgrees) {compiler : Compiler} {policy : ReparsePolicy}
    {events : List Event} {effects : List Effect}
    (ran : (new compiler policy).run P events = .ok (s, effects)) (id : DocumentId)
    (xs ys : List ContentChange) : ∃ s' times,
      s.run P [.changed id (xs ++ ys)] =
        .ok (s', List.replicate (min times 1) (.treeChanged (some id))) ∧
      s.run P [.changed id xs, .changed id ys] =
        .ok (s', List.replicate times (.treeChanged (some id))) := by
  cases mirrored : s.document? id with
  | none =>
    exact ⟨s, 0, run_unknown P mirrored [xs ++ ys], run_unknown P mirrored [xs, ys]⟩
  | some d =>
    have upToDate := upToDate_of_run agrees ran
    obtain ⟨d', edits, applied, -⟩ := d.applyChanges_ok (xs ++ ys)
    have whole := upToDate.run_batches agrees mirrored (xs ++ ys) []
      (by rwa [List.flatten_nil, List.append_nil])
    have parts := upToDate.run_batches agrees mirrored xs [ys]
      (by rwa [List.flatten_cons, List.flatten_nil, List.append_nil])
    rw [timesTold_append] at whole
    exact ⟨s.edited P id d', s.timesTold id [xs, ys], whole, parts⟩

theorem grouping_unseen_replacing : Parser.letters.ReparseAgrees ∧
    ∃ s sent s', (new .typescript .incremental).run .letters
        [.opened "a" "a.ts" "x", .focused (some "a"), .visibility true] = .ok (s, sent) ∧
      s.run .letters [.changed "a" [⟨some ⟨⟨0, 0⟩, ⟨0, 1⟩⟩, "y"⟩, ⟨none, "z"⟩]] =
        .ok (s', [.treeChanged (some "a")]) ∧
      s.run .letters [.changed "a" [⟨some ⟨⟨0, 0⟩, ⟨0, 1⟩⟩, "y"⟩], .changed "a" [⟨none, "z"⟩]] =
        .ok (s', [.treeChanged (some "a"), .treeChanged (some "a")]) := by
  obtain ⟨s, sent, ran, told⟩ : ∃ s sent, (new .typescript .incremental).run .letters
      [.opened "a" "a.ts" "x", .focused (some "a"), .visibility true] = .ok (s, sent) ∧
      ((s.run .letters
        [.changed "a" [⟨some ⟨⟨0, 0⟩, ⟨0, 1⟩⟩, "y"⟩], .changed "a" [⟨none, "z"⟩]]).map
          fun result => result.2.length) = .ok 2 := ⟨_, _, rfl, rfl⟩
  obtain ⟨s', times, whole, parts⟩ := grouping_unseen Parser.letters_reparseAgrees ran "a"
    [⟨some ⟨⟨0, 0⟩, ⟨0, 1⟩⟩, "y"⟩] [⟨none, "z"⟩]
  rw [parts] at told
  obtain rfl : times = 2 := by simpa [Except.map] using told
  exact ⟨Parser.letters_reparseAgrees, s, sent, s', ran, whole, parts⟩

end SyntaxPanel.Session
