import SyntaxPanel.Proofs.Panel.History

/-! What holds of every session that a run leads to: which document is active, what is open, and
whose tree is held. The first two need nothing of the parser. The last one asks that a reparse
agrees with a parse; that the parser's spans fit the text is not needed. -/
namespace SyntaxPanel.Session

def Settled (s : Session) : Prop :=
  ∀ id, s.active = some id ↔
    s.focused = some id ∧ s.visible = true ∧ (s.document? id).isSome = true

def UpToDate (P : Parser) (s : Session) : Prop :=
  s.view.tree = s.activeDocument?.map (Document.tree P s.view.compiler)

def TreeFits (fits : Document → SyntaxTree → Prop) (s : Session) : Prop :=
  Option.Rel fits s.activeDocument? s.view.tree

theorem upToDate_iff {P : Parser} {s : Session} :
    s.UpToDate P ↔ s.TreeFits fun d t => t = d.tree P s.view.compiler := by
  unfold UpToDate TreeFits
  cases s.activeDocument? <;> cases s.view.tree <;> simp

theorem target?_eq_some_iff {s : Session} {id : DocumentId} {d : Document} :
    s.target? = some (id, d) ↔
      s.focused = some id ∧ s.visible = true ∧ s.document? id = some d := by
  unfold target?
  cases s.focused with
  | none => simp
  | some other =>
    cases s.visible with
    | false => simp
    | true =>
      simp only [if_true, Option.map_eq_some_iff, Prod.mk.injEq, Option.some.injEq]
      constructor
      · rintro ⟨_, mirrored, rfl, rfl⟩
        exact ⟨rfl, trivial, mirrored⟩
      · rintro ⟨rfl, -, mirrored⟩
        exact ⟨d, mirrored, rfl, rfl⟩

theorem activeDocument?_eq_some_iff {s : Session} {d : Document} :
    s.activeDocument? = some d ↔ ∃ id, s.active = some id ∧ s.document? id = some d :=
  Option.bind_eq_some_iff

theorem Synced.settled {P : Parser} {s s' : Session} {effects : List Effect}
    (synced : Synced P s s' effects) : s'.Settled := by
  have inputs := synced.sameInputs
  have idle (unwanted : s.target? = none) (id : DocumentId) :
      ¬ (s'.focused = some id ∧ s'.visible = true ∧ (s'.document? id).isSome = true) := by
    rw [inputs.focused, inputs.visible, inputs.document?]
    rintro ⟨focused, visible, opened⟩
    obtain ⟨d, mirrored⟩ := Option.isSome_iff_exists.mp opened
    exact absurd (target?_eq_some_iff.mpr ⟨focused, visible, mirrored⟩) (by simp [unwanted])
  have active {id : DocumentId} {d : Document} (wanted : s.target? = some (id, d))
      (other : DocumentId) : some id = some other ↔
        s'.focused = some other ∧ s'.visible = true ∧ (s'.document? other).isSome = true := by
    obtain ⟨focused, visible, mirrored⟩ := target?_eq_some_iff.mp wanted
    rw [inputs.focused, inputs.visible, inputs.document?, focused, visible]
    constructor
    · intro same
      obtain rfl := Option.some.inj same
      exact ⟨rfl, rfl, by rw [mirrored]; rfl⟩
    · exact fun held => held.1
  intro id
  cases synced with
  | stays wanted held => exact active wanted id
  | moves wanted other => exact active wanted id
  | leaves unwanted held => exact ⟨nofun, fun held => absurd held (idle unwanted id)⟩
  | rests unwanted inactive =>
    have unheld : s.active ≠ some id := by rw [inactive]; nofun
    exact ⟨fun held => absurd held unheld, fun held => absurd held (idle unwanted id)⟩

theorem Settled.frame {s s' : Session} (settled : s.Settled) (active : s'.active = s.active)
    (focused : s'.focused = s.focused) (visible : s'.visible = s.visible)
    (opened : ∀ id, s.focused = some id →
      (s'.document? id).isSome = (s.document? id).isSome) : s'.Settled := by
  intro id
  rw [active, focused, visible, settled id]
  by_cases held : s.focused = some id
  · rw [opened id held]
  · simp only [held, false_and]

theorem Revealed.active {s s' : Session} {effects : List Effect}
    (revealed : Revealed s s' effects) : s'.active = s.active := by
  cases revealed <;> rfl

theorem Revealed.settled {s s' : Session} {effects : List Effect}
    (revealed : Revealed s s' effects) (settled : s.Settled) : s'.Settled :=
  settled.frame revealed.active revealed.sameInputs.focused revealed.sameInputs.visible
    fun id _ => by rw [revealed.sameInputs.document?]

theorem isSome_document?_put {s : Session} {id : DocumentId} {d d' : Document}
    (mirrored : s.document? id = some d) (other : DocumentId) :
    (Session.document? { s with documents := s.documents.put id d' } other).isSome =
      (s.document? other).isSome := by
  rw [document?_put]
  split
  · rename_i same
    rw [same, mirrored]
    rfl
  · rfl

theorem Stepped.settled {P : Parser} {s s' : Session} {e : Event} {effects : List Effect}
    (stepped : Stepped P s e s' effects) (settled : s.Settled) : s'.Settled := by
  cases stepped with
  | @openedElsewhere id path text idle unfocused =>
    refine settled.frame rfl rfl rfl ?_
    intro other focused
    have differ : other ≠ id := fun same => unfocused (same ▸ focused)
    rw [document?_put, if_neg differ]
  | opened here synced => exact synced.settled
  | @closedElsewhere id idle =>
    intro other
    by_cases same : other = id
    · subst same
      have kept :=
        document?_erase s (if s.focused = some other then none else s.focused) other other
      rw [kept, if_pos rfl]
      exact ⟨fun held => absurd held idle, fun ⟨_, _, impossible⟩ => nomatch impossible⟩
    · have kept := document?_erase s (if s.focused = some id then none else s.focused) id other
      rw [kept, if_neg same]
      by_cases focused : s.focused = some id
      · rw [if_pos focused, settled other, focused]
        simp only [Option.some.injEq, Ne.symm same, reduceCtorEq, false_and]
      · simp only [if_neg focused, settled other]
  | closed held synced => exact synced.settled
  | changedUnknown unknown => exact settled
  | changedText mirrored applied untouched =>
    exact settled.frame rfl rfl rfl fun other _ => isSome_document?_put mirrored other
  | changedTree mirrored applied held some_change =>
    exact settled.frame rfl rfl rfl fun other _ => isSome_document?_put mirrored other
  | focused synced => exact synced.settled
  | visibilitySame same => exact settled
  | hidden visible synced => exact synced.settled
  | shown hidden synced revealed => exact revealed.settled synced.settled
  | selectedHidden hidden => exact settled
  | selected visible revealed => exact revealed.settled settled

theorem UpToDate.loaded {P : Parser} {s : Session} (upToDate : s.UpToDate P) {id : DocumentId}
    {d : Document} (held : s.active = some id) (mirrored : s.document? id = some d) :
    s.view.tree = some (d.tree P s.view.compiler) := by
  rw [upToDate, activeDocument?_eq_some_iff.mpr ⟨id, held, mirrored⟩]
  rfl

theorem Revealed.view {s s' : Session} {effects : List Effect}
    (revealed : Revealed s s' effects) : s'.view = s.view := by
  cases revealed <;> rfl

theorem Revealed.activeDocument? {s s' : Session} {effects : List Effect}
    (revealed : Revealed s s' effects) : s'.activeDocument? = s.activeDocument? := by
  cases revealed <;> rfl

theorem activeDocument?_congr {s s' : Session} (active : s'.active = s.active)
    (kept : ∀ id, s.active = some id → s'.document? id = s.document? id) :
    s'.activeDocument? = s.activeDocument? := by
  rw [Session.activeDocument?, Session.activeDocument?, active]
  cases held : s.active with
  | none => rfl
  | some id => exact kept id held

theorem activeDocument?_put {s : Session} {id : DocumentId} {d : Document}
    (kept : s.active = some id → s.document? id = some d) :
    Session.activeDocument? { s with documents := s.documents.put id d } = s.activeDocument? := by
  refine activeDocument?_congr rfl ?_
  intro other held
  rw [document?_put]
  split
  · rename_i same
    subst same
    exact (kept held).symm
  · rfl

theorem activeDocument?_erase {s : Session} {id : DocumentId} (focused : Option DocumentId)
    (idle : s.active ≠ some id) :
    Session.activeDocument? { s with documents := s.documents.erase id, focused } =
      s.activeDocument? := by
  refine activeDocument?_congr rfl ?_
  intro other held
  have differ : other ≠ id := fun same => idle (same ▸ held)
  rw [document?_erase, if_neg differ]

theorem activeDocument?_untouched {s : Session} {id : DocumentId} {d d' : Document}
    {changes : List ContentChange} {edits : List (Option Edit)}
    (mirrored : s.document? id = some d) (applied : d.applyChanges changes = .ok (d', edits))
    (untouched : s.active = some id → changes = []) :
    Session.activeDocument? { s with documents := s.documents.put id d' } = s.activeDocument? := by
  apply activeDocument?_put
  intro held
  rw [untouched held] at applied
  cases applied
  exact mirrored

section TreeFits

variable {P : Parser} {fits : Document → SyntaxTree → Prop} {s s' : Session}
  {effects : List Effect}

theorem TreeFits.bare (fit : s.TreeFits fits) (idle : s.active = none) : s.view.tree = none := by
  unfold TreeFits at fit
  rw [activeDocument?, idle] at fit
  cases tree : s.view.tree with
  | none => rfl
  | some t =>
    rw [tree] at fit
    cases fit

theorem TreeFits.loaded (fit : s.TreeFits fits) {d : Document}
    (document : s.activeDocument? = some d) : ∃ t, s.view.tree = some t ∧ fits d t := by
  unfold TreeFits at fit
  rw [document] at fit
  cases tree : s.view.tree with
  | none =>
    rw [tree] at fit
    nomatch fit
  | some t =>
    rw [tree] at fit
    exact ⟨t, rfl, Option.rel_some_some.mp fit⟩

theorem TreeFits.frame (fit : s.TreeFits fits) (view : s'.view = s.view)
    (document : s'.activeDocument? = s.activeDocument?) : s'.TreeFits fits := by
  rw [TreeFits, view, document]
  exact fit

theorem TreeFits.of_tree {id : DocumentId} {d : Document} {t : SyntaxTree}
    (held : s.active = some id) (mirrored : s.document? id = some d)
    (tree : s.view.tree = some t) (fit : fits d t) : s.TreeFits fits := by
  rw [TreeFits, activeDocument?_eq_some_iff.mpr ⟨id, held, mirrored⟩, tree]
  exact .some fit

theorem Synced.treeFits (synced : Synced P s s' effects)
    (parsed : ∀ d, fits d (d.tree P s.view.compiler))
    (bare : s.active = none → s.view.tree = none) : s'.TreeFits fits := by
  cases synced with
  | stays wanted held => exact .of_tree rfl (target?_eq_some_iff.mp wanted).2.2 rfl (parsed _)
  | moves wanted other => exact .of_tree rfl (target?_eq_some_iff.mp wanted).2.2 rfl (parsed _)
  | leaves unwanted held => exact .none
  | rests unwanted idle =>
    rw [TreeFits, activeDocument?, idle, bare idle]
    exact .none

theorem Stepped.treeFits {e : Event} (stepped : Stepped P s e s' effects)
    (parsed : ∀ d, fits d (d.tree P s.view.compiler))
    (kept : ∀ id changes d d' edits t, e = .changed id changes → s.active = some id →
      changes ≠ [] → d.applyChanges changes = .ok (d', edits) → s.view.tree = some t → fits d t →
      ∃ t', (s.view.update P s.policy d' edits).1.tree = some t' ∧ fits d' t')
    (fit : s.TreeFits fits) : s'.TreeFits fits := by
  cases stepped with
  | openedElsewhere idle unfocused =>
    exact fit.frame rfl (activeDocument?_put fun held => absurd held idle)
  | opened here synced => exact synced.treeFits parsed fit.bare
  | closedElsewhere idle => exact fit.frame rfl (activeDocument?_erase _ idle)
  | closed held synced => exact synced.treeFits parsed fit.bare
  | changedUnknown unknown => exact fit
  | changedText mirrored applied untouched =>
    exact fit.frame rfl (activeDocument?_untouched mirrored applied untouched)
  | @changedTree id changes d d' edits mirrored applied held some_change =>
    obtain ⟨t, tree, fitted⟩ := fit.loaded (activeDocument?_eq_some_iff.mpr ⟨id, held, mirrored⟩)
    obtain ⟨t', tree', fitted'⟩ :=
      kept id changes d d' edits t rfl held some_change applied tree fitted
    have replaced := document?_put s id id d'
    exact .of_tree held (replaced.trans (if_pos rfl)) tree' fitted'
  | focused synced => exact synced.treeFits parsed fit.bare
  | visibilitySame same => exact fit
  | hidden visible synced => exact synced.treeFits parsed fit.bare
  | shown hidden synced revealed =>
    exact (synced.treeFits parsed fit.bare).frame revealed.view revealed.activeDocument?
  | selectedHidden hidden => exact fit
  | selected visible revealed =>
    exact fit.frame revealed.view revealed.activeDocument?

end TreeFits

theorem Stepped.sameChoices {P : Parser} {s s' : Session} {e : Event} {effects : List Effect}
    (stepped : Stepped P s e s' effects) :
    s'.policy = s.policy ∧ s'.view.compiler = s.view.compiler := by
  obtain ⟨t, told, same⟩ := stepped.told
  rw [same.policy, same.compiler]
  cases told <;> exact ⟨rfl, rfl⟩

theorem Stepped.upToDate_of_change {P : Parser} {s s' : Session} {e : Event}
    {effects : List Effect} (stepped : Stepped P s e s' effects)
    (agrees : ∀ id changes, e = .changed id changes → s.active = some id → P.ReparseAgrees)
    (upToDate : s.UpToDate P) : s'.UpToDate P := by
  rw [upToDate_iff, stepped.sameChoices.2]
  refine stepped.treeFits (fun _ => rfl) ?_ (upToDate_iff.mp upToDate)
  intro id changes d d' edits t same held some_change applied tree fitted
  refine ⟨d'.tree P s.view.compiler, ?_, rfl⟩
  have agreed := agrees id changes same held
  rw [TreeView.update_eq_parse agreed s.policy (fitted ▸ tree) applied some_change]
  rfl

theorem Stepped.upToDate {P : Parser} (agrees : P.ReparseAgrees) {s s' : Session} {e : Event}
    {effects : List Effect} (stepped : Stepped P s e s' effects) (upToDate : s.UpToDate P) :
    s'.UpToDate P :=
  stepped.upToDate_of_change (fun _ _ _ _ => agrees) upToDate

theorem settled_new (compiler : Compiler) (policy : ReparsePolicy) :
    (new compiler policy).Settled := by
  intro id
  constructor
  · exact fun held => nomatch held
  · exact fun held => nomatch held.1

theorem upToDate_new (P : Parser) (compiler : Compiler) (policy : ReparsePolicy) :
    (new compiler policy).UpToDate P := rfl

section Run

variable {P : Parser} {compiler : Compiler} {policy : ReparsePolicy} {events : List Event}
  {s : Session} {effects : List Effect}

theorem choices_of_run (ran : (Session.new compiler policy).run P events = .ok (s, effects)) :
    s.policy = policy ∧ s.view.compiler = compiler := by
  refine run_invariant (fun _ s _ => s.policy = policy ∧ s.view.compiler = compiler) ⟨rfl, rfl⟩
    ?_ ran
  intro _ _ _ _ _ _ kept stepped
  have same := stepped.sameChoices
  exact ⟨same.1.trans kept.1, same.2.trans kept.2⟩

theorem settled_of_run (ran : (Session.new compiler policy).run P events = .ok (s, effects)) :
    s.Settled :=
  run_invariant (fun _ s _ => s.Settled) (settled_new compiler policy)
    (fun _ _ _ _ _ _ settled stepped => stepped.settled settled) ran

theorem upToDate_of_run (agrees : P.ReparseAgrees)
    (ran : (Session.new compiler policy).run P events = .ok (s, effects)) : s.UpToDate P :=
  run_invariant (fun _ s _ => s.UpToDate P) (upToDate_new P compiler policy)
    (fun _ _ _ _ _ _ upToDate stepped => stepped.upToDate agrees upToDate) ran

/-- After any run the active document is the one that was focused last and is open, while the panel
is visible; each open document is as it was opened last, with all changes since; and the tree is
the parse of the active document. -/
theorem run_coherent (agrees : P.ReparseAgrees)
    (ran : (Session.new compiler policy).run P events = .ok (s, effects)) :
    (∀ id, s.active = some id ↔
      s.visible = true ∧ FocusedLast events id ∧ (s.document? id).isSome = true) ∧
    (s.visible = true ↔ ShownLast events) ∧
    (∀ id d, s.document? id = some d ↔ OpenAs events id d) ∧
    (s.view.isLoaded = true ↔ ∃ id, s.active = some id) ∧
    (∀ id d, s.active = some id → s.document? id = some d →
      s.view.tree = some { dialect := compiler.dialect d.path,
                           root := P.parse (compiler.dialect d.path) d.text }) := by
  have heard := heard_run ran
  have settled := settled_of_run ran
  have upToDate := upToDate_of_run agrees ran
  refine ⟨?_, heard.visible, heard.document?, ?_, ?_⟩
  · intro id
    rw [settled id, ← heard.focused id]
    exact and_left_comm
  · rw [TreeView.isLoaded, upToDate, Option.isSome_map]
    constructor
    · intro loaded
      obtain ⟨d, document⟩ := Option.isSome_iff_exists.mp loaded
      obtain ⟨id, held, -⟩ := activeDocument?_eq_some_iff.mp document
      exact ⟨id, held⟩
    · rintro ⟨id, held⟩
      rw [activeDocument?, held]
      exact ((settled id).mp held).2.2
  · intro id d held mirrored
    rw [upToDate.loaded held mirrored, (choices_of_run ran).2]
    rfl

end Run

def reopening : List Event :=
  [.opened "a" "a.js" "x", .focused (some "a"), .visibility true, .opened "a" "a.tsx" "x",
    .changed "a" [⟨some ⟨⟨0, 0⟩, ⟨0, 1⟩⟩, "y"⟩]]

theorem run_coherent_reopening :
    ∃ s effects, (new .typescript .incremental).run .letters reopening = .ok (s, effects) ∧
      s.active = some "a" ∧ s.document? "a" = some ⟨"a.tsx", "y"⟩ ∧
      s.view.tree = some { dialect := .tsx, root := .letter } := by
  obtain ⟨s, effects, ran, held, mirrored⟩ :
      ∃ s effects, (new .typescript .incremental).run .letters reopening = .ok (s, effects) ∧
        s.active = some "a" ∧ s.document? "a" = some ⟨"a.tsx", "y"⟩ :=
    ⟨_, _, rfl, rfl, by decide +kernel⟩
  have tree := (run_coherent Parser.letters_reparseAgrees ran).2.2.2.2 "a" _ held mirrored
  exact ⟨s, effects, ran, held, mirrored, tree.trans (by decide +kernel)⟩

end SyntaxPanel.Session
