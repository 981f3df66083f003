import SyntaxPanel.Proofs.Panel.Lockstep

namespace SyntaxPanel

def Effect.document? : Effect → Option DocumentId
  | treeChanged document => document
  | highlight request => some request.document

def Named (known : DocumentId → Prop) (effects : List Effect) : Prop :=
  ∀ effect ∈ effects, ∀ id, effect.document? = some id → known id

section Named

variable {known : DocumentId → Prop} {a b : List Effect}

theorem Named.nil : Named known [] := nofun

theorem Named.append (first : Named known a) (second : Named known b) : Named known (a ++ b) := by
  intro effect mem
  exact (List.mem_append.mp mem).elim (first effect) (second effect)

theorem Named.signal {document : Option DocumentId} (each : ∀ id, document = some id → known id) :
    Named known [.treeChanged document] := by
  intro effect mem
  rw [List.mem_singleton.mp mem]
  exact each

theorem Named.request {id : DocumentId} {ranges : List Range} (one : known id) :
    Named known [.highlight ⟨id, ranges⟩] := by
  intro effect mem other same
  rw [List.mem_singleton.mp mem] at same
  exact Option.some.inj same ▸ one

end Named

namespace Session

structure Names (known : DocumentId → Prop) (s : Session) : Prop where
  focused : ∀ id, s.focused = some id → known id
  active : ∀ id, s.active = some id → known id
  highlighted : ∀ id, s.highlighter.highlighted = some id → known id

variable {P : Parser} {known : DocumentId → Prop} {s s' : Session} {e : Event}
  {effects : List Effect}

theorem names_new (known : DocumentId → Prop) (compiler : Compiler) (policy : ReparsePolicy) :
    (new compiler policy).Names known := ⟨nofun, nofun, nofun⟩

theorem Names.clearing (names : s.Names known) : Named known s.clearing := by
  intro effect mem id same
  obtain ⟨request, hidden, rfl⟩ := List.mem_map.mp mem
  simp only [Highlighter.hide, Option.mem_toList] at hidden
  split at hidden
  · cases hidden
  · obtain ⟨other, highlighted, rfl⟩ := Option.map_eq_some_iff.mp hidden
    exact Option.some.inj same ▸ names.highlighted other highlighted

theorem Synced.names (synced : Synced P s s' effects) (names : s.Names known) :
    s'.Names known ∧ Named known effects := by
  have wanted_known {id : DocumentId} {d : Document} (wanted : s.target? = some (id, d)) :
      ∀ other, some id = some other → known other := by
    rintro _ ⟨⟩
    exact names.focused id (target?_eq_some_iff.mp wanted).1
  cases synced with
  | stays wanted held =>
    refine ⟨⟨names.focused, wanted_known wanted, ?_⟩, .signal (wanted_known wanted)⟩
    simpa only [Highlighter.retarget_highlighted] using names.highlighted
  | moves wanted other =>
    refine ⟨⟨names.focused, wanted_known wanted, ?_⟩,
      names.clearing.append (.signal (wanted_known wanted))⟩
    simp only [Highlighter.retarget_highlighted]
    exact nofun
  | leaves unwanted held =>
    exact ⟨⟨names.focused, nofun, nofun⟩, names.clearing.append (.signal nofun)⟩
  | rests unwanted idle => exact ⟨⟨names.focused, names.active, nofun⟩, names.clearing⟩

theorem Revealed.names (revealed : Revealed s s' effects) (names : s.Names known) :
    s'.Names known ∧ Named known effects := by
  cases revealed with
  | none idle => exact ⟨names, .nil⟩
  | ranges held mirrored located =>
    have one := names.active _ held
    refine ⟨⟨names.focused, names.active, ?_⟩, .request one⟩
    rintro _ ⟨⟩
    exact one

theorem Stepped.names (stepped : Stepped P s e s' effects) (names : s.Names known)
    (told : ∀ id, e.document? = some id → known id) : s'.Names known ∧ Named known effects := by
  have unfocused (id : DocumentId) :
      ∀ other, (if s.focused = some id then none else s.focused) = some other → known other := by
    intro other
    split
    · nofun
    · exact names.focused other
  cases stepped with
  | openedElsewhere idle unfocused => exact ⟨{ names with }, .nil⟩
  | opened here synced => exact synced.names { names with }
  | closedElsewhere idle => exact ⟨{ names with focused := unfocused _ }, .nil⟩
  | closed held synced => exact synced.names { names with focused := unfocused _ }
  | changedUnknown unknown => exact ⟨names, .nil⟩
  | changedText mirrored applied untouched => exact ⟨{ names with }, .nil⟩
  | changedTree mirrored applied held some_change => exact ⟨{ names with }, .signal told⟩
  | focused synced => exact synced.names { names with focused := told }
  | visibilitySame same => exact ⟨names, .nil⟩
  | hidden visible synced => exact synced.names { names with }
  | shown hidden synced revealed =>
    obtain ⟨middle, first⟩ := synced.names { names with }
    obtain ⟨last, second⟩ := revealed.names middle
    exact ⟨last, first.append second⟩
  | selectedHidden hidden => exact ⟨{ names with }, .nil⟩
  | selected visible revealed => exact revealed.names { names with }

theorem names_of_run {compiler : Compiler} {policy : ReparsePolicy} {events : List Event}
    (ran : (new compiler policy).run P events = .ok (s, effects))
    (told : ∀ e ∈ events, ∀ id, e.document? = some id → known id) : s.Names known := by
  refine run_invariant
    (fun events s _ => (∀ e ∈ events, ∀ id, e.document? = some id → known id) → s.Names known)
    (fun _ => names_new known compiler policy) ?_ ran told
  intro events s _ e s' _ earlier stepped told
  have names := earlier fun e mem => told e (List.mem_append_left _ mem)
  exact (stepped.names names (told e (List.mem_append_right _ (List.mem_singleton_self e)))).1

end Session

end SyntaxPanel
