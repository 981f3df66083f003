import SyntaxPanel.Proofs.Panel.Coherence

namespace SyntaxPanel

def Config.outcome (config : Config) : Except UnknownCompiler Session :=
  (Compiler.resolve config.compiler).map fun compiler => Session.new compiler config.reparse

namespace Shell

def outcome? : Shell → Option (Except UnknownCompiler Session)
  | inactive => none
  | unavailable reason => some (.error reason)
  | active s => some (.ok s)

inductive Call where
  | activate (config : Config)
  | event (e : Event)
deriving DecidableEq, Repr

inductive Reply where
  | activated (outcome : Option (Except UnknownCompiler Session))
  | told (effects : List Effect)

def Call.event? : Call → Option Event
  | activate _ => none
  | event e => some e

def events (calls : List Call) : List Event := calls.filterMap Call.event?

def call (P : Parser) (sh : Shell) : Call → Except Fault (Shell × Reply)
  | .activate config => .ok (sh.activate config, .activated (sh.activate config).outcome?)
  | .event e => do
    let (sh, effects) ← sh.step P e
    return (sh, .told effects)

def run (P : Parser) (sh : Shell) : List Call → Except Fault (Shell × List Reply)
  | [] => .ok (sh, [])
  | c :: rest => do
    let (sh, reply) ← sh.call P c
    let (sh, replies) ← sh.run P rest
    return (sh, reply :: replies)

/-- What some events make of an outcome: a failure stays what it is, and a session goes on. -/
inductive Became (P : Parser) (events : List Event) :
    Except UnknownCompiler Session → Except UnknownCompiler Session → Prop where
  | failed (reason : UnknownCompiler) : Became P events (.error reason) (.error reason)
  | served {s s' : Session} {effects : List Effect} (ran : s.run P events = .ok (s', effects)) :
      Became P events (.ok s) (.ok s')

variable {P : Parser} {sh sh' : Shell} {o o' : Except UnknownCompiler Session}

theorem Became.refl (P : Parser) (o : Except UnknownCompiler Session) : Became P [] o o := by
  cases o with
  | error reason => exact .failed reason
  | ok s => exact .served rfl

theorem Became.trans {front back : List Event} {o'' : Except UnknownCompiler Session}
    (first : Became P front o o') (second : Became P back o' o'') :
    Became P (front ++ back) o o'' := by
  cases first with
  | failed reason =>
    cases second
    exact .failed reason
  | served ran =>
    cases second with
    | served ran' => exact .served (Session.run_append_ok.mpr ⟨_, _, _, ran, ran', rfl⟩)

theorem Became.choices {config : Config} {events : List Event} {s : Session}
    (became : Became P events config.outcome (.ok s)) :
    Compiler.resolve config.compiler = .ok s.view.compiler ∧ s.policy = config.reparse := by
  unfold Config.outcome at became
  cases found : Compiler.resolve config.compiler with
  | error reason =>
    rw [found] at became
    cases became
  | ok compiler =>
    rw [found] at became
    cases became with
    | served ran =>
      obtain ⟨policy, same⟩ := Session.choices_of_run ran
      rw [same]
      exact ⟨rfl, policy⟩

theorem outcome?_eq_none_iff : sh.outcome? = none ↔ sh = inactive := by
  cases sh <;> simp [outcome?]

theorem eq_of_outcome? (first : sh.outcome? = some o) (second : sh'.outcome? = some o) :
    sh = sh' := by
  cases sh <;> cases sh' <;> cases first <;> cases second <;> rfl

theorem state_inactive_iff : sh.state = .inactive ↔ sh = inactive := by
  cases sh with
  | inactive => simp [state]
  | unavailable reason => simp [state]
  | active s => simp only [state]; split <;> simp

theorem state_unavailable_iff : sh.state = .unavailable ↔ ∃ reason, sh = unavailable reason := by
  cases sh with
  | inactive => simp [state]
  | unavailable reason => simp [state]
  | active s => simp only [state]; split <;> simp

theorem state_withDocument_iff :
    sh.state = .withDocument ↔ ∃ s id, sh.session? = some s ∧ s.active = some id := by
  cases sh with
  | inactive => simp [state, session?]
  | unavailable reason => simp [state, session?]
  | active s => simp [state, session?, Option.isSome_iff_exists]

theorem outcome?_activate_inactive (config : Config) :
    (inactive.activate config).outcome? = some config.outcome := by
  unfold activate Config.outcome
  cases Compiler.resolve config.compiler <;> rfl

theorem activate_of_outcome? (started : sh.outcome? = some o) (config : Config) :
    sh.activate config = sh := by
  cases sh with
  | inactive => cases started
  | unavailable reason => rfl
  | active s => rfl

theorem call_of_outcome? {c : Call} {reply : Reply} (started : sh.outcome? = some o)
    (called : sh.call P c = .ok (sh', reply)) :
    ∃ o', sh'.outcome? = some o' ∧ Became P (events [c]) o o' ∧
      ∀ config, c = .activate config → reply = .activated (some o') := by
  cases c with
  | activate config =>
    -- Nothing happens here but that the outcome is told again.
    have same := activate_of_outcome? started config
    simp only [call, same, started] at called
    cases called
    exact ⟨o, started, .refl P o, fun _ _ => rfl⟩
  | event e =>
    cases sh with
    | inactive => cases started
    | unavailable reason =>
      cases started
      cases called
      exact ⟨.error reason, rfl, .failed reason, nofun⟩
    | active s =>
      cases started
      simp only [call, step, bind_eq_ok] at called
      obtain ⟨_, ⟨⟨s', effects⟩, stepped, moved⟩, result⟩ := called
      cases moved
      cases result
      exact ⟨.ok s', rfl,
        .served (Session.run_cons_ok.mpr ⟨s', effects, [], stepped, rfl, rfl⟩), nofun⟩

theorem run_cons_ok {c : Call} {rest : List Call} {replies : List Reply} :
    sh.run P (c :: rest) = .ok (sh', replies) ↔
      ∃ middle reply later, sh.call P c = .ok (middle, reply) ∧
        middle.run P rest = .ok (sh', later) ∧ replies = reply :: later :=
  bind_both_eq_ok (x := sh.call P c) (y := fun sh => sh.run P rest) (f := List.cons)

theorem run_of_outcome? {calls : List Call} {replies : List Reply} (started : sh.outcome? = some o)
    (ran : sh.run P calls = .ok (sh', replies)) :
    (∃ o', sh'.outcome? = some o' ∧ Became P (events calls) o o') ∧
    ∀ before config after, calls = before ++ .activate config :: after →
      ∃ o', replies[before.length]? = some (.activated (some o')) ∧
        Became P (events before) o o' := by
  -- The outcome is generalized, since the rest of the calls finds what the first one left.
  induction calls generalizing sh o replies with
  | nil =>
    cases ran
    refine ⟨⟨o, started, .refl P o⟩, ?_⟩
    intro before config after parts
    cases before <;> cases parts
  | cons c rest ih =>
    obtain ⟨middle, reply, later, called, others, rfl⟩ := run_cons_ok.mp ran
    obtain ⟨o₁, started₁, first, answered⟩ := call_of_outcome? started called
    obtain ⟨⟨o', outcome, became⟩, each⟩ := ih started₁ others
    have split (row : List Call) : events (c :: row) = events [c] ++ events row :=
      List.filterMap_append (l := [c])
    refine ⟨⟨o', outcome, split rest ▸ first.trans became⟩, ?_⟩
    intro before config after parts
    cases before with
    | nil =>
      obtain ⟨rfl, rfl⟩ := List.cons.inj parts
      exact ⟨o₁, congrArg some (answered config rfl), first⟩
    | cons _ before =>
      obtain ⟨rfl, others⟩ := List.cons.inj parts
      obtain ⟨o₂, there, became'⟩ := each before config after others
      exact ⟨o₂, there, split before ▸ first.trans became'⟩

theorem run_inactive {before rest : List Call} {replies : List Reply}
    (unasked : ∀ config, .activate config ∉ before)
    (ran : inactive.run P (before ++ rest) = .ok (sh, replies)) :
    ∃ later, inactive.run P rest = .ok (sh, later) ∧
      replies = before.map (fun _ => .told []) ++ later := by
  induction before generalizing replies with
  | nil => exact ⟨replies, ran, rfl⟩
  | cons c before ih =>
    obtain ⟨middle, reply, later, called, others, rfl⟩ := run_cons_ok.mp ran
    cases c with
    | activate config => exact absurd List.mem_cons_self (unasked config)
    | event e =>
      cases called
      obtain ⟨back, ran', rfl⟩ :=
        ih (fun config mem => unasked config (List.mem_cons_of_mem _ mem)) others
      exact ⟨back, ran', rfl⟩

theorem run_activate (P : Parser) (config : Config) (after : List Call) :
    inactive.run P (.activate config :: after) =
      (inactive.activate config).run P (.activate config :: after) := by
  have again := activate_of_outcome? (outcome?_activate_inactive config) config
  simp only [run, call, again]

theorem started_of_run {config : Config} {after : List Call} {replies : List Reply}
    (ran : inactive.run P (.activate config :: after) = .ok (sh, replies)) :
    (∃ o, sh.outcome? = some o ∧ Became P (events after) config.outcome o) ∧
    ∀ between again later, .activate config :: after = between ++ .activate again :: later →
      ∃ o, replies[between.length]? = some (.activated (some o)) ∧
        Became P (events between) config.outcome o :=
  run_of_outcome? (outcome?_activate_inactive config) (run_activate P config after ▸ ran)

theorem eq_inactive_iff_of_run {calls : List Call} {replies : List Reply}
    (ran : inactive.run P calls = .ok (sh, replies)) :
    sh = inactive ↔ ∀ config, .activate config ∉ calls := by
  induction calls generalizing replies with
  | nil =>
    cases ran
    simp
  | cons c rest ih =>
    cases c with
    | activate config =>
      obtain ⟨⟨o, outcome, -⟩, -⟩ := started_of_run ran
      constructor
      · rintro rfl
        cases outcome
      · intro unasked
        exact absurd List.mem_cons_self (unasked config)
    | event e =>
      obtain ⟨_, _, later, called, others, -⟩ := run_cons_ok.mp ran
      cases called
      simpa using ih others

theorem stays_of_run {calls : List Call} {replies : List Reply}
    (ran : sh.run P calls = .ok (sh', replies)) :
    (sh ≠ inactive → sh' ≠ inactive) ∧
    ∀ reason, sh = unavailable reason → sh' = unavailable reason := by
  constructor
  · intro started
    obtain ⟨o, outcome⟩ := Option.ne_none_iff_exists'.mp (mt outcome?_eq_none_iff.mp started)
    obtain ⟨⟨o', outcome', -⟩, -⟩ := run_of_outcome? outcome ran
    exact mt outcome?_eq_none_iff.mpr (by simp [outcome'])
  · rintro reason rfl
    obtain ⟨⟨o', outcome', became⟩, -⟩ := run_of_outcome? (o := .error reason) rfl ran
    cases became
    exact eq_of_outcome? outcome' rfl

/-- The panel is inactive up to the first activation. From then on the outcome is that of its
configuration, with the events since, and every activation is answered with it. One that comes
later leaves the panel as it is. -/
theorem activated_once {calls : List Call} {replies : List Reply}
    (ran : inactive.run P calls = .ok (sh, replies)) :
    (sh.state = .inactive ↔ ∀ config, .activate config ∉ calls) ∧
    (∀ before config after, calls = before ++ .activate config :: after →
      (∀ other, .activate other ∉ before) →
        (∃ o, sh.outcome? = some o ∧ Became P (events after) config.outcome o) ∧
        (∀ s, sh.session? = some s →
          Compiler.resolve config.compiler = .ok s.view.compiler ∧ s.policy = config.reparse) ∧
        ∀ between again later, .activate config :: after = between ++ .activate again :: later →
          ∃ o, replies[(before ++ between).length]? = some (.activated (some o)) ∧
            Became P (events between) config.outcome o) ∧
    (∀ again, ∃ next o, sh.call P (.activate again) = .ok (next, .activated (some o)) ∧
      next.outcome? = some o ∧ (sh.state ≠ .inactive → next = sh)) ∧
    (∀ more later replies', sh.run P more = .ok (later, replies') →
      (sh.state ≠ .inactive → later.state ≠ .inactive) ∧
      (sh.state = .unavailable → later = sh)) ∧
    (sh.state = .withDocument ↔ ∃ s id, sh.session? = some s ∧ s.active = some id) := by
  refine ⟨?_, ?_, ?_, ?_, state_withDocument_iff⟩
  · rw [state_inactive_iff]
    exact eq_inactive_iff_of_run ran
  · rintro before config after rfl unasked
    obtain ⟨later, ran', rfl⟩ := run_inactive unasked ran
    obtain ⟨⟨o, outcome, became⟩, each⟩ := started_of_run ran'
    refine ⟨⟨o, outcome, became⟩, ?_, ?_⟩
    · intro s serving
      cases sh with
      | inactive => cases serving
      | unavailable reason => cases serving
      | active s =>
        cases serving
        cases outcome
        exact became.choices
    · intro between again rest parts
      obtain ⟨o, there, became⟩ := each between again rest parts
      refine ⟨o, ?_, became⟩
      rw [List.length_append, List.getElem?_append_right (by simp)]
      simpa using there
  · intro again
    cases sh with
    | inactive =>
      refine ⟨inactive.activate again, again.outcome, ?_, outcome?_activate_inactive again, ?_⟩
      · rw [call, outcome?_activate_inactive]
      · exact fun started => absurd rfl started
    | unavailable reason => exact ⟨_, _, rfl, rfl, fun _ => rfl⟩
    | active s => exact ⟨_, _, rfl, rfl, fun _ => rfl⟩
  · intro more later replies' ran'
    obtain ⟨started, failed⟩ := stays_of_run ran'
    simp only [ne_eq, state_inactive_iff, state_unavailable_iff]
    refine ⟨started, ?_⟩
    rintro ⟨reason, rfl⟩
    exact failed reason rfl

def insistent : List Call :=
  [.event (.visibility true), .activate {}, .event (.opened "a" "a.ts" "x"),
    .activate { compiler := "javascript", reparse := .full }, .event (.focused (some "a")),
    .event (.visibility true), .activate { compiler := "flow" }]

theorem activated_once_insistent :
    (∃ sh replies s o, inactive.run .letters insistent = .ok (sh, replies) ∧
      sh.session? = some s ∧ s.active = some "a" ∧ s.view.compiler = .typescript ∧
      s.policy = .incremental ∧ replies[6]? = some (.activated (some o)) ∧
      Became .letters [.opened "a" "a.ts" "x", .focused (some "a"), .visibility true]
        (.ok (Session.new .typescript .incremental)) o) ∧
    ∃ sh replies, inactive.run .letters (.activate { compiler := "flow" } :: insistent) =
        .ok (sh, replies) ∧ sh = .unavailable ⟨"flow"⟩ ∧
      replies[2]? = some (.activated (some (.error ⟨"flow"⟩))) := by
  constructor
  · obtain ⟨s, replies, ran, active⟩ : ∃ s replies,
        inactive.run .letters insistent = .ok (.active s, replies) ∧ s.active = some "a" :=
      ⟨_, _, rfl, rfl⟩
    obtain ⟨-, first, -⟩ := activated_once ran
    obtain ⟨-, choices, each⟩ := first [.event (.visibility true)] {} _ rfl (by simp)
    obtain ⟨resolved, policy⟩ := choices s rfl
    obtain ⟨o, there, became⟩ := each (insistent.tail.take 5) _ [] rfl
    exact ⟨_, replies, s, o, ran, rfl, active, (Except.ok.inj resolved).symm, policy, there, became⟩
  · obtain ⟨sh, replies, ran⟩ : ∃ sh replies,
        inactive.run .letters (.activate { compiler := "flow" } :: insistent) = .ok (sh, replies) :=
      ⟨_, _, rfl⟩
    obtain ⟨-, first, -⟩ := activated_once ran
    obtain ⟨⟨o, outcome, became⟩, -, each⟩ := first [] { compiler := "flow" } _ rfl (by simp)
    obtain ⟨o', there, became'⟩ :=
      each (.activate { compiler := "flow" } :: insistent.take 1) {} _ rfl
    cases became
    cases became'
    exact ⟨sh, replies, ran, eq_of_outcome? outcome rfl, there⟩

end Shell

end SyntaxPanel
