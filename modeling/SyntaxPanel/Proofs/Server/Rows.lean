import SyntaxPanel.Proofs.Panel.Run
import SyntaxPanel.Server

namespace SyntaxPanel.Server

variable {P : Parser}

theorem run_cons_ok {s s' : Server} {m : Message} {rest : List Message}
    {sent : List (List Outgoing)} : s.run P (m :: rest) = .ok (s', sent) ↔
      ∃ middle first later, s.step P m = .ok (middle, first) ∧
        middle.run P rest = .ok (s', later) ∧ sent = first :: later :=
  bind_both_eq_ok (x := s.step P m) (y := fun s => s.run P rest) (f := List.cons)

theorem run_append_ok {s s' : Server} {before after : List Message}
    {sent : List (List Outgoing)} : s.run P (before ++ after) = .ok (s', sent) ↔
      ∃ middle front back, s.run P before = .ok (middle, front) ∧
        middle.run P after = .ok (s', back) ∧ sent = front ++ back := by
  induction before generalizing s sent with
  | nil =>
    constructor
    · exact fun ran => ⟨s, [], sent, rfl, ran, rfl⟩
    · rintro ⟨_, _, _, nothing, ran, rfl⟩
      cases nothing
      exact ran
  | cons m before ih =>
    simp only [List.cons_append, run_cons_ok, ih]
    constructor
    · rintro ⟨first, out, _, stepped, ⟨middle, front, back, ran, rest, rfl⟩, rfl⟩
      exact ⟨middle, out :: front, back, ⟨first, out, front, stepped, ran, rfl⟩, rest, rfl⟩
    · rintro ⟨middle, _, back, ⟨first, out, front, stepped, ran, rfl⟩, rest, rfl⟩
      exact ⟨first, out, front ++ back, stepped, ⟨middle, front, back, ran, rest, rfl⟩, rfl⟩

theorem run_snoc_ok {s s' : Server} {messages : List Message} {m : Message}
    {sent : List (List Outgoing)} : s.run P (messages ++ [m]) = .ok (s', sent) ↔
      ∃ middle front out, s.run P messages = .ok (middle, front) ∧
        middle.step P m = .ok (s', out) ∧ sent = front ++ [out] := by
  have single (middle : Server) (back : List (List Outgoing)) :
      middle.run P [m] = .ok (s', back) ↔
        ∃ out, middle.step P m = .ok (s', out) ∧ back = [out] := by
    rw [run_cons_ok]
    constructor
    · rintro ⟨_, out, _, stepped, nothing, rfl⟩
      cases nothing
      exact ⟨out, stepped, rfl⟩
    · rintro ⟨out, stepped, rfl⟩
      exact ⟨s', out, [], stepped, rfl, rfl⟩
  simp only [run_append_ok, single]
  constructor
  · rintro ⟨middle, front, _, ran, ⟨out, stepped, rfl⟩, rfl⟩
    exact ⟨middle, front, out, ran, stepped, rfl⟩
  · rintro ⟨middle, front, out, ran, stepped, rfl⟩
    exact ⟨middle, front, [out], ran, ⟨out, stepped, rfl⟩, rfl⟩

theorem length_of_run {s s' : Server} {messages : List Message} {sent : List (List Outgoing)}
    (ran : s.run P messages = .ok (s', sent)) : sent.length = messages.length := by
  induction messages generalizing s sent with
  | nil =>
    cases ran
    rfl
  | cons m rest ih =>
    obtain ⟨_, _, later, -, others, rfl⟩ := run_cons_ok.mp ran
    rw [List.length_cons, List.length_cons, ih others]

theorem run_invariant (holds : Server → Prop) {s s' : Server} {messages : List Message}
    {sent : List (List Outgoing)}
    (kept : ∀ m ∈ messages, ∀ s s' out, holds s → s.step P m = .ok (s', out) → holds s')
    (initial : holds s) (ran : s.run P messages = .ok (s', sent)) : holds s' := by
  induction messages generalizing s sent with
  | nil =>
    cases ran
    exact initial
  | cons m rest ih =>
    obtain ⟨middle, out, _, stepped, others, -⟩ := run_cons_ok.mp ran
    have next := kept m List.mem_cons_self s middle out initial stepped
    exact ih (fun m mem => kept m (List.mem_cons_of_mem _ mem)) next others

theorem run_split {s s' : Server} {before after : List Message} {m : Message}
    {sent : List (List Outgoing)} (ran : s.run P (before ++ m :: after) = .ok (s', sent)) :
    ∃ middle front next out later, s.run P before = .ok (middle, front) ∧
      middle.step P m = .ok (next, out) ∧ next.run P after = .ok (s', later) ∧
      sent = front ++ out :: later := by
  obtain ⟨middle, front, _, first, rest, rfl⟩ := run_append_ok.mp ran
  obtain ⟨next, out, later, stepped, others, rfl⟩ := run_cons_ok.mp rest
  exact ⟨middle, front, next, out, later, first, stepped, others, rfl⟩

theorem sent_at {s s' : Server} {before : List Message} {front later : List (List Outgoing)}
    (ran : s.run P before = .ok (s', front)) (out : List Outgoing) :
    (front ++ out :: later)[before.length]? = some out := by
  rw [← length_of_run ran, List.getElem?_append_right (Nat.le_refl _), Nat.sub_self,
    List.getElem?_cons_zero]

theorem run_at {s s' : Server} {before after : List Message} {m : Message}
    {sent : List (List Outgoing)} (ran : s.run P (before ++ m :: after) = .ok (s', sent)) :
    ∃ middle front next out, s.run P before = .ok (middle, front) ∧
      middle.step P m = .ok (next, out) ∧ sent[before.length]? = some out := by
  obtain ⟨middle, front, next, out, _, first, stepped, -, rfl⟩ := run_split ran
  exact ⟨middle, front, next, out, first, stepped, sent_at first out⟩

theorem run_ended (P : Parser) (error : Option ServerError) (messages : List Message) :
    (ended error).run P messages = .ok (ended error, messages.map fun _ => []) := by
  induction messages with
  | nil => rfl
  | cons m rest ih =>
    have stays : (ended error).step P m = .ok (ended error, []) := by simp only [step]
    simp only [run, stays, ih, bind, Except.bind, List.map_cons]
    rfl

end SyntaxPanel.Server
