/-! The ways an operation can break down for good.
A fault is not an error for the user: it means that a caller broke a promise, for
instance that an offset lies between two characters. -/
namespace SyntaxPanel

inductive Fault where
  | insideCharacter
  | pastEnd
  | reversedSpan
  | negative
deriving DecidableEq, Repr

/-- The distance from `b` up to `a`, which may not be negative. -/
def distance? (a b : Nat) : Except Fault Nat :=
  if b ≤ a then .ok (a - b) else .error .negative

theorem bind_eq_ok {ε α β : Type} {x : Except ε α} {f : α → Except ε β} {b : β} :
    x >>= f = .ok b ↔ ∃ a, x = .ok a ∧ f a = .ok b := by
  cases x with
  | error e => exact ⟨nofun, fun ⟨_, impossible, _⟩ => nomatch impossible⟩
  | ok a => exact ⟨fun h => ⟨a, rfl, h⟩, fun ⟨_, same, h⟩ => by cases same; exact h⟩

theorem bind_both_eq_ok {ε α β γ δ ζ : Type} {x : Except ε (α × β)} {y : α → Except ε (γ × δ)}
    {f : β → δ → ζ} {c : γ} {out : ζ} :
    (do
      let (a, b) ← x
      let (c, d) ← y a
      return (c, f b d)) = .ok (c, out) ↔
      ∃ a b d, x = .ok (a, b) ∧ y a = .ok (c, d) ∧ out = f b d := by
  simp only [bind_eq_ok]
  constructor
  · rintro ⟨⟨a, b⟩, first, ⟨c, d⟩, second, result⟩
    cases result
    exact ⟨a, b, d, first, second, rfl⟩
  · rintro ⟨a, b, d, first, second, rfl⟩
    exact ⟨(a, b), first, (c, d), second, rfl⟩

theorem forM_eq_ok_iff {ε α : Type} {f : α → Except ε Unit} {xs : List α} :
    xs.forM f = .ok () ↔ ∀ x ∈ xs, f x = .ok () := by
  induction xs with
  | nil => simp [List.forM, pure, Except.pure]
  | cons x xs ih =>
    change (f x >>= fun _ => xs.forM f) = _ ↔ _
    rw [bind_eq_ok, List.forall_mem_cons, ← ih]
    exact ⟨fun ⟨_, first, others⟩ => ⟨first, others⟩, fun ⟨first, others⟩ => ⟨(), first, others⟩⟩

end SyntaxPanel
