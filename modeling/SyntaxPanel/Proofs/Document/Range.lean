import SyntaxPanel.Proofs.Document.Splice

namespace SyntaxPanel

namespace Text

theorem boundary_iff {cs : List Char} {n : Nat} :
    Boundary cs n ↔ (splitAt? cs n).isSome = true := by
  rw [Option.isSome_iff_exists]
  constructor
  · rintro ⟨before, after, parts, size⟩
    exact ⟨(before, after), splitAt?_eq_some_iff.mpr ⟨parts, size⟩⟩
  · rintro ⟨⟨before, after⟩, split⟩
    obtain ⟨parts, size⟩ := splitAt?_eq_some_iff.mp split
    exact ⟨before, after, parts, size⟩

instance (cs : List Char) (n : Nat) : Decidable (Boundary cs n) :=
  decidable_of_iff _ boundary_iff.symm

theorem pointFrom_ok_iff {p : Point} {cs : List Char} {n : Nat} :
    (∃ q, pointFrom p cs n = .ok q) ↔ Boundary cs n := by
  rw [boundary_iff]
  induction cs generalizing p n with
  | nil => cases n <;> simp [pointFrom, splitAt?]
  | cons c cs ih =>
    cases n with
    | zero => simp [pointFrom, splitAt?]
    | succ n =>
      by_cases fits : c.utf8Size ≤ n + 1
      · simp only [pointFrom, splitAt?, if_pos fits, ih, Option.isSome_map]
      · simp [pointFrom, splitAt?, if_neg fits]

end Text

open Text (Boundary)

namespace Document

theorem point_ok_iff {d : Document} {n : Nat} :
    (∃ p, d.point n = .ok p) ↔ Boundary d.chars n := Text.pointFrom_ok_iff

theorem position_ok_iff_clamped {d : Document} {n : Nat} :
    (∃ p, d.position n = .ok p) ↔ Boundary d.chars (min n d.length) := by
  rw [← point_ok_iff]
  unfold position
  cases d.point (min n d.length) with
  | error f => constructor <;> exact fun ⟨_, impossible⟩ => nomatch impossible
  | ok p => exact ⟨fun _ => ⟨p, rfl⟩, fun _ => ⟨_, rfl⟩⟩

theorem position_ok_iff {d : Document} {n : Nat} :
    (∃ p, d.position n = .ok p) ↔ d.length ≤ n ∨ Boundary d.chars n := by
  rw [position_ok_iff_clamped]
  by_cases past : d.length ≤ n
  · rw [Nat.min_eq_right past]
    exact ⟨fun _ => .inl past, fun _ => Text.boundary_end d.chars⟩
  · rw [Nat.min_eq_left (Nat.le_of_not_le past)]
    simp only [past, false_or]

theorem range_eq_ok_iff {d : Document} {s : Span} {r : Range} :
    d.range s = .ok r ↔ d.position s.start = .ok r.start ∧ d.position s.stop = .ok r.stop := by
  simp only [range, bind_eq_ok]
  constructor
  · rintro ⟨start, first, stop, last, result⟩
    cases result
    exact ⟨first, last⟩
  · rintro ⟨first, last⟩
    exact ⟨r.start, first, r.stop, last, rfl⟩

theorem range_ok {d : Document} {s : Span} (start : Boundary d.chars s.start)
    (stop : Boundary d.chars s.stop) : ∃ r, d.range s = .ok r := by
  obtain ⟨first, told⟩ := position_ok_iff.mpr (.inr start)
  obtain ⟨last, told'⟩ := position_ok_iff.mpr (.inr stop)
  exact ⟨⟨first, last⟩, range_eq_ok_iff.mpr ⟨told, told'⟩⟩

end Document

end SyntaxPanel
