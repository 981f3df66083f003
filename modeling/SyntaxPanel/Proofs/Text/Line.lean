import Mathlib.Data.List.DropRight
import Mathlib.Data.List.Induction
import SyntaxPanel.Proofs.Document.Splice

namespace SyntaxPanel.Text

def StartsLine (before : List Char) : Prop := before = [] ∨ ∃ earlier, before = earlier ++ ['\n']

def EndsLine (after : List Char) : Prop := after = [] ∨ ∃ later, after = '\n' :: later

/-- `line`, without the `'\n'` that may end it, is the line behind `before`. -/
structure LineAt (cs before line after : List Char) : Prop where
  parts : cs = before ++ line ++ after
  starts : StartsLine before
  unbroken : '\n' ∉ line
  ends : EndsLine after

theorem count_append_unbroken (before : List Char) {left : List Char} (unbroken : '\n' ∉ left) :
    (before ++ left).count '\n' = before.count '\n' := by
  rw [List.count_append, List.count_eq_zero_of_not_mem unbroken, Nat.add_zero]

theorem exists_startsLine (cs : List Char) :
    ∃ before left, cs = before ++ left ∧ StartsLine before ∧ '\n' ∉ left := by
  induction cs using List.reverseRecOn with
  | nil => exact ⟨[], [], rfl, .inl rfl, List.not_mem_nil⟩
  | append_singleton cs c ih =>
    by_cases terminator : c = '\n'
    · exact ⟨cs ++ [c], [], by simp, .inr ⟨cs, by rw [terminator]⟩, List.not_mem_nil⟩
    · obtain ⟨before, left, rfl, starts, unbroken⟩ := ih
      refine ⟨before, left ++ [c], by simp, starts, ?_⟩
      simp [unbroken, Ne.symm terminator]

theorem exists_endsLine (cs : List Char) :
    ∃ right after, cs = right ++ after ∧ '\n' ∉ right ∧ EndsLine after := by
  induction cs with
  | nil => exact ⟨[], [], rfl, List.not_mem_nil, .inl rfl⟩
  | cons c cs ih =>
    by_cases terminator : c = '\n'
    · exact ⟨[], c :: cs, rfl, List.not_mem_nil, .inr ⟨cs, by rw [terminator]⟩⟩
    · obtain ⟨right, after, rfl, unbroken, ends⟩ := ih
      refine ⟨c :: right, after, rfl, ?_, ends⟩
      simp [unbroken, Ne.symm terminator]

theorem LineAt.unbroken_left {cs before left right after : List Char}
    (found : LineAt cs before (left ++ right) after) : '\n' ∉ left :=
  fun mem => found.unbroken (List.mem_append_left _ mem)

theorem exists_lineAt (a b : List Char) : ∃ before left right after,
    a = before ++ left ∧ LineAt (a ++ b) before (left ++ right) after := by
  obtain ⟨before, left, rfl, starts, unbroken⟩ := exists_startsLine a
  obtain ⟨right, after, rfl, unbroken', ends⟩ := exists_endsLine b
  refine ⟨before, left, right, after, rfl, by simp, starts, ?_, ends⟩
  simp [unbroken, unbroken']

theorem exists_prefix_count {cs : List Char} {n : Nat} (le : n ≤ cs.count '\n') :
    ∃ a b, cs = a ++ b ∧ a.count '\n' = n := by
  induction cs generalizing n with
  | nil => exact ⟨[], [], rfl, (Nat.le_zero.mp le).symm⟩
  | cons c cs ih =>
    cases n with
    | zero => exact ⟨[], c :: cs, rfl, rfl⟩
    | succ n =>
      by_cases terminator : c = '\n'
      · subst terminator
        rw [List.count_cons_self] at le
        obtain ⟨a, b, rfl, many⟩ := ih (Nat.le_of_succ_le_succ le)
        exact ⟨'\n' :: a, b, rfl, by rw [List.count_cons_self, many]⟩
      · rw [List.count_cons_of_ne terminator] at le
        obtain ⟨a, b, rfl, many⟩ := ih le
        exact ⟨c :: a, b, rfl, by rw [List.count_cons_of_ne terminator, many]⟩

theorem exists_lineAt_of_le {cs : List Char} {n : Nat} (le : n ≤ cs.count '\n') :
    ∃ before line after, LineAt cs before line after ∧ before.count '\n' = n := by
  obtain ⟨a, b, rfl, many⟩ := exists_prefix_count le
  obtain ⟨before, left, right, after, rfl, found⟩ := exists_lineAt a b
  refine ⟨before, left ++ right, after, found, ?_⟩
  rwa [count_append_unbroken before found.unbroken_left] at many

theorem lines_append {before : List Char} (starts : StartsLine before) (after : List Char) :
    ∃ ls, lines (before ++ after) = ls ++ lines after ∧ ls.flatten = before ∧
      ls.length = before.count '\n' := by
  rcases starts with rfl | ⟨earlier, rfl⟩
  · exact ⟨[], rfl, rfl, rfl⟩
  · induction earlier with
    | nil => exact ⟨[['\n']], by simp [lines], rfl, rfl⟩
    | cons c earlier ih =>
      obtain ⟨ls, cut, whole, many⟩ := ih
      by_cases terminator : c = '\n'
      · subst terminator
        exact ⟨['\n'] :: ls, by simpa [lines] using cut, by simp [whole], by simp [many]⟩
      · -- The character joins the first of the lines, and there is one.
        cases ls with
        | nil => simp at many
        | cons first ls =>
          refine ⟨(c :: first) :: ls, ?_, ?_, ?_⟩
          · rw [List.cons_append, List.cons_append, lines, if_neg terminator, cut]
            rfl
          · simpa using whole
          · rw [List.cons_append, List.count_cons_of_ne terminator]
            exact many

theorem lines_unbroken {line : List Char} (unbroken : '\n' ∉ line) {after : List Char}
    (ends : EndsLine after) :
    ∃ others, lines (line ++ after) = (line ++ after.take 1) :: others := by
  induction line with
  | nil =>
    rcases ends with rfl | ⟨later, rfl⟩
    · exact ⟨[], rfl⟩
    · exact ⟨lines later, by simp [lines]⟩
  | cons c line ih =>
    obtain ⟨terminator, unbroken'⟩ := not_or.mp (mt List.mem_cons.mpr unbroken)
    obtain ⟨others, cut⟩ := ih unbroken'
    exact ⟨others, by simp [lines, cut, Ne.symm terminator]⟩

theorem length_lines (cs : List Char) : (lines cs).length = cs.count '\n' + 1 := by
  induction cs with
  | nil => rfl
  | cons c cs ih =>
    by_cases terminator : c = '\n'
    · subst terminator
      simp [lines, ih]
    · cases cut : lines cs with
      | nil => exact absurd cut (lines_ne_nil cs)
      | cons first others =>
        rw [lines, if_neg terminator, cut, List.count_cons_of_ne terminator, ← ih, cut]
        rfl

section LineAt

variable {cs before line after : List Char}

theorem LineAt.getElem?_lines (found : LineAt cs before line after) :
    (lines cs)[before.count '\n']? = some (line ++ after.take 1) := by
  obtain ⟨ls, cut, -, many⟩ := lines_append found.starts (line ++ after)
  obtain ⟨others, here⟩ := lines_unbroken found.unbroken found.ends
  rw [found.parts, List.append_assoc, cut, here, ← many, List.getElem?_append_right (Nat.le_refl _),
    Nat.sub_self, List.getElem?_cons_zero]

theorem LineAt.lineStart_eq (found : LineAt cs before line after) :
    lineStart cs (before.count '\n') = bytes before := by
  obtain ⟨ls, cut, whole, many⟩ := lines_append found.starts (line ++ after)
  rw [lineStart, found.parts, List.append_assoc, cut, ← many, List.take_left, whole]

end LineAt

theorem rtakeWhile_of_startsLine {before left : List Char} (starts : StartsLine before)
    (unbroken : '\n' ∉ left) : (before ++ left).rtakeWhile (· != '\n') = left := by
  induction left using List.reverseRecOn with
  | nil =>
    rcases starts with rfl | ⟨earlier, rfl⟩
    · rfl
    · rw [List.append_nil]
      exact List.rtakeWhile_concat_neg _ earlier '\n' (by decide)
  | append_singleton left c ih =>
    simp only [List.mem_append, List.mem_singleton, not_or] at unbroken
    obtain ⟨unbroken, terminator⟩ := unbroken
    rw [← List.append_assoc, List.rtakeWhile_concat_pos _ _ _ (by simpa using Ne.symm terminator),
      ih unbroken]

/-- The point behind a text: how many `'\n'` there are in it, and how many bytes since the last. -/
def endPoint (cs : List Char) : Point := ⟨cs.count '\n', bytes (cs.rtakeWhile (· != '\n'))⟩

theorem origin_past_eq (cs : List Char) : Point.origin.past cs = endPoint cs := by
  induction cs using List.reverseRecOn with
  | nil => rfl
  | append_singleton cs c ih =>
    rw [Point.past_append, ih, endPoint, endPoint]
    by_cases terminator : c = '\n'
    · subst terminator
      rw [List.rtakeWhile_concat_neg _ cs '\n' (by decide), List.count_append]
      rfl
    · rw [List.rtakeWhile_concat_pos _ _ _ (by simpa using terminator), List.count_append,
        bytes_append]
      simp [Point.past, Point.after, terminator, bytes]

theorem content_eq_rdropWhile (line : List Char) : content line = line.rdropWhile isTerminator := by
  induction line with
  | nil => rfl
  | cons c line ih =>
    rw [content, ih, List.rdropWhile, List.rdropWhile, List.reverse_cons, List.dropWhile_append]
    by_cases blank : line.reverse.dropWhile isTerminator = []
    · by_cases terminator : isTerminator c <;> simp [blank, terminator]
    · simp [blank]

theorem LineAt.content_eq {cs before line after : List Char} (found : LineAt cs before line after) :
    content (line ++ after.take 1) = line.rdropWhile isTerminator := by
  rw [content_eq_rdropWhile]
  rcases found.ends with rfl | ⟨later, rfl⟩
  · simp
  · exact List.rdropWhile_concat_pos isTerminator line '\n' rfl

end SyntaxPanel.Text
