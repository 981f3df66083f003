import SyntaxPanel.Proofs.Document.Range
import SyntaxPanel.Proofs.Text.Column

/-! Byte offsets and positions of a document, converted into each other.
A position tells the line and counts code units in it, so positions are in the order of their
offsets. Read as an offset again, a position between two characters is the place that it was told
of, or the end of its line's content if that comes first. A column past the content is that end as
well, as long as its byte column can be told. -/
namespace SyntaxPanel

open Text (Boundary LineAt StartsLine bytes units isTerminator columnLimit)

instance : LT Position :=
  ⟨fun p q => p.line < q.line ∨ p.line = q.line ∧ p.character < q.character⟩

instance : LE Position := ⟨fun p q => p < q ∨ p = q⟩

namespace Document

variable {d : Document} {before left right line after : List Char}

theorem offset_of_column (found : LineAt d.chars before line after) {character column : Nat}
    (told : Text.byteColumn? (line ++ after.take 1) character = some column) :
    d.offset ⟨before.count '\n', character⟩ =
      bytes before + bytes (Text.within (line.rdropWhile isTerminator) column) := by
  simp only [offset, found.getElem?_lines, told, found.lineStart_eq, found.content_eq]

theorem offset_of_no_column (found : LineAt d.chars before line after) {character : Nat}
    (untold : Text.byteColumn? (line ++ after.take 1) character = none) :
    d.offset ⟨before.count '\n', character⟩ = d.length := by
  simp only [offset, found.getElem?_lines, untold]

theorem offset_of_no_line {n : Nat} (past : d.chars.count '\n' < n) (character : Nat) :
    d.offset ⟨n, character⟩ = d.length := by
  have absent : (Text.lines d.chars)[n]? = none := by
    rw [List.getElem?_eq_none_iff, Text.length_lines]
    exact past
  simp only [offset, absent]

theorem bytes_line_le (found : LineAt d.chars before line after) : bytes line ≤ d.length := by
  rw [length, found.parts, Text.bytes_append, Text.bytes_append]
  omega

theorem position_append (parts : d.chars = before ++ left ++ right) (starts : StartsLine before)
    (unbroken : '\n' ∉ left) :
    d.position (bytes (before ++ left)) = .ok ⟨before.count '\n', units left⟩ := by
  obtain ⟨more, after, rfl, unbroken', ends⟩ := Text.exists_endsLine right
  have found : LineAt d.chars before (left ++ more) after :=
    ⟨by simp [parts], starts, by simp [unbroken, unbroken'], ends⟩
  have inside : bytes (before ++ left) ≤ d.length := by
    rw [length, parts, Text.bytes_append (before ++ left)]
    exact Nat.le_add_right _ _
  have point : d.point (bytes (before ++ left)) = .ok ⟨before.count '\n', bytes left⟩ := by
    rw [Document.point, parts, Text.point?_append, Text.origin_past_eq, Text.endPoint,
      Text.rtakeWhile_of_startsLine starts unbroken,
      Text.count_append_unbroken before unbroken]
  have column := Text.unitColumn_append left (more ++ after.take 1)
  rw [← List.append_assoc] at column
  rw [position, Nat.min_eq_left inside, point]
  simp only [bind, Except.bind, pure, Except.pure, found.getElem?_lines, Option.getD_some, column]

theorem offset_units (fits : d.length ≤ columnLimit)
    (found : LineAt d.chars before (left ++ right) after) :
    d.offset ⟨before.count '\n', units left⟩ =
      min (bytes (before ++ left))
        (bytes before + bytes ((left ++ right).rdropWhile isTerminator)) := by
  have inside : bytes left ≤ columnLimit := by
    have le := bytes_line_le found
    rw [Text.bytes_append] at le
    omega
  have column := Text.byteColumn?_append left (right ++ after.take 1) inside
  rw [← List.append_assoc] at column
  have cut := Text.bytes_within_of_prefix (List.rdropWhile_prefix isTerminator (left ++ right))
    (List.prefix_append left right)
  rw [offset_of_column found column, cut, Text.bytes_append, Nat.add_min_add_left]

theorem offset_past_line (found : LineAt d.chars before line after) {character : Nat}
    (past : units (line.rdropWhile isTerminator) ≤ character) (told : character ≤ columnLimit) :
    d.offset ⟨before.count '\n', character⟩ =
      if character + bytes (line.rdropWhile isTerminator) ≤
          columnLimit + units (line.rdropWhile isTerminator) then
        bytes before + bytes (line.rdropWhile isTerminator)
      else d.length := by
  obtain ⟨n, rfl⟩ := Nat.exists_eq_add_of_le past
  have column := found.byteColumn?_past told
  split
  · rename_i fits
    rw [if_pos (by omega)] at column
    rw [offset_of_column found column, Text.within_of_le (Nat.le_add_right _ _)]
  · rename_i passed
    rw [if_neg (by omega)] at column
    exact offset_of_no_column found column

/-- Every line up to the last is found by its number. A column past its content is the end of the
content, unless the byte column passes the limit: then it is the end of the text, as it is for all
lines past the last one. -/
theorem offset_past_content (d : Document) :
    (∀ n ≤ d.chars.count '\n', ∃ before line after,
      LineAt d.chars before line after ∧ before.count '\n' = n) ∧
    (∀ before line after character, LineAt d.chars before line after →
      units (line.rdropWhile isTerminator) ≤ character → character ≤ columnLimit →
      d.offset ⟨before.count '\n', character⟩ =
        if character + bytes (line.rdropWhile isTerminator) ≤
            columnLimit + units (line.rdropWhile isTerminator) then
          bytes before + bytes (line.rdropWhile isTerminator)
        else d.length) ∧
    ∀ n character, d.chars.count '\n' < n → d.offset ⟨n, character⟩ = d.length := by
  refine ⟨fun n le => Text.exists_lineAt_of_le le, ?_, fun n character past =>
    offset_of_no_line past character⟩
  intro before line after character found past told
  exact offset_past_line found past told

def twoLines : Document := ⟨"a.ts", "é\nx"⟩

theorem lineAt_twoLines : LineAt twoLines.chars [] ['é'] ['\n', 'x'] :=
  ⟨rfl, .inl rfl, by decide, .inr ⟨['x'], rfl⟩⟩

theorem offset_past_content_twoLines :
    LineAt twoLines.chars [] ['é'] ['\n', 'x'] ∧
    units (['é'].rdropWhile isTerminator) ≤ 4294967294 ∧ 4294967294 ≤ columnLimit ∧
    twoLines.offset ⟨0, 4294967294⟩ = 2 ∧ twoLines.offset ⟨2, 0⟩ = 4 := by
  obtain ⟨-, past, absent⟩ := offset_past_content twoLines
  have clamped := past [] _ _ 4294967294 lineAt_twoLines (by decide) (by decide)
  rw [if_pos (by decide)] at clamped
  exact ⟨lineAt_twoLines, by decide, by decide, clamped, absent 2 0 (by decide)⟩

/-- The last column that can be told is past the content of every short line, but not always is it
the end of that content. -/
theorem last_column_leaves_line : ¬ ∀ (d : Document) (before line after : List Char)
    (character : Nat), LineAt d.chars before line after →
      units (line.rdropWhile isTerminator) ≤ character → character ≤ columnLimit →
      d.offset ⟨before.count '\n', character⟩ =
        bytes before + bytes (line.rdropWhile isTerminator) := by
  intro clamped
  have at_end : twoLines.offset ⟨0, 4294967295⟩ = 2 :=
    clamped twoLines [] _ _ 4294967295 lineAt_twoLines (by decide) (by decide)
  revert at_end
  decide

theorem position_line {p : Position} (parts : d.chars = before ++ after)
    (told : d.position (bytes before) = .ok p) : p.line = before.count '\n' := by
  obtain ⟨earlier, left, rfl, starts, unbroken⟩ := Text.exists_startsLine before
  rw [position_append parts starts unbroken] at told
  cases told
  exact (Text.count_append_unbroken earlier unbroken).symm

theorem position_lt {m n : Nat} {p q : Position} (first : Boundary d.chars m)
    (second : Boundary d.chars n) (lt : m < n) (at_m : d.position m = .ok p)
    (at_n : d.position n = .ok q) : p < q := by
  obtain ⟨before, middle, after, parts, rfl, rfl⟩ := first.between second (Nat.le_of_lt lt)
  have parts' : d.chars = before ++ (middle ++ after) := by rw [parts, List.append_assoc]
  by_cases broken : '\n' ∈ middle
  · -- A line ends in between.
    have more := List.count_pos_iff.mpr broken
    refine .inl ?_
    rw [position_line parts' at_m, position_line parts at_n, List.count_append]
    omega
  · obtain ⟨earlier, left, rfl, starts, unbroken⟩ := Text.exists_startsLine before
    have inside : '\n' ∉ left ++ middle := by simp [unbroken, broken]
    rw [List.append_assoc earlier] at parts at_n
    rw [position_append parts' starts unbroken] at at_m
    rw [position_append parts starts inside] at at_n
    cases at_m
    cases at_n
    have some_char : middle ≠ [] := by
      rintro rfl
      simp at lt
    refine .inr ⟨rfl, ?_⟩
    rw [Text.units_append]
    exact Nat.lt_add_of_pos_right (Text.units_pos some_char)

theorem position_min (d : Document) (n : Nat) : d.position (min n d.length) = d.position n := by
  rw [position, position, Nat.min_assoc, Nat.min_self]

theorem range_le {s : Span} {r : Range} (told : d.range s = .ok r) : r.start ≤ r.stop := by
  obtain ⟨start, stop⟩ := range_eq_ok_iff.mp told
  have first := position_ok_iff_clamped.mp ⟨_, start⟩
  have last := position_ok_iff_clamped.mp ⟨_, stop⟩
  rw [← position_min] at start stop
  have ordered := s.start_le_stop
  rcases Nat.lt_or_ge (min s.start d.length) (min s.stop d.length) with lt | ge
  · exact .inl (position_lt first last lt start stop)
  · have same : min s.start d.length = min s.stop d.length := by omega
    rw [same, stop] at start
    exact .inr (Except.ok.inj start).symm

/-- For each place between two characters the position counts the `'\n'` before it and the code
units since the last of them. Read as an offset it is that place again, unless the content of the
line ends before it. -/
theorem position_of_boundary (d : Document) (fits : d.length < 4294967296) :
    (∀ o, Boundary d.chars o → ∃ before left right after,
      LineAt d.chars before (left ++ right) after ∧ bytes (before ++ left) = o ∧
      d.position o = .ok ⟨(before ++ left).count '\n', units left⟩ ∧
      d.offset ⟨(before ++ left).count '\n', units left⟩ =
        min o (bytes before + bytes ((left ++ right).rdropWhile isTerminator))) ∧
    (∀ m n p q, Boundary d.chars m → Boundary d.chars n → m < n →
      d.position m = .ok p → d.position n = .ok q → p < q) ∧
    (∀ s : Span, Boundary d.chars s.start → Boundary d.chars s.stop → ∃ r, d.range s = .ok r) ∧
    ∀ s r, d.range s = .ok r → r.start ≤ r.stop := by
  refine ⟨?_, ?_, fun _ => range_ok, fun _ _ => range_le⟩
  · rintro o ⟨a, b, parts, rfl⟩
    obtain ⟨before, left, right, after, rfl, found⟩ := Text.exists_lineAt a b
    rw [← parts] at found
    refine ⟨before, left, right, after, found, rfl, ?_⟩
    rw [Text.count_append_unbroken before found.unbroken_left]
    exact ⟨position_append parts found.starts found.unbroken_left,
      offset_units (Nat.le_of_lt_succ fits) found⟩
  · intro m n p q first last lt
    exact position_lt first last lt

def mixed : Document := ⟨"a.ts", "é\r\n😀x"⟩

theorem position_of_boundary_mixed :
    mixed.length < 4294967296 ∧
    (∃ before left right after, LineAt mixed.chars before (left ++ right) after ∧
      bytes (before ++ left) = 3 ∧
      mixed.position 3 = .ok ⟨(before ++ left).count '\n', units left⟩ ∧
      mixed.offset ⟨(before ++ left).count '\n', units left⟩ =
        min 3 (bytes before + bytes ((left ++ right).rdropWhile isTerminator))) ∧
    mixed.position 3 = .ok ⟨0, 2⟩ ∧ mixed.offset ⟨0, 2⟩ = 2 ∧
    mixed.position 8 = .ok ⟨1, 2⟩ ∧ (⟨0, 2⟩ : Position) < ⟨1, 2⟩ := by
  have fits : mixed.length < 4294967296 := by decide
  have behind : mixed.position 3 = .ok ⟨0, 2⟩ := by rfl
  have ahead : mixed.position 8 = .ok ⟨1, 2⟩ := by rfl
  obtain ⟨back, grows, -, -⟩ := position_of_boundary mixed fits
  exact ⟨fits, back 3 (by decide), behind, by decide, ahead,
    grows 3 8 _ _ (by decide) (by decide) (by decide) behind ahead⟩

end Document

end SyntaxPanel
