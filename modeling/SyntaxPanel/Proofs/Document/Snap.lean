import SyntaxPanel.Proofs.Document.Position

namespace SyntaxPanel.Document

open Text (LineAt LongestWithin bytes units unitsOf isTerminator columnLimit)

variable {d : Document} {before line after : List Char}

theorem offset_inside (fits : d.length ≤ columnLimit) (found : LineAt d.chars before line after)
    {left right : List Char} {c : Char} {k : Nat}
    (parts : line.rdropWhile isTerminator = left ++ c :: right) (inside : k < unitsOf c) :
    d.offset ⟨before.count '\n', units left + k⟩ = bytes (before ++ left) := by
  have whole : line = left ++ c :: (right ++ line.rtakeWhile isTerminator) := by
    calc line = line.rdropWhile isTerminator ++ line.rtakeWhile isTerminator :=
          List.rdropWhile_append_rtakeWhile.symm
      _ = left ++ c :: (right ++ line.rtakeWhile isTerminator) := by rw [parts]; simp
  have room : bytes left + c.utf8Size ≤ columnLimit := by
    have le := bytes_line_le found
    rw [whole, Text.bytes_append, bytes] at le
    omega
  obtain ⟨shift, short, column⟩ := Text.byteColumn?_inside left
    (right ++ line.rtakeWhile isTerminator ++ after.take 1) c inside room
  have told : Text.byteColumn? (line ++ after.take 1) (units left + k) =
      some (bytes left + shift) := by
    rw [← column]
    congr 1
    nth_rewrite 1 [whole]
    simp
  rw [offset_of_column found told, parts, Text.within_inside left right c short,
    Text.bytes_append]

theorem offset_content_end (fits : d.length ≤ columnLimit)
    (found : LineAt d.chars before line after) :
    d.offset ⟨before.count '\n', units (line.rdropWhile isTerminator)⟩ =
      bytes (before ++ line.rdropWhile isTerminator) := by
  have whole : line.rdropWhile isTerminator ++ line.rtakeWhile isTerminator = line :=
    List.rdropWhile_append_rtakeWhile
  rw [← whole] at found
  have told := offset_units fits found
  rwa [whole, Text.bytes_append, Nat.min_self, ← Text.bytes_append] at told

theorem offset_longest (fits : d.length ≤ columnLimit) (found : LineAt d.chars before line after)
    {n : Nat} (le : n ≤ units (line.rdropWhile isTerminator)) :
    ∃ kept, LongestWithin (line.rdropWhile isTerminator) n kept ∧
      d.offset ⟨before.count '\n', n⟩ = bytes (before ++ kept) := by
  rcases Text.exists_at_units le with rfl | ⟨left, c, right, k, parts, inside, rfl⟩
  · exact ⟨_, Text.longestWithin_self (Nat.le_refl _), offset_content_end fits found⟩
  · refine ⟨left, ?_, offset_inside fits found parts inside⟩
    rw [parts]
    exact Text.longestWithin_inside inside

theorem offset_mono (fits : d.length ≤ columnLimit) (found : LineAt d.chars before line after)
    {m n : Nat} (ordered : m ≤ n) (le : n ≤ units (line.rdropWhile isTerminator)) :
    d.offset ⟨before.count '\n', m⟩ ≤ d.offset ⟨before.count '\n', n⟩ := by
  obtain ⟨short, atM, toldM⟩ := offset_longest fits found (Nat.le_trans ordered le)
  obtain ⟨long, atN, toldN⟩ := offset_longest fits found le
  have shorter := atN.longest short atM.begins (Nat.le_trans atM.fits ordered)
  rw [toldM, toldN]
  exact Text.bytes_le_of_prefix ((List.prefix_append_right_inj before).mpr shorter)

theorem offset_within_content (d : Document) (fits : d.length < 4294967296) :
    (∀ n ≤ d.chars.count '\n', ∃ before line after,
      LineAt d.chars before line after ∧ before.count '\n' = n) ∧
    ∀ before line after, LineAt d.chars before line after →
      (∀ n ≤ units (line.rdropWhile isTerminator),
        ∃ kept, LongestWithin (line.rdropWhile isTerminator) n kept ∧
          d.offset ⟨before.count '\n', n⟩ =
            Text.lineStart d.chars (before.count '\n') + bytes kept) ∧
      (∀ left c right k, line.rdropWhile isTerminator = left ++ c :: right → k < unitsOf c →
        d.offset ⟨before.count '\n', units left + k⟩ =
          Text.lineStart d.chars (before.count '\n') + bytes left) ∧
      ∀ m n, m ≤ n → n ≤ units (line.rdropWhile isTerminator) →
        d.offset ⟨before.count '\n', m⟩ ≤ d.offset ⟨before.count '\n', n⟩ := by
  have small : d.length ≤ columnLimit := Nat.le_of_lt_succ fits
  refine ⟨fun n le => Text.exists_lineAt_of_le le, ?_⟩
  intro before line after found
  simp only [found.lineStart_eq, ← Text.bytes_append]
  refine ⟨?_, ?_, ?_⟩
  · intro n le
    exact offset_longest small found le
  · intro left c right k parts inside
    exact offset_inside small found parts inside
  · intro m n ordered le
    exact offset_mono small found ordered le

def crowded : Document := ⟨"a.ts", "x\né😀한😀y\r\n"⟩

theorem offset_within_content_crowded :
    crowded.length < 4294967296 ∧
    LineAt crowded.chars ['x', '\n'] ['é', '😀', '한', '😀', 'y', '\r'] ['\n'] ∧
    ['é', '😀', '한', '😀', 'y', '\r'].rdropWhile isTerminator = ['é', '😀', '한'] ++ '😀' :: ['y'] ∧
    1 < unitsOf '😀' ∧ crowded.offset ⟨1, 5⟩ = 11 ∧ crowded.offset ⟨1, 6⟩ ≤ crowded.offset ⟨1, 7⟩ ∧
    ∃ kept, LongestWithin ['é', '😀', '한', '😀', 'y'] 5 kept ∧
      crowded.offset ⟨1, 5⟩ = Text.lineStart crowded.chars 1 + bytes kept := by
  have found : LineAt crowded.chars ['x', '\n'] ['é', '😀', '한', '😀', 'y', '\r'] ['\n'] :=
    ⟨rfl, .inr ⟨['x'], rfl⟩, by decide, .inr ⟨[], rfl⟩⟩
  have fits : crowded.length < 4294967296 := by decide
  obtain ⟨-, columns⟩ := offset_within_content crowded fits
  obtain ⟨longest, inside, ordered⟩ := columns _ _ _ found
  exact ⟨fits, found, rfl, by decide, inside ['é', '😀', '한'] '😀' ['y'] 1 rfl (by decide),
    ordered 6 7 (by decide) (by decide), longest 5 (by decide)⟩

end SyntaxPanel.Document
