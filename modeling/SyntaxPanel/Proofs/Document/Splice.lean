import SyntaxPanel.Document

/-! What a change makes of a document.
Every offset that a position is read as lies between two characters, so a splice never breaks
down, and the edit that is reported leads from the old text to the new one. Nothing is said here
about which offset a position is read as. -/
namespace SyntaxPanel

namespace Text

/-- A place between two characters, where a text can be cut. -/
def Boundary (cs : List Char) (n : Nat) : Prop :=
  ∃ before after, cs = before ++ after ∧ bytes before = n

theorem boundary_end (cs : List Char) : Boundary cs (bytes cs) :=
  ⟨cs, [], (List.append_nil cs).symm, rfl⟩

theorem Boundary.max {cs : List Char} {m n : Nat} (hm : Boundary cs m) (hn : Boundary cs n) :
    Boundary cs (max m n) := by
  rcases Nat.le_total m n with le | le
  · rwa [Nat.max_eq_right le]
  · rwa [Nat.max_eq_left le]

theorem eq_nil_of_bytes {cs : List Char} (h : bytes cs = 0) : cs = [] := by
  cases cs with
  | nil => rfl
  | cons c cs =>
    have pos := c.utf8Size_pos
    simp only [bytes] at h
    omega

theorem Boundary.between {cs : List Char} {m n : Nat} (hm : Boundary cs m) (hn : Boundary cs n)
    (le : m ≤ n) :
    ∃ before middle after, cs = before ++ middle ++ after ∧ bytes before = m ∧
      bytes (before ++ middle) = n := by
  obtain ⟨a, b, rfl, rfl⟩ := hm
  obtain ⟨a', b', same, rfl⟩ := hn
  rcases List.append_eq_append_iff.mp same with ⟨middle, rfl, rfl⟩ | ⟨excess, rfl, rfl⟩
  · exact ⟨a, middle, b', by rw [List.append_assoc], rfl, rfl⟩
  · -- The first place is not the later one, so nothing lies beyond the second.
    have empty : bytes excess = 0 := by
      rw [bytes_append] at le
      omega
    obtain rfl := eq_nil_of_bytes empty
    exact ⟨a', [], b, by simp, by simp, by simp⟩

theorem within_prefix (cs : List Char) (n : Nat) : within cs n <+: cs := by
  induction cs generalizing n with
  | nil => exact List.prefix_rfl
  | cons c cs ih =>
    simp only [within]
    split
    · exact List.prefix_cons_inj c |>.mpr (ih _)
    · exact List.nil_prefix

theorem content_prefix (line : List Char) : content line <+: line := by
  induction line with
  | nil => exact List.prefix_rfl
  | cons c line ih =>
    simp only [content]
    split
    · exact List.nil_prefix
    · exact List.prefix_cons_inj c |>.mpr ih

theorem boundary_in_line {cs line part : List Char} {n : Nat} (found : (lines cs)[n]? = some line)
    (h : part <+: line) : Boundary cs (lineStart cs n + bytes part) := by
  obtain ⟨rest, rfl⟩ := h
  obtain ⟨inside, at_n⟩ := List.getElem?_eq_some_iff.mp found
  refine ⟨((lines cs).take n).flatten ++ part, rest ++ ((lines cs).drop (n + 1)).flatten, ?_, ?_⟩
  · calc cs = (lines cs).flatten := (flatten_lines cs).symm
      _ = ((lines cs).take n ++ (lines cs).drop n).flatten := by rw [List.take_append_drop]
      _ = _ := by
        rw [List.drop_eq_getElem_cons inside, at_n, List.flatten_append, List.flatten_cons]
        simp only [List.append_assoc]
  · rw [bytes_append, lineStart]

theorem cut_append (a b : List Char) : cut (a ++ b) (bytes a) = .ok (a, b) := by
  simp only [cut, splitAt?_eq_some_iff.mpr ⟨rfl, rfl⟩]

theorem splice_append (before removed after inserted : List Char) :
    splice (before ++ removed ++ after) (bytes before) (bytes (before ++ removed)) inserted =
      .ok (before ++ inserted ++ after) := by
  have ordered : bytes before ≤ bytes (before ++ removed) := by
    rw [bytes_append]
    exact Nat.le_add_right _ _
  have first := cut_append before (removed ++ after)
  rw [← List.append_assoc] at first
  simp only [splice, Span.ofBounds?, dif_pos ordered, first, cut_append]
  rfl

def Point.past (p : Point) (cs : List Char) : Point := cs.foldl Point.after p

theorem Point.past_append (p : Point) (a b : List Char) : p.past (a ++ b) = (p.past a).past b :=
  List.foldl_append

theorem pointFrom_append (p : Point) (a b : List Char) :
    pointFrom p (a ++ b) (bytes a) = .ok (p.past a) := by
  induction a generalizing p with
  | nil => cases b <;> rfl
  | cons c a ih =>
    have pos := c.utf8Size_pos
    obtain ⟨n, size⟩ : ∃ n, c.utf8Size + bytes a = n + 1 :=
      ⟨c.utf8Size + bytes a - 1, by omega⟩
    have fits : c.utf8Size ≤ n + 1 := by omega
    have left : n + 1 - c.utf8Size = bytes a := by omega
    simp only [List.cons_append, bytes, size, pointFrom, if_pos fits, left, ih]
    rfl

theorem point?_append (a b : List Char) : point? (a ++ b) (bytes a) = .ok (Point.origin.past a) :=
  pointFrom_append .origin a b

end Text

open Text (bytes Boundary Point)

def Edit.behind (before removed inserted : List Char) : Edit where
  start := bytes before
  oldEnd := bytes (before ++ removed)
  newEnd := bytes (before ++ inserted)
  startPoint := Point.origin.past before
  oldEndPoint := (Point.origin.past before).past removed
  newEndPoint := (Point.origin.past before).past inserted

/-- An edit leads from one text to another if it tells, in bytes and in points, which part of
the one was replaced to make the other. -/
def Edit.Leads (e : Edit) (old new : List Char) : Prop :=
  ∃ before removed inserted after, old = before ++ removed ++ after ∧
    new = before ++ inserted ++ after ∧ e = .behind before removed inserted

/-- Edits lead from one text to another if each of them leads on from where the last one led. -/
inductive EditsLead : List Edit → List Char → List Char → Prop where
  | nil (cs : List Char) : EditsLead [] cs cs
  | cons {e : Edit} {es : List Edit} {old middle new : List Char} :
      e.Leads old middle → EditsLead es middle new → EditsLead (e :: es) old new

namespace Document

theorem boundary_offset (d : Document) (p : Position) : Boundary d.chars (d.offset p) := by
  unfold offset
  split
  · exact Text.boundary_end d.chars
  · rename_i line found
    split
    · exact Text.boundary_end d.chars
    · rename_i column _
      exact Text.boundary_in_line found
        ((Text.within_prefix _ column).trans (Text.content_prefix line))

@[simp] theorem chars_setText (d : Document) (cs : List Char) :
    (d.setText (String.ofList cs)).chars = cs := String.toList_ofList

theorem spliceRange_eq (d : Document) (r : Range) (text : String) :
    ∃ before removed after, d.chars = before ++ removed ++ after ∧
      bytes before = d.offset r.start ∧
      bytes (before ++ removed) = max (d.offset r.stop) (d.offset r.start) ∧
      d.spliceRange r text =
        .ok (d.setText (String.ofList (before ++ text.toList ++ after)),
          .behind before removed text.toList) := by
  have start := d.boundary_offset r.start
  have stop := (d.boundary_offset r.stop).max start
  obtain ⟨before, removed, after, parts, first, second⟩ :=
    start.between stop (Nat.le_max_right _ _)
  refine ⟨before, removed, after, parts, first, second, ?_⟩
  have startPoint : d.point (bytes before) = .ok (Point.origin.past before) := by
    rw [point, parts, List.append_assoc, Text.point?_append]
  have oldEndPoint : d.point (bytes (before ++ removed)) =
      .ok ((Point.origin.past before).past removed) := by
    rw [point, parts, Text.point?_append, Point.past_append]
  have newEndPoint : (d.setText (String.ofList (before ++ text.toList ++ after))).point
      (bytes (before ++ text.toList)) = .ok ((Point.origin.past before).past text.toList) := by
    rw [point, chars_setText, Text.point?_append, Point.past_append]
  have spliced : Text.splice d.chars (bytes before) (bytes (before ++ removed)) text.toList =
      .ok (before ++ text.toList ++ after) := by
    rw [parts, Text.splice_append]
  have oldEnd : max (d.offset r.stop) (bytes before) = bytes (before ++ removed) := by
    rw [first, second]
  simp only [spliceRange, ← first, oldEnd, startPoint, oldEndPoint, spliced,
    ← Text.bytes_append, newEndPoint, bind, Except.bind, pure, Except.pure]
  rfl

theorem applyChange_ok (d : Document) (c : ContentChange) :
    ∃ d' edit, d.applyChange c = .ok (d', edit) ∧ d'.path = d.path ∧
      (∀ e, edit = some e → e.Leads d.chars d'.chars) := by
  unfold applyChange
  cases c.range with
  | none => exact ⟨d.setText c.text, none, rfl, rfl, nofun⟩
  | some r =>
    obtain ⟨before, removed, after, parts, -, -, spliced⟩ := d.spliceRange_eq r c.text
    refine ⟨d.setText (String.ofList (before ++ c.text.toList ++ after)),
      some (.behind before removed c.text.toList), ?_, rfl, ?_⟩
    · simp only [spliced]
      rfl
    · intro e reported
      cases reported
      exact ⟨before, removed, c.text.toList, after, parts, chars_setText d _, rfl⟩

end Document

end SyntaxPanel
