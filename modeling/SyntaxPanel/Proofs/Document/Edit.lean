import SyntaxPanel.Proofs.Text.Line

namespace SyntaxPanel

open Text (bytes endPoint)

/-- All that an edit tells of a text in which `removed`, behind `before`, became `inserted`. -/
structure Edit.Describes (e : Edit) (before removed inserted : List Char) : Prop where
  start : e.start = bytes before
  oldEnd : e.oldEnd = bytes (before ++ removed)
  newEnd : e.newEnd = e.start + bytes inserted
  startPoint : e.startPoint = endPoint before
  oldEndPoint : e.oldEndPoint = endPoint (before ++ removed)
  newEndPoint : e.newEndPoint = endPoint (before ++ inserted)
  over_removed : e.oldEndPoint = e.startPoint.past removed
  over_inserted : e.newEndPoint = e.startPoint.past inserted

theorem Edit.describes_behind (before removed inserted : List Char) :
    Describes (.behind before removed inserted) before removed inserted where
  start := rfl
  oldEnd := rfl
  newEnd := Text.bytes_append before inserted
  startPoint := Text.origin_past_eq before
  oldEndPoint := (Text.Point.past_append _ before removed).symm.trans (Text.origin_past_eq _)
  newEndPoint := (Text.Point.past_append _ before inserted).symm.trans (Text.origin_past_eq _)
  over_removed := rfl
  over_inserted := rfl

namespace Document

theorem offset_eq_of_chars {d d' : Document} (same : d.chars = d'.chars) (p : Position) :
    d.offset p = d'.offset p := by
  simp only [offset, length, same]

theorem position_eq_of_chars {d d' : Document} (same : d.chars = d'.chars) (o : Nat) :
    d.position o = d'.position o := by
  simp only [position, point, length, same]

/-- Whatever range a change names, it is made and reported: the edit starts where the range does,
and ends where the range does or at once. Afterwards every question is answered as by a document
that was opened with the new text. -/
theorem edit_of_change (d : Document) (r : Range) (text : String) :
    ∃ before removed after d' e, d.chars = before ++ removed ++ after ∧
      d.applyChange ⟨some r, text⟩ = .ok (d', some e) ∧
      d'.chars = before ++ text.toList ++ after ∧
      e.start = d.offset r.start ∧ e.oldEnd = max (d.offset r.stop) (d.offset r.start) ∧
      e.start ≤ e.oldEnd ∧ e.oldEnd ≤ d.length ∧ e.Describes before removed text.toList ∧
      d'.path = d.path ∧ ∀ fresh : Document, fresh.chars = before ++ text.toList ++ after →
        (∀ p, d'.offset p = fresh.offset p) ∧ ∀ o, d'.position o = fresh.position o := by
  obtain ⟨before, removed, after, parts, start, oldEnd, spliced⟩ := d.spliceRange_eq r text
  refine ⟨before, removed, after, d.setText (String.ofList (before ++ text.toList ++ after)),
    .behind before removed text.toList, parts, ?_, chars_setText d _, start, oldEnd, ?_, ?_,
    Edit.describes_behind before removed text.toList, rfl, ?_⟩
  · simp only [applyChange, spliced]
    rfl
  · simp only [Edit.behind, Text.bytes_append]
    omega
  · simp only [Edit.behind, length, parts, Text.bytes_append]
    omega
  · intro fresh text_is
    have same := (chars_setText d _).trans text_is.symm
    exact ⟨offset_eq_of_chars same, position_eq_of_chars same⟩

end Document

end SyntaxPanel
