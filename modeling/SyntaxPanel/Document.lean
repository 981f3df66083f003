import SyntaxPanel.Text.Line

/-! A document as the panel keeps it: a path and the current text.
Positions are an editor's: zero-based line and UTF-16 code unit. They are clamped rather than
refused; byte offsets are not, since a wrong one means that the text and its tree disagree.
A change without a range replaces the text. Any other is a splice, and is told as an edit. -/
namespace SyntaxPanel

abbrev DocumentId := String

structure Position where
  line : Nat
  character : Nat
deriving DecidableEq, Repr

structure Range where
  start : Position
  stop : Position
deriving DecidableEq, Repr

structure Document where
  path : String
  text : String
deriving DecidableEq, Repr

namespace Document

def chars (d : Document) : List Char := d.text.toList

def length (d : Document) : Nat := Text.bytes d.chars

def setText (d : Document) (text : String) : Document := { d with text }

/-- Byte offset of a position. A column past the end of its line is the end of the line's
content, a line past the last one is the end of the text, and a column inside a character
is the start of that character. -/
def offset (d : Document) (p : Position) : Nat :=
  match (Text.lines d.chars)[p.line]? with
  | none => d.length
  | some line =>
    match Text.byteColumn? line p.character with
    | none => d.length
    | some column =>
      Text.lineStart d.chars p.line + Text.bytes (Text.within (Text.content line) column)

def point (d : Document) (offset : Nat) : Except Fault Text.Point :=
  Text.point? d.chars offset

def position (d : Document) (offset : Nat) : Except Fault Position := do
  let p ← d.point (min offset d.length)
  let line := (Text.lines d.chars)[p.line]?.getD []
  return ⟨p.line, Text.unitColumn line p.column⟩

def range (d : Document) (s : Span) : Except Fault Range := do
  let start ← d.position s.start
  let stop ← d.position s.stop
  return ⟨start, stop⟩

end Document

structure ContentChange where
  range : Option Range := none
  text : String
deriving DecidableEq, Repr

/-- The bytes from `start` to `oldEnd` became the bytes from `start` to `newEnd`. The first
two points belong to the text before the edit, the third to the text after it. -/
structure Edit where
  start : Nat
  oldEnd : Nat
  newEnd : Nat
  startPoint : Text.Point
  oldEndPoint : Text.Point
  newEndPoint : Text.Point
deriving DecidableEq, Repr

def Text.splice (cs : List Char) (start stop : Nat) (inserted : List Char) :
    Except Fault (List Char) := do
  let _ ← Span.ofBounds? start stop
  let (before, _) ← cut cs start
  let (_, after) ← cut cs stop
  return before ++ inserted ++ after

namespace Document

/-- Replaces what lies between two positions. An end before the start counts as the start. -/
def spliceRange (d : Document) (r : Range) (text : String) : Except Fault (Document × Edit) := do
  let start := d.offset r.start
  let oldEnd := max (d.offset r.stop) start
  let newEnd := start + Text.bytes text.toList
  let startPoint ← d.point start
  let oldEndPoint ← d.point oldEnd
  let spliced ← Text.splice d.chars start oldEnd text.toList
  let after := d.setText (String.ofList spliced)
  let newEndPoint ← after.point newEnd
  return (after, { start, oldEnd, newEnd, startPoint, oldEndPoint, newEndPoint })

def applyChange (d : Document) (c : ContentChange) : Except Fault (Document × Option Edit) :=
  match c.range with
  | none => .ok (d.setText c.text, none)
  | some r => do
    let (after, edit) ← d.spliceRange r c.text
    return (after, some edit)

end Document

structure Store where
  entries : List (DocumentId × Document) := []
deriving DecidableEq, Repr

namespace Store

def find? (s : Store) (id : DocumentId) : Option Document := s.entries.lookup id

def contains (s : Store) (id : DocumentId) : Bool := (s.find? id).isSome

def erase (s : Store) (id : DocumentId) : Store :=
  ⟨s.entries.filter fun (other, _) => other != id⟩

def put (s : Store) (id : DocumentId) (d : Document) : Store :=
  ⟨(id, d) :: (s.erase id).entries⟩

theorem find?_erase (s : Store) (id other : DocumentId) :
    (s.erase id).find? other = if other = id then none else s.find? other := by
  obtain ⟨entries⟩ := s
  simp only [find?, erase]
  induction entries with
  | nil => split <;> rfl
  | cons entry entries ih =>
    obtain ⟨key, d⟩ := entry
    by_cases same : key = id
    · subst same
      simp only [bne_self_eq_false, Bool.false_eq_true, not_false_eq_true, List.filter_cons_of_neg,
        ih]
      split
      · rfl
      · rename_i h
        simp only [List.lookup_cons, beq_false_of_ne h]
    · have kept : (key != id) = true := by simp [same]
      simp only [kept, List.filter_cons_of_pos, List.lookup_cons]
      by_cases hit : other = key
      · subst hit
        simp [same]
      · simp only [beq_false_of_ne hit, ih]

theorem find?_put (s : Store) (id other : DocumentId) (d : Document) :
    (s.put id d).find? other = if other = id then some d else s.find? other := by
  simp only [put, find?, List.lookup_cons]
  by_cases hit : other = id
  · simp [hit]
  · have erased := find?_erase s id other
    simp only [find?, if_neg hit] at erased
    simp only [beq_false_of_ne hit, if_neg hit, erased]

theorem put_put (s : Store) (id : DocumentId) (d d' : Document) :
    (s.put id d).put id d' = s.put id d' := by
  have once : ((s.put id d).erase id).entries = (s.erase id).entries := by
    simp [put, erase, List.filter_filter]
  simp only [put] at once ⊢
  rw [once]

end Store

end SyntaxPanel
