import SyntaxPanel.Diagnostic

namespace SyntaxPanel.Diagnostic

inductive Mark where
  | none
  | whole (first last : Nat)
  | opening (first last : Nat)
  | through
  | closing (first last : Nat)
deriving DecidableEq, Repr

/-- The mark of a row for a span from `start` to `stop`. The end of the line counts as a
place of its own after the last character. -/
def Row.mark (r : Row) (start stop : Nat) : Mark :=
  if start > r.stop + r.ending then .none
  else if start ≥ r.start ∧ stop ≤ r.stop + max r.ending 1 then
    let first := r.columnsBefore start
    let last := r.columnsBefore stop
    .whole first (if first = last then last + 1 else last)
  else if start ≥ r.start ∧ start ≤ r.stop + (r.ending - 1) ∧ stop > r.stop then
    let first := r.columnsBefore start
    .opening first (first + 1)
  else if start < r.start ∧ stop > r.stop + max r.ending 1 then .through
  else if start < r.start ∧ r.start ≤ stop ∧ stop ≤ r.stop + max r.ending 1 then
    let tip := r.columnsBefore stop - 1
    let first := if stop > r.stop then tip + 1 else tip
    .closing first (first + 1)
  else .none

def Mark.carets? : Mark → Option (Nat × Nat)
  | .whole first last => some (first, last)
  | .opening first last => some (first, last)
  | .closing first last => some (first, last)
  | .none => Option.none
  | .through => Option.none

def Mark.isFinal : Mark → Bool
  | .whole .. => true
  | .closing .. => true
  | _ => false

/-- The column after the label, which stands behind the last caret. The row where a span opens
keeps the same room, though its label is drawn where the span closes. -/
def Mark.labelEnd : Mark → Nat
  | .whole _ last => last + 5
  | .opening _ last => last + 5
  | .closing _ last => last + 5
  | .none => 0
  | .through => 0

def markRows (start stop : Nat) : List Row → List (Row × Mark)
  | [] => []
  | r :: rest =>
    let m := r.mark start stop
    (r, m) :: if m.isFinal then rest.map fun r => (r, .none) else markRows start stop rest

inductive Line where
  | row (r : Row) (m : Mark)
  | gap (through : Bool)
deriving DecidableEq, Repr

/-- Rows between two shown ones: all of them up to three, otherwise the outermost. -/
def fill (rows : List (Row × Mark)) : List Line :=
  match rows, rows.getLast? with
  | (r, m) :: _ :: _ :: _ :: _, some (last, lastMark) =>
    [.row r m, .gap (m = .through), .row last lastMark]
  | rows, _ => rows.map fun (r, m) => .row r m

/-- Drops the rows before the first and after the last one with carets, and folds those
between them. -/
def foldRows (started : Bool) (pending : List (Row × Mark)) : List (Row × Mark) → List Line
  | [] => []
  | (r, m) :: rest =>
    if m.carets?.isSome then
      (if started then fill pending else []) ++ .row r m :: foldRows true [] rest
    else foldRows started (pending ++ [(r, m)]) rest

end SyntaxPanel.Diagnostic
