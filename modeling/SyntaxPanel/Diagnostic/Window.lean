import SyntaxPanel.Diagnostic.Mark

/-! The part of long rows that is shown.
The picture is at most 140 columns wide. Where the rows do not fit, the window is placed so that
the leading blanks go first, and the carets with their label stay if they can. -/
namespace SyntaxPanel.Diagnostic

def unlimited : Nat := Nat.pow 2 64 - 1

structure Extent where
  blank : Nat := unlimited
  longest : Nat := 0
  first : Option Nat := none
  last : Nat := 0
  label : Nat := 0
deriving DecidableEq, Repr

def leadingBlank (cs : List Char) : Nat :=
  Text.total (fun c => if c = '\t' then 4 else 1) (cs.takeWhile Unicode.isWhitespace)

def Extent.add (e : Extent) (rm : Row × Mark) : Extent :=
  let (r, m) := rm
  let blank :=
    if r.chars.all Unicode.isWhitespace then e.blank else min e.blank (leadingBlank r.chars)
  let e := { e with blank, longest := max e.longest r.length }
  match m.carets? with
  | none => e
  | some (first, last) =>
    { e with
      first := some (min first (e.first.getD first))
      last := max e.last last
      label := max e.label m.labelEnd }

def extent (rows : List (Row × Mark)) : Extent := rows.foldl Extent.add {}

structure Window where
  left : Nat
  right : Nat
  room : Nat
  /-- Whether the right end was set by the carets or by the label, with a margin of six. -/
  atMark : Bool
deriving DecidableEq, Repr

def pictureWidth : Nat := 140

def digitCount (n : Nat) : Nat := (Nat.toDigits 10 n).length

def window (e : Extent) (number : Nat) : Except Fault Window := do
  let room := pictureWidth - (3 + digitCount number)
  let blank := e.blank - 6
  let first := e.first.getD 0 - 6
  let last := e.last + 6
  let label := e.label + 6
  let left := if blank > 20 then blank - 16 else 0
  let right := max e.longest left
  let place (left right : Nat) : Window :=
    ⟨left, right, room, right = last || right = label⟩
  if right - left ≤ room then return place left right
  if (← distance? label blank) ≤ room then return place blank (blank + room)
  let labelled ← distance? label first
  if labelled ≤ room then
    let left := first - (room - labelled) / 2
    return place left (left + room)
  let marked ← distance? last first
  if marked ≤ room then
    let left := first - (room - marked) / 5 * 2
    return place left (left + room)
  return place first last

end SyntaxPanel.Diagnostic
