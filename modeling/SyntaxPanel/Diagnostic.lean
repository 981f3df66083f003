import SyntaxPanel.Text.Line
import SyntaxPanel.Unicode.Width

namespace SyntaxPanel

structure Diagnostic where
  message : String
  span : Span
deriving DecidableEq, Repr

end SyntaxPanel

namespace SyntaxPanel.Diagnostic

structure Row where
  number : Nat
  start : Nat
  chars : List Char
  /-- Bytes of the line ending: one for `'\n'`, two for `'\r'` and `'\n'`, none at the end. -/
  ending : Nat
deriving DecidableEq, Repr

namespace Row

def length (r : Row) : Nat := Text.bytes r.chars

def stop (r : Row) : Nat := r.start + r.length

end Row

def splitEnding (line : List Char) : List Char × Nat :=
  match line.reverse with
  | '\n' :: '\r' :: rest => (rest.reverse, 2)
  | '\n' :: rest => (rest.reverse, 1)
  | _ => (line, 0)

def rowsFrom (number start : Nat) : List (List Char) → List Row
  | [] => []
  | line :: rest =>
    let (chars, ending) := splitEnding line
    ⟨number, start, chars, ending⟩ :: rowsFrom (number + 1) (start + Text.bytes line) rest

structure Excerpt where
  rows : List Row
  firstNumber : Nat
  start : Nat
  stop : Nat
deriving DecidableEq, Repr

/-- The lines from the one that the span starts in to the one that it ends in. -/
def excerpt (cs : List Char) (s : Span) : Except Fault Excerpt := do
  let (before, fromStart) ← Text.cut cs s.start
  let (_, after) ← Text.cut cs s.stop
  let lead := (before.reverse.takeWhile (· ≠ '\n')).reverse
  let inside := Text.within fromStart (s.stop - s.start)
  let kept := lead ++ inside ++ after.takeWhile (· ≠ '\n')
  let number := before.count '\n' + 1
  let start := Text.bytes lead
  return {
    rows := rowsFrom number 0 ((Text.lines kept).filter (· ≠ []))
    firstNumber := number
    start := start
    stop := start + (s.stop - s.start) }

def columns (cs : List Char) : Nat := Text.total (fun c => (Unicode.width? c).getD 0) cs

def Row.columnsBefore (r : Row) (offset : Nat) : Nat :=
  columns (Text.within r.chars (offset - r.start))

end SyntaxPanel.Diagnostic
