import SyntaxPanel.Diagnostic.Window

namespace SyntaxPanel.Diagnostic

inductive Style where
  | plain
  | error
  | number
  | bold
deriving DecidableEq, Repr

abbrev Cell := Char × Style

abbrev CellLine := List Cell

def CellLine.write (line : CellLine) (column : Nat) (text : List Char) (style : Style) :
    CellLine :=
  if text = [] then line
  else
    let spaces : CellLine := List.replicate (column - line.length) (' ', .plain)
    (line ++ spaces).take column ++ text.map (·, style) ++ line.drop (column + text.length)

def CellLine.append (line : CellLine) (text : List Char) (style : Style) : CellLine :=
  line ++ text.map (·, style)

def Style.code : Style → String
  | plain => ""
  | error => "\x1b[1m\x1b[91m"
  | number => "\x1b[1m\x1b[94m"
  | bold => "\x1b[1m"

def resetCode : String := "\x1b[0m"

def Style.change (before after : Style) : String :=
  if before = after then ""
  else (if before = plain then "" else resetCode) ++ after.code

def styledFrom (style : Style) : CellLine → String
  | [] => if style = .plain then "" else resetCode
  | (c, s) :: rest => style.change s ++ c.toString ++ styledFrom s rest

def CellLine.plainText (line : CellLine) : String := String.ofList (line.map Prod.fst)

def printLines (styled : Bool) (lines : List CellLine) : String :=
  "\n".intercalate (lines.map fun line =>
    if styled then styledFrom .plain line else line.plainText)

def isReordering (c : Char) : Bool :=
  c.toNat = 0x200D || (0x202A ≤ c.toNat && c.toNat ≤ 0x202E) ||
    (0x2066 ≤ c.toNat && c.toNat ≤ 0x2069)

def shown (cs : List Char) : List Char :=
  (cs.filter fun c => !isReordering c).flatMap fun c =>
    if c = '\t' then List.replicate 4 ' ' else [c]

def shownColumns (cs : List Char) : Nat := Text.total (fun c => (Unicode.width? c).getD 1) cs

def fitting : List Char → Nat → List Char
  | [], _ => []
  | c :: cs, room =>
    let w := (Unicode.width? c).getD 1
    if w ≤ room then c :: fitting cs (room - w) else []

structure Frame where
  gutter : Nat
  spanning : Bool
  window : Window
deriving DecidableEq, Repr

namespace Frame

def margin (f : Frame) : Nat := f.gutter + 3

def body (f : Frame) : Nat := if f.spanning then f.margin + 2 else f.margin

def empty (f : Frame) : CellLine := CellLine.write [] (f.gutter + 1) ['|'] .number

def gapLine (f : Frame) (through : Bool) : CellLine :=
  let line := CellLine.write [] 0 ['.', '.', '.'] .number
  if through then line.write f.margin ['|'] .error else line

def sourceLine (f : Frame) (r : Row) : CellLine :=
  let w := f.window
  let number := Nat.toDigits 10 r.number
  let label := List.replicate (f.gutter - number.length) ' ' ++ number ++ [' ', '|']
  let line := CellLine.write [] 0 label .number
  let text := shown r.chars
  let length := Text.bytes text
  let left := min w.left length
  let right := if length - w.left ≤ w.room then length else min length w.right
  let code := fitting (text.drop left) (right - left)
  let line := line.write f.body code .plain
  let line := if w.left > 0 then line.write f.body ['.', '.', '.'] .number else line
  let reach := if w.atMark then w.right - 6 else w.right
  if reach < length ∧ w.left + w.room < length then
    line.write (f.body + shownColumns code - 3) ['.', '.', '.'] .number
  else line

def skipped (f : Frame) (r : Row) : Nat :=
  let text := shown r.chars
  shownColumns (text.take (min f.window.left (Text.bytes text)))

/-- The line of carets under a row. `tail` says that the span comes in from the margin and
`label` that the label stands behind the carets. -/
def caretLine (f : Frame) (skip first last : Nat) (tail label : Bool) : CellLine :=
  let line := f.empty
  let line :=
    if tail then
      let length := f.body + first - skip - f.margin
      line.write (f.margin + 1) (List.replicate length '_') .error
    else line
  let line := if tail && label then line.write f.margin ['|'] .error else line
  let line :=
    if label then line.write (last + 1 - skip + f.body) ['h', 'e', 'r', 'e'] .error else line
  (List.range' first (last - first)).foldl
    (fun line p => line.write (f.body + p - skip) ['^'] .error) line

/-- The lines of the picture for one of its rows. What stands in the margin is drawn last, over
the dots of a line that the window leaves nothing of. -/
def linesOf (f : Frame) : Line → List CellLine
  | .gap through => [f.gapLine through]
  | .row r m =>
    let line := f.sourceLine r
    let skip := f.skipped r
    match m with
    | .none => [line]
    | .through => [line.write f.margin ['|'] .error]
    | .whole first last => [line, f.caretLine skip first last false true]
    | .opening first last =>
      if ((shown r.chars).take first).all Unicode.isWhitespace then
        [line.write f.margin ['/'] .error]
      else [line, f.caretLine skip first last true false]
    | .closing first last =>
      [line.write f.margin ['|'] .error, f.caretLine skip first last true true]

end Frame

def place (start : Nat) (lines : List Line) : Nat × Nat :=
  let found := lines.findSome? fun line =>
    match line with
    | .gap _ => none
    | .row r _ =>
      if r.start ≤ start ∧ start < r.stop + max r.ending 1 then
        some (r.number, (Text.within r.chars (start - r.start)).length + 1)
      else none
  found.getD (1, 1)

def largestNumber (lines : List Line) : Option Nat :=
  (lines.filterMap fun line =>
    match line with
    | .gap _ => none
    | .row r _ => some r.number).max?

def isLong (line : Line) : Bool :=
  match line with
  | .row _ (.opening ..) => true
  | .row _ (.closing ..) => true
  | _ => false

def titleLine (d : Diagnostic) : CellLine :=
  let line := CellLine.append [] "error".toList .error
  if d.message = "" then line
  else (line.append [':', ' '] .plain).append d.message.toList .bold

def placeLine (f : Frame) (path : String) (spot : Nat × Nat) : CellLine :=
  let line := CellLine.write [] f.gutter ['-', '-', '>'] .number
  let line := line.write (f.gutter + 4) path.toList .plain
  line.append (":" ++ toString spot.1 ++ ":" ++ toString spot.2).toList .plain

def picture (d : Diagnostic) (path text : String) : Except Fault (List CellLine) := do
  let source ← excerpt text.toList d.span
  let marked := markRows source.start source.stop source.rows
  let window ← window (extent marked) (source.firstNumber + source.rows.length)
  let lines := foldRows false [] marked
  let gutter := ((largestNumber lines).map digitCount).getD 0
  let f : Frame := ⟨gutter, lines.any isLong, window⟩
  return d.titleLine :: placeLine f path (place source.start lines) :: f.empty ::
    (lines.flatMap f.linesOf ++ [f.empty])

def render (d : Diagnostic) (styled : Bool) (path text : String) : Except Fault String := do
  return printLines styled (← d.picture path text)

end SyntaxPanel.Diagnostic
