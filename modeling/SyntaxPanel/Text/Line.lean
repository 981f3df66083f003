import SyntaxPanel.Text.Measure

/-! Lines and columns.
A line ends after each `'\n'` and nowhere else, so a text that ends in one has an empty last
line. A column counts bytes or UTF-16 code units from the start of its line; the two counts
are converted into each other here, in the two directions that an editor needs. -/
namespace SyntaxPanel.Text

/-- The lines of a text, each with its `'\n'`. Together they are the text. -/
def lines : List Char → List (List Char)
  | [] => [[]]
  | c :: cs =>
    if c = '\n' then [c] :: lines cs
    else match lines cs with
      | [] => [[c]]
      | line :: rest => (c :: line) :: rest

def lineStart (cs : List Char) (n : Nat) : Nat :=
  bytes ((lines cs).take n).flatten

def isTerminator (c : Char) : Bool := c = '\n' || c = '\r'

def content : List Char → List Char
  | [] => []
  | c :: cs => if content cs = [] ∧ isTerminator c then [] else c :: content cs

structure Point where
  line : Nat
  column : Nat
deriving DecidableEq, Repr

def Point.origin : Point := ⟨0, 0⟩

/-- Where the next character starts when `c` starts at `p`. -/
def Point.after (p : Point) (c : Char) : Point :=
  if c = '\n' then ⟨p.line + 1, 0⟩ else ⟨p.line, p.column + c.utf8Size⟩

def pointFrom (p : Point) : List Char → Nat → Except Fault Point
  | _, 0 => .ok p
  | [], _ + 1 => .error .pastEnd
  | c :: cs, n + 1 =>
    if c.utf8Size ≤ n + 1 then pointFrom (p.after c) cs (n + 1 - c.utf8Size)
    else .error .insideCharacter

def point? (cs : List Char) (offset : Nat) : Except Fault Point :=
  pointFrom .origin cs offset

/-- Bytes of a character beyond one for each of its code units. -/
def surplus (c : Char) : Nat := c.utf8Size - unitsOf c

def surplusWithin (line : List Char) (n : Nat) : Nat :=
  total surplus (within line n)

def unitColumn (line : List Char) (column : Nat) : Nat :=
  column - surplusWithin line column

def columnLimit : Nat := 4294967295

/-- Byte column of a code-unit column, character by character: `start` is the byte column of
the next one, `column` the wanted column with the surplus of those before it added.
A column inside a pair of code units comes out inside the character. -/
def byteColumnFrom? (start column : Nat) : List Char → Option Nat
  | [] => some column
  | c :: cs =>
    if c.utf8Size = 1 then byteColumnFrom? (start + 1) column cs
    else if start < column then
      if column + surplus c ≤ columnLimit then
        byteColumnFrom? (start + c.utf8Size) (column + surplus c) cs
      else none
    else some column

/-- Byte column of a code-unit column; none if it passes the column limit. -/
def byteColumn? (line : List Char) (column : Nat) : Option Nat :=
  byteColumnFrom? 0 column line

theorem lines_ne_nil (cs : List Char) : lines cs ≠ [] := by
  cases cs with
  | nil => simp [lines]
  | cons c cs =>
    simp only [lines]
    split
    · simp
    · split <;> simp

theorem flatten_lines (cs : List Char) : (lines cs).flatten = cs := by
  induction cs with
  | nil => rfl
  | cons c cs ih =>
    simp only [lines]
    split
    · simp [ih]
    · split
      · exact absurd ‹_› (lines_ne_nil cs)
      · rename_i h
        simp only [h, List.flatten_cons] at ih
        simp [ih]

end SyntaxPanel.Text
