/-! What is left of a text when the control sequences of terminals are taken out of it.
A sequence starts with an escape character and goes on until it has said what it wants, which may
never happen. Other control characters vanish as well, but for those that are white space. -/
namespace SyntaxPanel.Text

inductive ControlState where
  | ground
  | escape
  | escapeTail
  | sequence
  | device
  | deviceParameters
  | deviceIntermediates
  | deviceIgnored
  | hidden
  | command
deriving DecidableEq, Repr

namespace ControlState

def isControlSpace (c : Char) : Bool := c = '\t' || c = '\n' || c.toNat = 12 || c = '\r'

def hasTerminator (c : Char) : Bool := (String.utf8EncodeChar c).contains 0x9C

def next (s : ControlState) (c : Char) : ControlState :=
  let n := c.toNat
  match s with
  | ground => ground
  | escape =>
    if n < 0x30 then escapeTail
    else if 0x7E < n then escape
    else if c = '[' then sequence
    else if c = ']' then command
    else if c = 'P' then device
    else if c = 'X' ∨ c = '^' ∨ c = '_' then hidden
    else ground
  | escapeTail => if 0x30 ≤ n ∧ n ≤ 0x7E then ground else escapeTail
  | sequence => if 0x40 ≤ n ∧ n ≤ 0x7E then ground else sequence
  | device =>
    if n < 0x30 then deviceIntermediates
    else if n < 0x40 then deviceParameters
    else if n ≤ 0x7E then hidden
    else device
  | deviceParameters =>
    if n < 0x30 then deviceIntermediates
    else if n < 0x3C then deviceParameters
    else if n < 0x40 then deviceIgnored
    else if n ≤ 0x7E then hidden
    else deviceParameters
  | deviceIntermediates =>
    if n < 0x30 then deviceIntermediates
    else if n < 0x40 then deviceIgnored
    else if n ≤ 0x7E then hidden
    else deviceIntermediates
  | deviceIgnored => deviceIgnored
  | hidden => if hasTerminator c then ground else hidden
  | command => command

/-- The state after a character, and whether the character is shown. An escape character starts
a new sequence anywhere, and two others end any sequence. -/
def step (s : ControlState) (c : Char) : ControlState × Bool :=
  let n := c.toNat
  if n = 0x1B then (escape, false)
  else if n = 0x18 ∨ n = 0x1A then (ground, false)
  else if n < 0x20 then
    match s with
    | command => (if n = 7 then ground else command, false)
    | ground => (ground, isControlSpace c)
    | escape => (escape, isControlSpace c)
    | escapeTail => (escapeTail, isControlSpace c)
    | sequence => (sequence, isControlSpace c)
    | s => (s, false)
  else (s.next c, s = ground && n ≠ 0x7F)

/-- The shown characters; `showing` says that the one before was. White space within a sequence
interrupts it: what follows is shown for as long as it would be outside of any sequence. After that
the sequence goes on, unless one of the shown characters was not ASCII. -/
def shown (s : ControlState) (showing : Bool) : List Char → List Char
  | [] => []
  | c :: cs =>
    if showing && (ground.step c).2 then c :: shown (if c.toNat < 0x80 then s else ground) true cs
    else
      match s.step c with
      | (s, true) => c :: shown s true cs
      | (s, false) => shown s false cs

end ControlState

def withoutControls (s : String) : String :=
  String.ofList (ControlState.ground.shown false s.toList)

end SyntaxPanel.Text
