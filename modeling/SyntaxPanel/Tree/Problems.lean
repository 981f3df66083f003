import SyntaxPanel.Diagnostic
import SyntaxPanel.Tree.Node

/-! The syntax errors of a tree, gathered by a cursor that goes through it once.
The walk looks neither below an `ERROR` node nor below a node without errors. The cursor never goes
back to a sibling that it has left, so of the rest of the tree it only keeps what follows. -/
namespace SyntaxPanel

structure Cursor where
  node : Node
  siblings : List Node := []
  /-- The nodes above, the nearest first, each with the siblings that follow it. -/
  above : List (Node × List Node) := []

namespace Cursor

def firstChild? (c : Cursor) : Option Cursor :=
  match c.node.children with
  | [] => none
  | child :: rest => some ⟨child, rest, (c.node, c.siblings) :: c.above⟩

def nextSibling? (c : Cursor) : Option Cursor :=
  match c.siblings with
  | [] => none
  | next :: rest => some { c with node := next, siblings := rest }

def parent? (c : Cursor) : Option Cursor :=
  match c.above with
  | [] => none
  | (up, siblings) :: above => some ⟨up, siblings, above⟩

theorem above_lt_of_parent {c up : Cursor} (moved : c.parent? = some up) :
    up.above.length < c.above.length := by
  obtain ⟨node, siblings, above⟩ := c
  cases above with
  | nil => cases moved
  | cons entry above =>
    cases moved
    exact Nat.lt_succ_self _

def leave? (c : Cursor) : Option Cursor :=
  match c.nextSibling? with
  | some next => some next
  | none =>
    match _ : c.parent? with
    | some up => up.leave?
    | none => none
termination_by c.above.length
decreasing_by exact above_lt_of_parent ‹_›

def outside (c : Cursor) : List Node := c.siblings ++ c.above.flatMap Prod.snd

def ahead : Option Cursor → List Node
  | none => []
  | some c => c.node :: c.outside

theorem outside_eq_ahead (c : Cursor) : c.outside = ahead c.leave? := by
  obtain ⟨node, siblings, above⟩ := c
  induction above generalizing node siblings with
  | nil =>
    rw [leave?]
    cases siblings <;> rfl
  | cons entry above ih =>
    rw [leave?]
    cases siblings with
    | nil => exact ih entry.1 entry.2
    | cons sibling rest => rfl

theorem children_append_outside {c child : Cursor} (moved : c.firstChild? = some child) :
    c.node.children ++ c.outside = ahead (some child) := by
  unfold firstChild? at moved
  split at moved
  · cases moved
  · rename_i first rest children
    cases moved
    simp [children, ahead, outside]

theorem children_of_firstChild {c : Cursor} (stuck : c.firstChild? = none) :
    c.node.children = [] := by
  unfold firstChild? at stuck
  split at stuck
  · assumption
  · cases stuck

end Cursor

namespace Node

def problem? (n : Node) : Option Diagnostic :=
  if n.isError then some ⟨"unexpected syntax", n.span⟩
  else if n.missing then some ⟨"missing `" ++ n.kind ++ "`", n.span⟩
  else none

def isOpen (n : Node) : Bool := !n.isError && n.hasError

end Node

namespace Cursor

/-- Where the walk goes on: below the node if that can be of use, else outside it. -/
def next? (c : Cursor) : Option Cursor :=
  match if c.node.isOpen then c.firstChild? else none with
  | some child => some child
  | none => c.leave?

theorem ahead_next (c : Cursor) :
    ahead c.next? = (if c.node.isOpen then c.node.children else []) ++ c.outside := by
  unfold next?
  by_cases opened : c.node.isOpen
  · rw [if_pos opened, if_pos opened]
    cases moved : c.firstChild? with
    | some child => exact (children_append_outside moved).symm
    | none =>
      rw [children_of_firstChild moved]
      exact (outside_eq_ahead c).symm
  · rw [if_neg opened, if_neg opened]
    exact (outside_eq_ahead c).symm

def remaining (c : Cursor) : Nat := Node.sizeAll (ahead (some c))

theorem remaining_lt_of_next {c next : Cursor} (moved : c.next? = some next) :
    next.remaining < c.remaining := by
  have rest := ahead_next c
  rw [moved] at rest
  rw [remaining, remaining, rest, ahead, Node.sizeAll_append, Node.sizeAll, Node.size_eq]
  split
  · omega
  · simp only [Node.sizeAll]
    omega

def walk (c : Cursor) : List Diagnostic :=
  c.node.problem?.toList ++
    match _ : c.next? with
    | some next => next.walk
    | none => []
termination_by c.remaining
decreasing_by exact remaining_lt_of_next ‹_›

end Cursor

def Node.problems (n : Node) : List Diagnostic := Cursor.walk { node := n }

end SyntaxPanel
