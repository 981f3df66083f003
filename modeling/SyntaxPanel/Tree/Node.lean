import SyntaxPanel.Text.Measure

namespace SyntaxPanel

inductive Node where
  | mk (kind : String) (span : Span) (missing : Bool) (children : List Node)
deriving Repr

/-- Child indices from the root down. The empty path is the root. -/
abbrev NodePath := List Nat

namespace Node

def kind : Node → String
  | mk kind _ _ _ => kind

def span : Node → Span
  | mk _ span _ _ => span

def missing : Node → Bool
  | mk _ _ missing _ => missing

def children : Node → List Node
  | mk _ _ _ children => children

mutual

def decEq : (a b : Node) → Decidable (a = b)
  | mk kind span missing children, mk kind' span' missing' children' =>
    match decEqAll children children' with
    | isTrue same =>
      if h : kind = kind' ∧ span = span' ∧ missing = missing' then
        isTrue (by rw [h.1, h.2.1, h.2.2, same])
      else isFalse fun eq => by cases eq; exact h ⟨rfl, rfl, rfl⟩
    | isFalse differ => isFalse fun eq => by cases eq; exact differ rfl

def decEqAll : (as bs : List Node) → Decidable (as = bs)
  | [], [] => isTrue rfl
  | [], _ :: _ => isFalse nofun
  | _ :: _, [] => isFalse nofun
  | a :: as, b :: bs =>
    match decEq a b, decEqAll as bs with
    | isTrue first, isTrue rest => isTrue (by rw [first, rest])
    | isFalse differ, _ => isFalse fun eq => differ (List.cons.inj eq).1
    | _, isFalse differ => isFalse fun eq => differ (List.cons.inj eq).2

end

instance : DecidableEq Node := decEq

def isError (n : Node) : Bool := n.kind == "ERROR"

def isFlagged (n : Node) : Bool := n.isError || n.missing

def at? (n : Node) : NodePath → Option Node
  | [] => some n
  | i :: path =>
    match n.children[i]? with
    | some child => child.at? path
    | none => none

mutual

def size : Node → Nat
  | mk _ _ _ children => 1 + sizeAll children

def sizeAll : List Node → Nat
  | [] => 0
  | n :: rest => n.size + sizeAll rest

end

mutual

def hasError : Node → Bool
  | mk kind _ missing children => kind == "ERROR" || missing || anyHasError children

def anyHasError : List Node → Bool
  | [] => false
  | n :: rest => n.hasError || anyHasError rest

end

mutual

def preorder (path : NodePath) : Node → List (NodePath × Node)
  | mk kind span missing children =>
    (path, mk kind span missing children) :: preorderFrom path 0 children

def preorderFrom (path : NodePath) (index : Nat) : List Node → List (NodePath × Node)
  | [] => []
  | n :: rest => preorder (path ++ [index]) n ++ preorderFrom path (index + 1) rest

end

theorem sizeAll_append (a b : List Node) : sizeAll (a ++ b) = sizeAll a + sizeAll b := by
  induction a with
  | nil => simp only [List.nil_append, sizeAll, Nat.zero_add]
  | cons n a ih => simp only [List.cons_append, sizeAll, ih, Nat.add_assoc]

theorem size_eq (n : Node) : n.size = 1 + sizeAll n.children := by
  cases n
  simp only [size, children]

end Node

end SyntaxPanel
