import SyntaxPanel.Proofs.Document.Range
import SyntaxPanel.Tree.View

namespace SyntaxPanel

open Text (Boundary)

namespace Node

def Fits (cs : List Char) (n : Node) : Prop :=
  ∀ entry ∈ n.preorder [], Boundary cs entry.2.span.start ∧ Boundary cs entry.2.span.stop

instance (cs : List Char) (n : Node) : Decidable (n.Fits cs) :=
  inferInstanceAs (Decidable (∀ _ ∈ _, _))

theorem mem_preorder_self (path : NodePath) (n : Node) : (path, n) ∈ n.preorder path := by
  cases n
  simp only [preorder, List.mem_cons, true_or]

theorem mem_preorderFrom {path : NodePath} {entry : NodePath × Node} {children : List Node}
    {child : Node} {i k : Nat} (found : children[i]? = some child)
    (mem : entry ∈ child.preorder (path ++ [k + i])) :
    entry ∈ preorderFrom path k children := by
  induction children generalizing i k with
  | nil => simp at found
  | cons n rest ih =>
    simp only [preorderFrom, List.mem_append]
    cases i with
    | zero =>
      obtain rfl : n = child := by simpa using found
      exact .inl mem
    | succ i =>
      have later : rest[i]? = some child := by simpa using found
      have shifted : k + 1 + i = k + (i + 1) := by omega
      exact .inr (ih later (shifted ▸ mem))

theorem mem_preorder {n found : Node} {base path : NodePath} (led : n.at? path = some found) :
    (base ++ path, found) ∈ n.preorder base := by
  induction path generalizing n base with
  | nil =>
    obtain rfl : n = found := by simpa [at?] using led
    rw [List.append_nil]
    exact mem_preorder_self base n
  | cons i path ih =>
    unfold at? at led
    split at led
    · rename_i child at_i
      have below : (base ++ [0 + i] ++ path, found) ∈ child.preorder (base ++ [0 + i]) := ih led
      rw [List.append_assoc, Nat.zero_add, List.singleton_append] at below
      obtain ⟨kind, span, missing, children⟩ := n
      simp only [preorder, List.mem_cons]
      exact .inr (mem_preorderFrom at_i (by rwa [Nat.zero_add]))
    · cases led

theorem Fits.at? {cs : List Char} {n found : Node} {path : NodePath} (fit : n.Fits cs)
    (led : n.at? path = some found) :
    Boundary cs found.span.start ∧ Boundary cs found.span.stop :=
  fit _ (mem_preorder led)

theorem fits_unparsed (text : String) : (unparsed text).Fits text.toList := by
  intro entry mem
  obtain rfl : entry = ([], unparsed text) := List.mem_singleton.mp mem
  exact ⟨⟨[], text.toList, rfl, rfl⟩, Text.boundary_end text.toList⟩

end Node

namespace Parser

/-- The trees that a parser answers for a text: one parsed from scratch, or one made from the
tree of an older text and all the edits since. -/
inductive Answers (P : Parser) (dialect : Dialect) : String → Node → Prop where
  | parse (text : String) : Answers P dialect text (P.parse dialect text)
  | reparse {old new : String} {root : Node} {edits : List Edit}
      (earlier : Answers P dialect old root) (lead : EditsLead edits old.toList new.toList) :
      Answers P dialect new (P.reparse { dialect, root, edits } new)

def KeepsToText (P : Parser) : Prop :=
  ∀ dialect text root, P.Answers dialect text root → root.Fits text.toList

theorem answers_ofTable {known : List KnownTree} {dialect : Dialect} {text : String} {root : Node}
    (answered : (ofTable known).Answers dialect text root) :
    (∃ k ∈ known, k.text = text ∧ root = k.root) ∨ root = .unparsed text := by
  have parsed (dialect : Dialect) (text : String) :
      (∃ k ∈ known, k.text = text ∧ (ofTable known).parse dialect text = k.root) ∨
        (ofTable known).parse dialect text = .unparsed text := by
    unfold ofTable
    dsimp only
    split
    · rename_i k found
      have asked := List.find?_some found
      simp only [Bool.and_eq_true, beq_iff_eq] at asked
      exact .inl ⟨k, List.mem_of_find?_eq_some found, asked.2, rfl⟩
    · exact .inr rfl
  cases answered with
  | parse => exact parsed dialect text
  | reparse => exact parsed dialect text

theorem ofTable_keepsToText {known : List KnownTree}
    (fit : ∀ k ∈ known, k.root.Fits k.text.toList) : (ofTable known).KeepsToText := by
  intro dialect text root answered
  rcases answers_ofTable answered with ⟨k, mem, rfl, rfl⟩ | rfl
  · exact fit k mem
  · exact Node.fits_unparsed text

end Parser

end SyntaxPanel
