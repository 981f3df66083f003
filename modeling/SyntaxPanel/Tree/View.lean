import SyntaxPanel.Compiler
import SyntaxPanel.Document
import SyntaxPanel.Text.Quoted
import SyntaxPanel.Tree.Problems

/-! The tree of one document, as the side panel shows it item by item.
Parsing itself is not done here: a parser answers every text with a tree, and it can be given the
old tree with the edits made since as a hint. Every question takes a node path and resolves it anew,
so a path that no longer leads anywhere is answered with nothing. -/
namespace SyntaxPanel

/-- A tree with the dialect that it was parsed in and the edits it has not been parsed with. -/
structure SyntaxTree where
  dialect : Dialect
  root : Node
  edits : List Edit := []
deriving DecidableEq, Repr

def SyntaxTree.edit (t : SyntaxTree) (e : Edit) : SyntaxTree :=
  { t with edits := t.edits ++ [e] }

structure Parser where
  parse : Dialect → String → Node
  reparse : SyntaxTree → String → Node

structure KnownTree where
  dialect : Dialect
  text : String
  root : Node
deriving DecidableEq, Repr

def Node.unparsed (text : String) : Node :=
  .mk "ERROR" ⟨0, Text.bytes text.toList, Nat.zero_le _⟩ false []

namespace Parser

/-- The parser that knows some texts by heart and does not understand any other. -/
def ofTable (known : List KnownTree) : Parser :=
  let find (dialect : Dialect) (text : String) : Node :=
    match known.find? fun k => k.dialect = dialect && k.text == text with
    | some k => k.root
    | none => .unparsed text
  { parse := find, reparse := fun t text => find t.dialect text }

end Parser

inductive Collapsible where
  | none
  | collapsed
deriving DecidableEq, Repr

structure TreeItem where
  path : NodePath
  label : String
  description : Option String
  collapsible : Collapsible
  kind : String
  span : Span
  error : Bool
deriving DecidableEq, Repr

def sourceText? (text : String) (s : Span) : Option String :=
  (Text.slice? text.toList s.start s.stop).map String.ofList

def TreeItem.ofNode (compiler : Compiler) (text : String) (path : NodePath) (n : Node) :
    TreeItem where
  path := path
  label := n.kind ++ " [" ++ toString n.span.start ++ ", " ++ toString n.span.stop ++ ")"
  description := if compiler.isIdentifier n.kind then sourceText? text n.span else none
  collapsible := if n.children = [] then .none else .collapsed
  kind := n.kind
  span := n.span
  error := n.isFlagged

structure TreeView where
  compiler : Compiler
  tree : Option SyntaxTree := none
deriving DecidableEq, Repr

namespace TreeView

def isLoaded (v : TreeView) : Bool := v.tree.isSome

def clear (v : TreeView) : TreeView := { v with tree := none }

def parse (P : Parser) (v : TreeView) (text path : String) : TreeView :=
  let dialect := v.compiler.dialect path
  { v with tree := some { dialect, root := P.parse dialect text } }

/-- Brings the tree up to date over edits, of which `text` is the outcome. The tree keeps its
dialect. Without a tree the text is parsed from scratch. -/
def applyEdits (P : Parser) (v : TreeView) (edits : List Edit) (text path : String) : TreeView :=
  match v.tree with
  | none => v.parse P text path
  | some t =>
    let edited := edits.foldl SyntaxTree.edit t
    { v with tree := some { dialect := t.dialect, root := P.reparse edited text } }

def node? (v : TreeView) (path : NodePath) : Option Node :=
  match v.tree with
  | none => none
  | some t => t.root.at? path

def children (v : TreeView) (parent : Option NodePath) : List NodePath :=
  let path := parent.getD []
  match v.node? path with
  | none => []
  | some n => (List.range n.children.length).map fun i => path ++ [i]

def describe (v : TreeView) (path : NodePath) (text : String) : Option TreeItem :=
  (v.node? path).map (TreeItem.ofNode v.compiler text path)

def span? (v : TreeView) (path : NodePath) : Option Span := (v.node? path).map Node.span

def problems (v : TreeView) : List Diagnostic :=
  match v.tree with
  | none => []
  | some t => t.root.problems

def items (v : TreeView) (text : String) : List TreeItem :=
  match v.tree with
  | none => []
  | some t => (t.root.preorder []).map fun (path, n) => TreeItem.ofNode v.compiler text path n

end TreeView

/-- One line of a dump: indented by depth, with the description and a mark for errors. -/
def TreeItem.line (item : TreeItem) : String :=
  String.ofList (List.replicate (2 * item.path.length) ' ') ++ item.label ++
    (match item.description with
      | some d => " " ++ Text.quote d
      | none => "") ++
    (if item.error then " !" else "") ++ "\n"

def TreeView.dump (v : TreeView) (text : String) : String :=
  String.join ((v.items text).map TreeItem.line)

end SyntaxPanel
