import SyntaxPanel.Panel.Config
import SyntaxPanel.Tree.View

/-! The panel while it is open in an editor.
A document is active while it is focused, open and the panel is visible; only the active
document has a tree. Every event answers with what the host has to do. The changes of a batch are
applied in the order of delivery, and the tree is parsed at most once for all of them. -/
namespace SyntaxPanel

inductive TreeUpdate where
  /-- There was no tree to keep up to date, or no change. -/
  | untouched
  | incremental (edits : Nat)
  | reparsed
deriving DecidableEq, Repr

def Document.applyChanges (d : Document) :
    List ContentChange → Except Fault (Document × List (Option Edit))
  | [] => .ok (d, [])
  | c :: rest => do
    let (d, edit) ← d.applyChange c
    let (d, edits) ← d.applyChanges rest
    return (d, edit :: edits)

def allEdits? (edits : List (Option Edit)) : Option (List Edit) :=
  edits.mapM id

def TreeView.update (P : Parser) (policy : ReparsePolicy) (v : TreeView) (d : Document)
    (edits : List (Option Edit)) : TreeView × TreeUpdate :=
  if edits = [] then (v, .untouched)
  else match policy, v.isLoaded, allEdits? edits with
    | .incremental, true, some edits =>
      (v.applyEdits P edits d.text d.path, .incremental edits.length)
    | _, _, _ => (v.parse P d.text d.path, .reparsed)

def applyBatch (P : Parser) (policy : ReparsePolicy) (d : Document) (changes : List ContentChange)
    (view : Option TreeView) : Except Fault (Document × Option TreeView × TreeUpdate) := do
  let (d, edits) ← d.applyChanges changes
  match view with
  | none => return (d, none, .untouched)
  | some v =>
    let (v, update) := v.update P policy d edits
    return (d, some v, update)

/-- A request to decorate exactly these ranges of a document. No ranges clear it. -/
structure Highlight where
  document : DocumentId
  ranges : List Range
deriving DecidableEq, Repr

structure Highlighter where
  owner : Option DocumentId := none
  selection : List NodePath := []
  highlighted : Option DocumentId := none
  ranges : List Range := []
deriving DecidableEq, Repr

namespace Highlighter

def select (h : Highlighter) (owner : Option DocumentId) (nodes : List NodePath) : Highlighter :=
  { h with owner, selection := nodes }

def retarget (h : Highlighter) (document : DocumentId) : Highlighter :=
  if h.owner = some document then h
  else { h with owner := some document, selection := [] }

def rangesOf (d : Document) : List Span → Except Fault (List Range)
  | [] => .ok []
  | s :: rest => do
    let range ← d.range s
    let ranges ← rangesOf d rest
    return range :: ranges

def reveal (h : Highlighter) (id : DocumentId) (d : Document) (v : TreeView) :
    Except Fault (Highlighter × Highlight) := do
  let ranges ← rangesOf d (h.selection.filterMap v.span?)
  return ({ h with highlighted := some id, ranges }, ⟨id, ranges⟩)

def hide (h : Highlighter) : Highlighter × Option Highlight :=
  let request := if h.ranges = [] then none else h.highlighted.map (⟨·, []⟩)
  ({ h with highlighted := none, ranges := [] }, request)

end Highlighter

inductive Event where
  | opened (id : DocumentId) (path text : String)
  | closed (id : DocumentId)
  | changed (id : DocumentId) (changes : List ContentChange)
  | focused (id : Option DocumentId)
  | visibility (visible : Bool)
  | selected (nodes : List NodePath)
deriving DecidableEq, Repr

inductive Effect where
  | treeChanged (document : Option DocumentId)
  | highlight (request : Highlight)
deriving DecidableEq, Repr

structure Session where
  view : TreeView
  policy : ReparsePolicy
  highlighter : Highlighter := {}
  documents : Store := {}
  focused : Option DocumentId := none
  active : Option DocumentId := none
  visible : Bool := false
deriving DecidableEq, Repr

/-- What an event leads to: the session after it with what the host has to do, unless it breaks
down. -/
abbrev Outcome := Except Fault (Session × List Effect)

namespace Session

def new (compiler : Compiler) (policy : ReparsePolicy) : Session :=
  { view := { compiler }, policy }

def document? (s : Session) (id : DocumentId) : Option Document := s.documents.find? id

def selection (s : Session) : List NodePath := s.highlighter.selection

def highlights (s : Session) : List Range := s.highlighter.ranges

def activeDocument? (s : Session) : Option Document := s.active.bind s.document?

def target? (s : Session) : Option (DocumentId × Document) :=
  match s.focused with
  | none => none
  | some id => if s.visible then (s.document? id).map (id, ·) else none

def hideHighlights (s : Session) : Session × List Effect :=
  let (highlighter, request) := s.highlighter.hide
  ({ s with highlighter }, request.toList.map .highlight)

def activate (P : Parser) (s : Session) (id : DocumentId) (d : Document) : Session × List Effect :=
  let (s, effects) := if s.active = some id then (s, []) else s.hideHighlights
  ({ s with
      highlighter := s.highlighter.retarget id
      view := s.view.parse P d.text d.path
      active := some id },
    effects ++ [.treeChanged (some id)])

def deactivate (s : Session) : Session × List Effect :=
  let (s, effects) := s.hideHighlights
  match s.active with
  | none => (s, effects)
  | some _ => ({ s with active := none, view := s.view.clear }, effects ++ [.treeChanged none])

/-- Moves to the active document that focus, visibility and the open documents ask for. -/
def sync (P : Parser) (s : Session) : Session × List Effect :=
  match s.target? with
  | some (id, d) => s.activate P id d
  | none => s.deactivate

def showHighlights (s : Session) : Outcome :=
  match s.active, s.activeDocument? with
  | some id, some d => do
    let (highlighter, request) ← s.highlighter.reveal id d s.view
    return ({ s with highlighter }, [.highlight request])
  | _, _ => .ok (s, [])

def opened (P : Parser) (s : Session) (id : DocumentId) (path text : String) :
    Session × List Effect :=
  let s := { s with documents := s.documents.put id ⟨path, text⟩ }
  if s.active = some id ∨ s.focused = some id then s.sync P else (s, [])

def closed (P : Parser) (s : Session) (id : DocumentId) : Session × List Effect :=
  let s := { s with
    documents := s.documents.erase id
    focused := if s.focused = some id then none else s.focused }
  if s.active = some id then s.sync P else (s, [])

/-- Applies a batch of changes. A document that is not open is left alone. -/
def changed (P : Parser) (s : Session) (id : DocumentId) (changes : List ContentChange) : Outcome :=
  match s.document? id with
  | none => .ok (s, [])
  | some d => do
    let isActive := s.active = some id
    let (d, view, update) ←
      applyBatch P s.policy d changes (if isActive then some s.view else none)
    let s := { s with documents := s.documents.put id d, view := view.getD s.view }
    match update with
    | .untouched => return (s, [])
    | _ => return (s, [.treeChanged (some id)])

def focusedOn (P : Parser) (s : Session) (id : Option DocumentId) : Session × List Effect :=
  { s with focused := id }.sync P

def setVisible (P : Parser) (s : Session) (visible : Bool) : Outcome :=
  if s.visible = visible then .ok (s, [])
  else do
    let (s, effects) := { s with visible }.sync P
    if visible then
      let (s, shown) ← s.showHighlights
      return (s, effects ++ shown)
    else return (s, effects)

def select (s : Session) (nodes : List NodePath) : Outcome :=
  let s := { s with highlighter := s.highlighter.select (s.active.or s.focused) nodes }
  if s.visible then s.showHighlights else .ok (s, [])

def step (P : Parser) (s : Session) : Event → Outcome
  | .opened id path text => .ok (s.opened P id path text)
  | .closed id => .ok (s.closed P id)
  | .changed id changes => s.changed P id changes
  | .focused id => .ok (s.focusedOn P id)
  | .visibility visible => s.setVisible P visible
  | .selected nodes => s.select nodes

def run (P : Parser) (s : Session) : List Event → Outcome
  | [] => .ok (s, [])
  | e :: rest => do
    let (s, effects) ← s.step P e
    let (s, more) ← s.run P rest
    return (s, effects ++ more)

def children (s : Session) (parent : Option NodePath) : List NodePath := s.view.children parent

def describe (s : Session) (path : NodePath) : Option TreeItem :=
  s.activeDocument?.bind fun d => s.view.describe path d.text

def dump (s : Session) : String :=
  s.view.dump ((s.activeDocument?.map Document.text).getD "")

end Session

inductive Shell where
  | inactive
  | unavailable (reason : UnknownCompiler)
  | active (session : Session)
deriving DecidableEq, Repr

inductive ShellState where
  | inactive
  | unavailable
  | noDocument
  | withDocument
deriving DecidableEq, Repr

namespace Shell

/-- Resolves the compiler of a configuration. Only the first call does anything. -/
def activate (sh : Shell) (config : Config) : Shell :=
  match sh with
  | inactive =>
    match Compiler.resolve config.compiler with
    | .ok compiler => active (Session.new compiler config.reparse)
    | .error reason => unavailable reason
  | sh => sh

def session? : Shell → Option Session
  | active s => some s
  | _ => none

def failure? : Shell → Option UnknownCompiler
  | unavailable reason => some reason
  | _ => none

def state : Shell → ShellState
  | inactive => .inactive
  | unavailable _ => .unavailable
  | active s => if s.active.isSome then .withDocument else .noDocument

def step (P : Parser) (sh : Shell) (e : Event) : Except Fault (Shell × List Effect) :=
  match sh with
  | active s => do
    let (s, effects) ← s.step P e
    return (active s, effects)
  | sh => .ok (sh, [])

end Shell

end SyntaxPanel
