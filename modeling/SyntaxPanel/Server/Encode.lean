import SyntaxPanel.Server

namespace SyntaxPanel

def Position.toJson (p : Position) : Json :=
  Json.ofFields [("line", .ofNat p.line), ("character", .ofNat p.character)]

def Range.toJson (r : Range) : Json :=
  Json.ofFields [("start", r.start.toJson), ("end", r.stop.toJson)]

def Collapsible.name : Collapsible → String
  | none => "none"
  | collapsed => "collapsed"

def PlacedItem.toJson (p : PlacedItem) : Json :=
  let description := match p.item.description with
    | some d => [("description", Json.str d)]
    | none => []
  Json.ofFields ([("path", .arr (p.item.path.map .ofNat)), ("label", .str p.item.label),
    ("collapsible", .str p.item.collapsible.name), ("kind", .str p.item.kind),
    ("range", p.range.toJson), ("error", .bool p.item.error)] ++ description)

def capabilities : Json :=
  Json.ofFields [
    ("capabilities", Json.ofFields [
      ("textDocumentSync", Json.ofFields [("openClose", .bool true), ("change", .int 2)]),
      ("experimental", Json.ofFields [("syntaxTreeView", .bool true)])]),
    ("serverInfo", Json.ofFields [
      ("name", .str "astview-lsp-server"), ("version", .str "0.1.0")])]

def Answer.toJson : Answer → Json
  | capabilities => SyntaxPanel.capabilities
  | done => .null
  | items found => .arr (found.map PlacedItem.toJson)
  | item none => .null
  | item (some found) => found.toJson

def Refusal.toJson (r : Refusal) : Json :=
  Json.ofFields [("code", .int r.code), ("message", .str r.message)]

namespace Notice

def method : Notice → String
  | treeChanged _ => "astview/treeChanged"
  | highlight .. => "astview/highlight"
  | showError _ => "window/showMessage"

def params : Notice → Json
  | treeChanged none => Json.ofFields [("uri", .null)]
  | treeChanged (some uri) => Json.ofFields [("uri", .str uri.text)]
  | highlight uri ranges =>
    Json.ofFields [("uri", .str uri.text), ("ranges", .arr (ranges.map Range.toJson))]
  | showError message => Json.ofFields [("type", .int 1), ("message", .str message)]

end Notice

namespace Outgoing

def fields : Outgoing → List (String × Json)
  | answer id a => [("id", id.toJson), ("result", a.toJson)]
  | refusal id r => [("id", id.toJson), ("error", r.toJson)]
  | notice n => [("method", .str n.method), ("params", n.params)]

def toJson (o : Outgoing) : Json := Json.ofFields o.fields

end Outgoing

end SyntaxPanel
