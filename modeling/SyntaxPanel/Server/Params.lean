import SyntaxPanel.Panel.Session
import SyntaxPanel.Server.Capabilities
import SyntaxPanel.Server.Message
import SyntaxPanel.Uri

namespace SyntaxPanel

def Uri.decode : Decoder Uri := fun j =>
  match Json.decodeString j with
  | .error e => .error e
  | .ok s => (Uri.parse s).mapError fun e => .refused e.message

def decodeNodePath : Decoder NodePath := Json.decodeList Json.decodeNat32

structure InitializeParams where
  processId : Option Nat
  options : Option Json
deriving DecidableEq, Repr

namespace InitializeParams

open Check

def fields : List Field :=
  [optional "processId" nat32,
   optional "rootPath" string,
   optional "rootUri" (of Uri.decode),
   optional "initializationOptions" any,
   required "capabilities" Capabilities.client,
   optional "trace" (name ["off", "messages", "verbose"]),
   optional "workspaceFolders"
     (list (record "WorkspaceFolder" [required "uri" (of Uri.decode), required "name" string])),
   optional "clientInfo"
     (record "ClientInfo" [required "name" string, optional "version" string]),
   optional "locale" string]

def taskName : Field := optional "workDoneToken" (union "NumberOrString" [int32, string])

def decode : Decoder InitializeParams
  | .obj written => do
    object fields written
    object [taskName] written
    let f : Json.Fields := ⟨"InitializeParams", [], .inl written⟩
    return {
      processId := ← f.optional "processId" Json.decodeNat32
      options := ← f.optional "initializationOptions" .ok }
  | j => j.wrongKind "struct InitializeParams"

/-- The configuration of a connection: that of the server with the client's options. Options
that cannot be read are ignored as a whole. -/
def configure (p : InitializeParams) (c : Config) : Config :=
  match p.options.map InitializationOptions.decode with
  | some (.ok options) => options.apply c
  | _ => c

end InitializeParams

inductive Question where
  | children (parent : Option NodePath)
  | describe (node : NodePath)
deriving DecidableEq, Repr

namespace Question

def childrenMethod : String := "astview/children"

def describeMethod : String := "astview/describe"

def decodeChildren : Decoder Question := fun j => do
  let f ← Json.openRecord "ChildrenParams" ["parent"] j
  let parent ← f.optional "parent" decodeNodePath
  f.close
  return .children parent

def decodeDescribe : Decoder Question := fun j => do
  let f ← Json.openRecord "DescribeParams" ["node"] j
  let node ← f.required "node" decodeNodePath
  f.close
  return .describe node

def decoder? (method : String) : Option (Decoder Question) :=
  if method = childrenMethod then some decodeChildren
  else if method = describeMethod then some decodeDescribe
  else none

end Question

namespace Event

def decodePosition : Decoder Position := fun j => do
  let f ← Json.openRecord "Position" ["line", "character"] j
  let line ← f.required "line" Json.decodeNat32
  let character ← f.required "character" Json.decodeNat32
  f.close
  return { line, character }

def decodeRange : Decoder Range := fun j => do
  let f ← Json.openRecord "Range" ["start", "end"] j
  let start ← f.required "start" decodePosition
  let stop ← f.required "end" decodePosition
  f.close
  return { start, stop }

def decodeChange : Decoder ContentChange := fun j => do
  let f ← Json.openRecord "TextDocumentContentChangeEvent" ["range", "rangeLength", "text"] j
  let range ← f.optional "range" decodeRange
  let _ ← f.optional "rangeLength" Json.decodeNat32
  let text ← f.required "text" Json.decodeString
  f.close
  return { range, text }

def decodeTextDocument : Decoder Event := fun j => do
  let f ← Json.openRecord "TextDocumentItem" ["uri", "languageId", "version", "text"] j
  let uri ← f.required "uri" Uri.decode
  let _ ← f.required "languageId" Json.decodeString
  let _ ← f.required "version" Json.decodeInt32
  let text ← f.required "text" Json.decodeString
  f.close
  return .opened uri.text uri.path text

def decodeOpened : Decoder Event := fun j => do
  let f ← Json.openRecord "DidOpenTextDocumentParams" ["textDocument"] j
  let event ← f.required "textDocument" decodeTextDocument
  f.close
  return event

def decodeVersionedId : Decoder Uri := fun j => do
  let f ← Json.openRecord "VersionedTextDocumentIdentifier" ["uri", "version"] j
  let uri ← f.required "uri" Uri.decode
  let _ ← f.required "version" Json.decodeInt32
  f.close
  return uri

def decodeChanged : Decoder Event := fun j => do
  let f ← Json.openRecord "DidChangeTextDocumentParams" ["textDocument", "contentChanges"] j
  let uri ← f.required "textDocument" decodeVersionedId
  let changes ← f.required "contentChanges" (Json.decodeList decodeChange)
  f.close
  return .changed uri.text changes

def decodeId : Decoder Uri := fun j => do
  let f ← Json.openRecord "TextDocumentIdentifier" ["uri"] j
  let uri ← f.required "uri" Uri.decode
  f.close
  return uri

def decodeClosed : Decoder Event := fun j => do
  let f ← Json.openRecord "DidCloseTextDocumentParams" ["textDocument"] j
  let uri ← f.required "textDocument" decodeId
  f.close
  return .closed uri.text

def decodeFocused : Decoder Event := fun j => do
  let f ← Json.openRecord "ActiveEditorChangedParams" ["uri"] j
  let uri ← f.optional "uri" Uri.decode
  f.close
  return .focused (uri.map Uri.text)

def decodeVisibility : Decoder Event := fun j => do
  let f ← Json.openRecord "VisibilityChangedParams" ["visible"] j
  let visible ← f.required "visible" Json.decodeBool
  f.close
  return .visibility visible

def decodeSelected : Decoder Event := fun j => do
  let f ← Json.openRecord "SelectionChangedParams" ["nodes"] j
  let nodes ← f.required "nodes" (Json.decodeList decodeNodePath)
  f.close
  return .selected nodes

def decoders : List (String × Decoder Event) :=
  [("textDocument/didOpen", decodeOpened),
   ("textDocument/didChange", decodeChanged),
   ("textDocument/didClose", decodeClosed),
   ("astview/activeEditorChanged", decodeFocused),
   ("astview/visibilityChanged", decodeVisibility),
   ("astview/selectionChanged", decodeSelected)]

/-- The event that a notification stands for; none if its method is not known or its
parameters cannot be read. -/
def ofNotification? (n : Notification) : Option Event :=
  match decoders.lookup n.method with
  | none => none
  | some d => (d n.params).toOption

end Event

end SyntaxPanel
