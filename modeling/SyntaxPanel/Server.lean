import SyntaxPanel.Server.Params

/-! The panel behind a connection.
A connection begins with a handshake in which the client may set options, then serves questions
and events, and ends with a shutdown. One message is taken at a time, and everything that is
sent because of it is sent before the next one is looked at. -/
namespace SyntaxPanel

structure PlacedItem where
  item : TreeItem
  range : Range
deriving DecidableEq, Repr

inductive Answer where
  | capabilities
  | done
  | items (items : List PlacedItem)
  | item (item : Option PlacedItem)
deriving DecidableEq, Repr

inductive Refusal where
  | notInitialized (r : Request)
  | invalidParams (method : String) (error : DecodeError) (params : Json)
  | unknownMethod
deriving DecidableEq, Repr

namespace Refusal

def code : Refusal → Int
  | notInitialized _ => -32002
  | invalidParams .. => -32602
  | unknownMethod => -32601

def unreadable (what : String) (error : DecodeError) (params : Json) : String :=
  "Failed to deserialize " ++ what ++ ": " ++ error.message ++ "; " ++ params.compact

def message : Refusal → String
  | notInitialized r => "expected initialize request, got " ++ r.listing
  | invalidParams method error params => unreadable method error params
  | unknownMethod => "unknown request"

end Refusal

inductive Notice where
  | treeChanged (document : Option Uri)
  | highlight (document : Uri) (ranges : List Range)
  | showError (message : String)
deriving DecidableEq, Repr

inductive Outgoing where
  | answer (id : RequestId) (a : Answer)
  | refusal (id : RequestId) (r : Refusal)
  | notice (n : Notice)
deriving DecidableEq, Repr

inductive ServerError where
  | notInitialize (m : Message)
  | invalidInitialize (error : DecodeError) (params : Json)
  | notInitialized (m : Message)
  | notExit (m : Message)
  | disconnected
  | noExit
deriving DecidableEq, Repr

namespace ServerError

def message : ServerError → String
  | notInitialize m => "expected initialize request, got " ++ m.listing
  | invalidInitialize error params => Refusal.unreadable "InitializeParams" error params
  | notInitialized m => "expected initialized notification, got: " ++ m.listing
  | notExit m => "unexpected message during shutdown: " ++ m.listing
  | disconnected => "disconnected channel"
  | noExit => "channel disconnected waiting for exit notification"

end ServerError

inductive Server where
  | awaitingInitialize (base : Config)
  | awaitingInitialized (config : Config)
  | running (shell : Shell)
  | awaitingExit
  | ended (error : Option ServerError)
deriving DecidableEq, Repr

namespace Server

def new (base : Config) : Server := awaitingInitialize base

def placeItem (s : Session) (item : TreeItem) : Except Fault PlacedItem :=
  match s.activeDocument? with
  | none => .ok ⟨item, ⟨⟨0, 0⟩, ⟨0, 0⟩⟩⟩
  | some d => do
    let range ← d.range item.span
    return ⟨item, range⟩

def placeItems (s : Session) : List TreeItem → Except Fault (List PlacedItem)
  | [] => .ok []
  | item :: rest => do
    let placed ← placeItem s item
    let others ← placeItems s rest
    return placed :: others

def ask (sh : Shell) (q : Question) : Except Fault Answer :=
  match sh.session?, q with
  | none, .children _ => .ok (.items [])
  | none, .describe _ => .ok (.item none)
  | some s, .children parent => do
    let items ← placeItems s ((s.children parent).filterMap s.describe)
    return .items items
  | some s, .describe node =>
    match s.describe node with
    | none => .ok (.item none)
    | some item => do
      let placed ← placeItem s item
      return .item (some placed)

def handleRequest (sh : Shell) (r : Request) : Except Fault Outgoing :=
  match Question.decoder? r.method with
  | none => .ok (.refusal r.id .unknownMethod)
  | some decode =>
    match decode r.params with
    | .error e => .ok (.refusal r.id (.invalidParams r.method e r.params))
    | .ok q => do
      let answer ← ask sh q
      return .answer r.id answer

/-- What the client is told of an effect. A document whose id is no URI cannot be named, so
that its highlights are not sent. -/
def noticeOf? : Effect → Option Notice
  | .treeChanged none => some (.treeChanged none)
  | .treeChanged (some id) => some (.treeChanged (Uri.parse? id))
  | .highlight h => (Uri.parse? h.document).map fun uri => .highlight uri h.ranges

def handleNotification (P : Parser) (sh : Shell) (n : Notification) :
    Except Fault (Shell × List Outgoing) :=
  match Event.ofNotification? n with
  | none => .ok (sh, [])
  | some e => do
    let (sh, effects) ← sh.step P e
    return (sh, (effects.filterMap noticeOf?).map .notice)

def start (config : Config) : Shell × List Outgoing :=
  let sh := Shell.inactive.activate config
  match sh.failure? with
  | none => (sh, [])
  | some e => (sh, [.notice (.showError ("Syntax tree view unavailable: " ++ e.message))])

def handleInitialize (base : Config) (r : Request) : Server × List Outgoing :=
  match InitializeParams.decode r.params with
  | .error e => (ended (some (.invalidInitialize e r.params)), [])
  | .ok params => (awaitingInitialized (params.configure base), [.answer r.id .capabilities])

def step (P : Parser) (s : Server) (m : Message) : Except Fault (Server × List Outgoing) :=
  match s, m with
  | awaitingInitialize base, .request r =>
    if r.method = "initialize" then .ok (handleInitialize base r)
    else .ok (s, [.refusal r.id (.notInitialized r)])
  | awaitingInitialize _, .notification n =>
    if n.method = "exit" then .ok (ended (some (.notInitialize m)), []) else .ok (s, [])
  | awaitingInitialize _, .response _ => .ok (ended (some (.notInitialize m)), [])
  | awaitingInitialized config, .notification n =>
    if n.method = "initialized" then
      let (sh, sent) := start config
      .ok (running sh, sent)
    else .ok (ended (some (.notInitialized m)), [])
  | awaitingInitialized _, _ => .ok (ended (some (.notInitialized m)), [])
  | running sh, .request r =>
    if r.method = "shutdown" then .ok (awaitingExit, [.answer r.id .done])
    else do
      let answer ← handleRequest sh r
      return (s, [answer])
  | running sh, .notification n => do
    let (sh, sent) ← handleNotification P sh n
    return (running sh, sent)
  | running _, .response _ => .ok (s, [])
  | awaitingExit, .notification n =>
    if n.method = "exit" then .ok (ended none, []) else .ok (ended (some (.notExit m)), [])
  | awaitingExit, _ => .ok (ended (some (.notExit m)), [])
  | ended _, _ => .ok (s, [])

def run (P : Parser) (s : Server) : List Message → Except Fault (Server × List (List Outgoing))
  | [] => .ok (s, [])
  | m :: rest => do
    let (s, sent) ← s.step P m
    let (s, later) ← s.run P rest
    return (s, sent :: later)

def close : Server → Option ServerError
  | awaitingInitialize _ => some .disconnected
  | awaitingInitialized _ => some .disconnected
  | running _ => none
  | awaitingExit => some .noExit
  | ended error => error

end Server

end SyntaxPanel
