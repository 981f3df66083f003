import SyntaxPanel.CommandLine.Files
import SyntaxPanel.CommandLine.Parse
import SyntaxPanel.Diagnostic.Render
import SyntaxPanel.Server.Frame

namespace SyntaxPanel.CommandLine

structure Output where
  code : Nat := 0
  out : String := ""
  sent : List Outgoing := []
  err : String := ""
deriving DecidableEq, Repr

def Output.written (o : Output) : String := o.out ++ String.join (o.sent.map Outgoing.frame)

def failed (message : String) : Output := { code := 1, err := "Error: " ++ message ++ "\n" }

def renderAll (path text : String) : List Diagnostic → Except Fault String
  | [] => .ok ""
  | d :: rest => do
    let picture ← d.render true path text
    let pictures ← renderAll path text rest
    return picture ++ "\n" ++ pictures

/-- Prints the tree of a file, and its syntax errors where errors go. The file is read before
the compiler is looked up. -/
def dump (P : Parser) (read : String → Except ReadError String) (path compiler : String) :
    Except Fault Output :=
  match read path with
  | .error e => .ok (failed ("failed to read `" ++ path ++ "`\n\nCaused by:\n    " ++ e.message))
  | .ok text =>
    match Compiler.resolve compiler with
    | .error e => .ok (failed e.message)
    | .ok compiler => do
      let view := ({ compiler } : TreeView).parse P text path
      let err ← renderAll path text view.problems
      return { out := view.dump text, err }

structure Serving where
  server : Server
  received : List UInt8 := []
  stopped : Bool := false
  error : Option FrameError := none

def isExit : Message → Bool
  | .notification n => n.method == "exit"
  | _ => false

/-- Takes all messages out of what was received; `fuel` bounds their number. An exit is the
last message that is read. -/
def takeMessages (P : Parser) (closed : Bool) :
    Nat → Serving → Except Fault (Serving × List Outgoing)
  | 0, s => .ok (s, [])
  | fuel + 1, s =>
    if s.stopped then .ok (s, [])
    else match Frame.next closed s.received with
      | .wait => .ok (s, [])
      | .done => .ok ({ s with stopped := true }, [])
      | .broken e => .ok ({ s with stopped := true, error := some e }, [])
      | .message m rest => do
        let (server, sent) ← s.server.step P m
        let s := { s with server, received := rest, stopped := isExit m }
        let (s, more) ← takeMessages P closed fuel s
        return (s, sent ++ more)

def Serving.receive (P : Parser) (s : Serving) (bytes : List UInt8) (closed : Bool) :
    Except Fault (Serving × List Outgoing) :=
  let received := s.received ++ bytes
  takeMessages P closed (received.length + 1) { s with received }

/-- What a server ended with. An error that it noticed by itself, or while it waited for nothing
but an exit, comes before the one of its input, and that one before what followed from the end of
the input. -/
def Serving.error? (s : Serving) : Option String :=
  let own := s.server.close.map ServerError.message
  let read := s.error.map FrameError.message
  match s.server with
  | .ended _ => own.or read
  | .awaitingExit => own.or read
  | _ => read.or own

def Serving.result (s : Serving) : Output :=
  match s.error? with
  | some message => failed message
  | none => {}

def serve (P : Parser) (config : Config) (input : List UInt8) : Except Fault Output := do
  let (s, sent) ← ({ server := .new config } : Serving).receive P input true
  return { s.result with sent }

def run (P : Parser) (read : String → Except ReadError String) (input : List UInt8)
    (arguments : List String) : Except Fault Output :=
  match parse arguments with
  | .print text => .ok { out := text }
  | .nothing => .ok { code := 2, err := Command.top.helpText }
  | .refuse message => .ok { code := 2, err := message }
  | .dump path compiler => dump P read path compiler
  | .serve config => serve P config input

end SyntaxPanel.CommandLine
