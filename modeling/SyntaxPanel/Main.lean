import SyntaxPanel.CommandLine.Run
import SyntaxPanel.Tree.Rows

open SyntaxPanel
open SyntaxPanel.CommandLine

namespace SyntaxPanel.Program

def treesVariable : String := "SYNTAX_PANEL_TREES"

def knownTrees (text : String) : List KnownTree :=
  match Json.read? text with
  | .error _ => []
  | .ok j => ((Json.decodeList KnownTree.decode j).toOption).getD []

def loadParser : IO Parser := do
  match ← IO.getEnv treesVariable with
  | none => return .ofTable []
  | some path => return .ofTable (knownTrees (← IO.FS.readFile path))

def readError : IO.Error → ReadError
  | .inappropriateType _ code _ => if code = 21 then .isDirectory else .notDirectory
  | .invalidArgument .. => .nameTooLong
  | _ => .notFound

def readText (path : String) : IO (Except ReadError String) := do
  try
    let content ← IO.FS.readBinFile path
    match Text.decodeUtf8 content.toList with
    | .ok cs => return .ok (String.ofList cs)
    | .error _ => return .error .notText
  catch e => return .error (readError e)

def writeOut (text : String) : IO Unit := do
  let out ← IO.getStdout
  out.putStr text
  out.flush

def writeOutput (o : Output) : IO UInt32 := do
  writeOut o.written
  (← IO.getStderr).putStr o.err
  return UInt32.ofNat o.code

def writeFault (f : Fault) : IO UInt32 := do
  (← IO.getStderr).putStr ("Error: " ++ reprStr f ++ "\n")
  return 101

partial def serveLoop (P : Parser) (input : IO.FS.Stream) (s : Serving) : IO UInt32 := do
  let chunk ← input.read 65536
  match s.receive P chunk.toList chunk.isEmpty with
  | .error f => writeFault f
  | .ok (s, sent) =>
    writeOut (String.join (sent.map Outgoing.frame))
    if s.stopped || chunk.isEmpty then writeOutput s.result else serveLoop P input s

end SyntaxPanel.Program

def main (arguments : List String) : IO UInt32 := do
  let P ← Program.loadParser
  match parse arguments with
  | .serve config => Program.serveLoop P (← IO.getStdin) { server := .new config }
  | .dump path compiler =>
    let text ← Program.readText path
    match dump P (fun _ => text) path compiler with
    | .error f => Program.writeFault f
    | .ok o => Program.writeOutput o
  | _ =>
    match run P (fun _ => .error .notFound) [] arguments with
    | .error f => Program.writeFault f
    | .ok o => Program.writeOutput o
