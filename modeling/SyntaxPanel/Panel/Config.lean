import SyntaxPanel.Json.Decode

namespace SyntaxPanel

inductive ReparsePolicy where
  | incremental
  | full
deriving DecidableEq, Repr

namespace ReparsePolicy

def name : ReparsePolicy → String
  | incremental => "incremental"
  | full => "full"

def all : List ReparsePolicy := [incremental, full]

def ofName? (s : String) : Option ReparsePolicy := all.find? fun p => p.name == s

def parse (s : String) : Except String ReparsePolicy :=
  match ofName? s with
  | some p => .ok p
  | none => .error ("unknown reparse policy `" ++ s ++ "`, expected `incremental` or `full`")

def decode : Decoder ReparsePolicy := fun j =>
  match Json.decodeName (all.map name) j with
  | .error e => .error e
  | .ok s =>
    match ofName? s with
    | some p => .ok p
    | none => .error (.unknownName s (all.map name))

end ReparsePolicy

structure Config where
  compiler : String := "typescript"
  reparse : ReparsePolicy := .incremental
deriving DecidableEq, Repr

namespace Config

def decode : Decoder Config := fun j => do
  let f ← Json.openRecord "Config" ["compiler", "reparse"] j
  let compiler ← f.withDefault "compiler" Json.decodeString ({} : Config).compiler
  let reparse ← f.withDefault "reparse" ReparsePolicy.decode ({} : Config).reparse
  f.close
  return { compiler, reparse }

end Config

structure InitializationOptions where
  compiler : Option String := none
  reparse : Option ReparsePolicy := none
deriving DecidableEq, Repr

namespace InitializationOptions

def decode : Decoder InitializationOptions := fun j => do
  let f ← Json.openRecord "InitializationOptions" ["compiler", "reparse"] j
  let compiler ← f.optional "compiler" Json.decodeString
  let reparse ← f.optional "reparse" ReparsePolicy.decode
  f.close
  return { compiler, reparse }

def apply (o : InitializationOptions) (c : Config) : Config :=
  { compiler := o.compiler.getD c.compiler, reparse := o.reparse.getD c.reparse }

end InitializationOptions

end SyntaxPanel
