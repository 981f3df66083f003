import SyntaxPanel.Text.Measure
import SyntaxPanel.Text.Path
import SyntaxPanel.Text.Utf8

namespace SyntaxPanel.CommandLine

inductive ReadError where
  | notFound
  | notDirectory
  | isDirectory
  | nameTooLong
  | notText
deriving DecidableEq, Repr

def ReadError.message : ReadError → String
  | notFound => "No such file or directory (os error 2)"
  | notDirectory => "Not a directory (os error 20)"
  | isDirectory => "Is a directory (os error 21)"
  | nameTooLong => "File name too long (os error 36)"
  | notText => "stream did not contain valid UTF-8"

/-- Files by the names that lead to them from the starting directory. -/
structure Files where
  entries : List (List (List Char) × List UInt8) := []

inductive Place where
  | directory (names : List (List Char))
  | file (content : List UInt8)
  | outside

namespace Files

def entry (path : String) (content : List UInt8) : List (List Char) × List UInt8 :=
  (Text.components path.toList, content)

def find? (fs : Files) (names : List (List Char)) : Option (List UInt8) :=
  fs.entries.lookup names

def hasDirectory (fs : Files) (names : List (List Char)) : Bool :=
  fs.entries.any fun (path, _) => names.isPrefixOf path && names != path

def nameLimit : Nat := 255

def pathLimit : Nat := 4095

def enter (fs : Files) (place : Place) (name : List Char) : Except ReadError Place :=
  match place with
  | .file _ => .error .notDirectory
  | .outside =>
    if name = [] ∨ name = ['.'] ∨ name = ['.', '.'] then .ok .outside
    else .error (if nameLimit < Text.bytes name then .nameTooLong else .notFound)
  | .directory names =>
    if nameLimit < Text.bytes name then .error .nameTooLong
    else if name = [] ∨ name = ['.'] then .ok place
    else if name = ['.', '.'] then
      if names = [] then .ok .outside else .ok (.directory names.dropLast)
    else
      let names := names ++ [name]
      match fs.find? names with
      | some content => .ok (.file content)
      | none => if fs.hasDirectory names then .ok (.directory names) else .error .notFound

def follow (fs : Files) (place : Place) : List (List Char) → Except ReadError Place
  | [] => .ok place
  | name :: rest =>
    match fs.enter place name with
    | .error e => .error e
    | .ok place => fs.follow place rest

def readText (fs : Files) (path : String) : Except ReadError String :=
  let start : Place := if path.toList.head? = some '/' then .outside else .directory []
  if path = "" then .error .notFound
  else if pathLimit < Text.bytes path.toList then .error .nameTooLong
  else
    match fs.follow start (Text.segments '/' path.toList) with
    | .error e => .error e
    | .ok (.file content) =>
      match Text.decodeUtf8 content with
      | .ok cs => .ok (String.ofList cs)
      | .error _ => .error .notText
    | .ok _ => .error .isDirectory

end Files

end SyntaxPanel.CommandLine
