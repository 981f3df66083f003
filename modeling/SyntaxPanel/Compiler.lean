import SyntaxPanel.Text.Path

namespace SyntaxPanel

inductive Dialect where
  | typescript
  | tsx
  | javascript
deriving DecidableEq, Repr

namespace Dialect

def name : Dialect → String
  | typescript => "TypeScript"
  | tsx => "TSX"
  | javascript => "JavaScript"

def ofName? (s : String) : Option Dialect :=
  [typescript, tsx, javascript].find? fun d => d.name == s

def extensions : Dialect → List String
  | typescript => ["ts", "mts", "cts"]
  | tsx => ["tsx"]
  | javascript => ["js", "mjs", "cjs", "jsx"]

def ofExtension? (extension : String) : Option Dialect :=
  [typescript, tsx, javascript].find? fun d => d.extensions.contains extension

/-- The dialect that the extension of a path asks for. Only ASCII letters have case. -/
def ofPath? (path : String) : Option Dialect :=
  (Text.extension? path.toList).bind fun extension =>
    ofExtension? (String.ofList (extension.map Char.toLower))

end Dialect

inductive Compiler where
  | typescript
  | javascript
deriving DecidableEq, Repr

namespace Compiler

def registered : List Compiler := [typescript, javascript]

def name : Compiler → String
  | typescript => "typescript"
  | javascript => "javascript"

def dialect (c : Compiler) (path : String) : Dialect :=
  match c with
  | typescript => (Dialect.ofPath? path).getD .typescript
  | javascript => .javascript

def identifierKinds : List String :=
  ["identifier", "property_identifier", "type_identifier", "shorthand_property_identifier",
   "shorthand_property_identifier_pattern", "private_property_identifier",
   "statement_identifier"]

def isIdentifier (_ : Compiler) (kind : String) : Bool := identifierKinds.contains kind

end Compiler

structure UnknownCompiler where
  name : String
deriving DecidableEq, Repr

def UnknownCompiler.message (e : UnknownCompiler) : String :=
  let available := ", ".intercalate (Compiler.registered.map Compiler.name)
  "unknown compiler `" ++ e.name ++ "` (available: " ++ available ++ ")"

def Compiler.resolve (name : String) : Except UnknownCompiler Compiler :=
  match registered.find? fun c => c.name == name with
  | some c => .ok c
  | none => .error ⟨name⟩

end SyntaxPanel
