import SyntaxPanel.Json.Decode
import SyntaxPanel.Tree.View

namespace SyntaxPanel.Node

structure Row where
  kind : String
  start : Nat
  stop : Nat
  childCount : Nat
  missing : Bool := false
deriving DecidableEq, Repr

def plant (row : Row) (forest : List Node) : Option (List Node) :=
  match Span.ofBounds? row.start row.stop with
  | .error _ => none
  | .ok span =>
    if row.childCount ≤ forest.length then
      some (mk row.kind span row.missing (forest.take row.childCount) ::
        forest.drop row.childCount)
    else none

def forestOf? : List Row → Option (List Node)
  | [] => some []
  | row :: rest => (forestOf? rest).bind (plant row)

def ofRows? (rows : List Row) : Option Node :=
  match forestOf? rows with
  | some [root] => root
  | _ => none

mutual

def rows : Node → List Row
  | mk kind span missing children =>
    ⟨kind, span.start, span.stop, children.length, missing⟩ :: rowsOf children

def rowsOf : List Node → List Row
  | [] => []
  | n :: rest => n.rows ++ rowsOf rest

end

/-- A row is a list of kind, start, end and child count, with a fifth item for a missing node. -/
def Row.decode : Decoder Row
  | .arr (kind :: start :: stop :: childCount :: mark) => do
    let kind ← Json.decodeString kind
    let start ← Json.decodeNat32 start
    let stop ← Json.decodeNat32 stop
    let childCount ← Json.decodeNat32 childCount
    return { kind, start, stop, childCount, missing := mark != [] }
  | j => j.wrongKind "a row"

end SyntaxPanel.Node

namespace SyntaxPanel.KnownTree

def decodeDialect : Decoder Dialect := fun j =>
  match Json.decodeString j with
  | .error e => .error e
  | .ok s =>
    match Dialect.ofName? s with
    | some d => .ok d
    | none => .error (.unknownName s ([Dialect.typescript, .tsx, .javascript].map Dialect.name))

def decodeTree : Decoder Node := fun j =>
  match Json.decodeList Node.Row.decode j with
  | .error e => .error e
  | .ok rows =>
    match Node.ofRows? rows with
    | some root => .ok root
    | none => .error (.outOfBounds "rows" "one tree")

def decode : Decoder KnownTree := fun j => do
  let f ← Json.openRecord "KnownTree" ["dialect", "text", "tree"] j
  let dialect ← f.required "dialect" decodeDialect
  let text ← f.required "text" Json.decodeString
  let root ← f.required "tree" decodeTree
  f.close
  return { dialect, text, root }

end SyntaxPanel.KnownTree

namespace SyntaxPanel

/-- How the grammars name the kinds of their nodes by number. -/
abbrev KindNames := Dialect → Nat → Option String

/-- The numbers that mean the same in every grammar. -/
def sharedKinds : KindNames
  | _, 0 => some "end"
  | _, 1 => some "identifier"
  | _, 65534 => some "_ERROR"
  | _, 65535 => some "ERROR"
  | _, _ => none

def Dialect.kindName (d : Dialect) (id : Nat) (names : KindNames := sharedKinds) : String :=
  (names d id).getD "<unknown>"

end SyntaxPanel
