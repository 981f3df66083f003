import SyntaxPanel.Text.Path

/-! URI references, as the host names its documents.
Their parts are read one after the other, each as far as its characters go. The text is kept as it
was written: nothing is resolved, decoded or put into another form. -/
namespace SyntaxPanel.Uri

def isHexDigit (c : Char) : Bool :=
  c.isDigit || ('a' ≤ c && c ≤ 'f') || ('A' ≤ c && c ≤ 'F')

def isByteNumber (cs : List Char) : Bool :=
  match cs with
  | [a] => a.isDigit
  | [a, b] => a.isDigit && b.isDigit && a != '0'
  | [a, b, c] =>
    a.isDigit && b.isDigit && c.isDigit && a != '0' &&
      (String.ofList [a, b, c]).toNat?.any (· ≤ 255)
  | _ => false

def isAddress4 (cs : List Char) : Bool :=
  let parts := Text.segments '.' cs
  parts.length = 4 && parts.all isByteNumber

def isGroup (cs : List Char) : Bool := 1 ≤ cs.length && cs.length ≤ 4 && cs.all isHexDigit

def groupCount? : List (List Char) → Option Nat
  | [] => some 0
  | [part] => if isGroup part then some 1 else if isAddress4 part then some 2 else none
  | part :: rest => if isGroup part then (groupCount? rest).map (· + 1) else none

def splitAtGap? : List Char → Option (List Char × List Char)
  | ':' :: ':' :: rest => some ([], rest)
  | [] => none
  | c :: rest => (splitAtGap? rest).map fun (before, after) => (c :: before, after)

def groups (cs : List Char) : List (List Char) := if cs = [] then [] else Text.segments ':' cs

def isAddress6 (cs : List Char) : Bool :=
  match splitAtGap? cs with
  | none => groupCount? (groups cs) == some 8
  | some (before, after) =>
    match (groups before).all isGroup, groupCount? (groups after) with
    | true, some n => (groups before).length + n ≤ 7
    | _, _ => false

inductive Problem where
  | unexpectedCharacter
  | invalidEscape
  | invalidAddress
deriving DecidableEq, Repr

def Problem.text : Problem → String
  | unexpectedCharacter => "unexpected character"
  | invalidEscape => "invalid percent-encoded octet"
  | invalidAddress => "invalid IP literal"

structure Stop where
  problem : Problem
  rest : List Char
deriving DecidableEq, Repr

abbrev Reading (α : Type) := Except Stop (α × List Char)

def unexpected {α : Type} (rest : List Char) : Except Stop α := .error ⟨.unexpectedCharacter, rest⟩

def isSchemeChar (c : Char) : Bool := c.isAlpha || c.isDigit || c = '+' || c = '-' || c = '.'

def isUnreserved (c : Char) : Bool :=
  c.isAlpha || c.isDigit || c = '-' || c = '.' || c = '_' || c = '~'

def isSubDelimiter (c : Char) : Bool := "!$&'()*+,;=".toList.contains c

def isNameChar (c : Char) : Bool := isUnreserved c || isSubDelimiter c

def isUserChar (c : Char) : Bool := isNameChar c || c = ':'

def isPathChar (c : Char) : Bool := isNameChar c || c = ':' || c = '@' || c = '/'

def isSuffixChar (c : Char) : Bool := isPathChar c || c = '?'

def encoded (allowed : Char → Bool) : List Char → Reading (List Char)
  | [] => .ok ([], [])
  | '%' :: a :: b :: cs =>
    if isHexDigit a && isHexDigit b then
      (encoded allowed cs).map fun (read, rest) => ('%' :: a :: b :: read, rest)
    else .error ⟨.invalidEscape, '%' :: a :: b :: cs⟩
  | c :: cs =>
    if c = '%' then .error ⟨.invalidEscape, c :: cs⟩
    else if allowed c then (encoded allowed cs).map fun (read, rest) => (c :: read, rest)
    else .ok ([], c :: cs)

structure Authority where
  user : Option (List Char)
  host : List Char
  port : Option (List Char)
deriving DecidableEq, Repr

namespace Authority

def readHost : List Char → Reading (List Char)
  | '[' :: cs =>
    let address := cs.takeWhile (· ≠ ']')
    match cs.dropWhile (· ≠ ']') with
    | _ :: rest =>
      if isAddress6 address then .ok ('[' :: address ++ [']'], rest)
      else .error ⟨.invalidAddress, '[' :: cs⟩
    | [] => .error ⟨.invalidAddress, '[' :: cs⟩
  | cs => encoded isNameChar cs

def readPort : List Char → Option (List Char) × List Char
  | ':' :: cs => (some (cs.takeWhile Char.isDigit), cs.dropWhile Char.isDigit)
  | cs => (none, cs)

def readHostPort (user : Option (List Char)) (cs : List Char) : Reading Authority :=
  (readHost cs).map fun (host, rest) =>
    let (port, rest) := readPort rest
    (⟨user, host, port⟩, rest)

/-- A host and its port in a text `cs` that could have been a user. The port is read from its
end. -/
def splitPort (cs rest : List Char) : Reading Authority :=
  let host := cs.takeWhile (· ≠ ':')
  match cs.dropWhile (· ≠ ':') with
  | [] => .ok (⟨none, host, none⟩, rest)
  | colon :: port =>
    if port.contains ':' then unexpected (colon :: port ++ rest)
    else
      let digits := port.reverse.takeWhile Char.isDigit
      if digits.length = port.length then .ok (⟨none, host, some port⟩, rest)
      else unexpected (port.drop (port.length - digits.length - 1) ++ rest)

def read (cs : List Char) : Reading Authority :=
  match encoded isUserChar cs with
  | .error stop => .error stop
  | .ok (user, '@' :: rest) => readHostPort (some user) rest
  | .ok ([], rest) => readHostPort none rest
  | .ok (name, rest) => splitPort name rest

end Authority

structure Parts where
  scheme : Option (List Char)
  authority : Option Authority
  path : List Char
  query : Option (List Char)
  fragment : Option (List Char)
deriving DecidableEq, Repr

namespace Parts

def suffix (sign : Char) : List Char → Reading (Option (List Char))
  | [] => .ok (none, [])
  | c :: cs =>
    if c = sign then (encoded isSuffixChar cs).map fun (read, rest) => (some read, rest)
    else .ok (none, c :: cs)

def complete (scheme : Option (List Char)) (authority : Option Authority) (path cs : List Char) :
    Except Stop Parts := do
  let (query, rest) ← suffix '?' cs
  let (fragment, rest) ← suffix '#' rest
  if rest = [] then return { scheme, authority, path, query, fragment } else unexpected rest

def afterSlashes (scheme : Option (List Char)) (cs : List Char) : Except Stop Parts := do
  let (authority, start) ← Authority.read cs
  let (path, rest) ← encoded isPathChar start
  match path with
  | [] => complete scheme (some authority) path rest
  | c :: _ => if c = '/' then complete scheme (some authority) path rest else unexpected start

/-- A reference without scheme and authority. A colon in the first segment of its path would make
a scheme of what stands before it. -/
def relative (cs : List Char) : Except Stop Parts := do
  let (first, rest) ← encoded (fun c => isNameChar c || c = '@') cs
  match rest with
  | ':' :: _ => unexpected rest
  | _ => do
    let (more, rest) ← encoded isPathChar rest
    complete none none (first ++ more) rest

def readAll (cs : List Char) : Except Stop Parts :=
  let scheme := cs.takeWhile isSchemeChar
  match cs.dropWhile isSchemeChar with
  | ':' :: rest =>
    if scheme.head?.any Char.isAlpha then
      match rest with
      | '/' :: '/' :: rest => afterSlashes (some scheme) rest
      | rest => do
        let (path, rest) ← encoded isPathChar rest
        complete (some scheme) none path rest
    else unexpected cs
  | '/' :: '/' :: rest => if scheme = [] then afterSlashes none rest else relative cs
  | _ => relative cs

end Parts

end SyntaxPanel.Uri

namespace SyntaxPanel

structure Uri where
  text : String
  parts : Uri.Parts
  readAll_text : Uri.Parts.readAll text.toList = .ok parts
deriving DecidableEq, Repr

structure UriError where
  problem : Uri.Problem
  index : Nat
deriving DecidableEq, Repr

def UriError.message (e : UriError) : String :=
  e.problem.text ++ " at index " ++ toString e.index

namespace Uri

def parse (s : String) : Except UriError Uri :=
  match h : Parts.readAll s.toList with
  | .ok parts => .ok ⟨s, parts, h⟩
  | .error stop => .error ⟨stop.problem, s.length - stop.rest.length⟩

def parse? (s : String) : Option Uri := (parse s).toOption

def path (u : Uri) : String := String.ofList u.parts.path

theorem parse_text (u : Uri) : parse u.text = .ok u := by
  obtain ⟨text, parts, read⟩ := u
  unfold parse
  split
  · rename_i other h
    obtain rfl : other = parts := Except.ok.inj (h.symm.trans read)
    rfl
  · rename_i stop h
    cases h.symm.trans read

theorem parse?_text (u : Uri) : parse? u.text = some u := by
  simp only [parse?, parse_text, Except.toOption]

end Uri

end SyntaxPanel
