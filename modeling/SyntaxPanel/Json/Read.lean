import SyntaxPanel.Json

/-! Reading a value from its text. An object keeps its fields as they are written.
Where the text is no value, the first problem is told with its line and column. The text counts as
its bytes there: a column is the number of bytes of the line that were looked at, and may end
inside a character. -/
namespace SyntaxPanel.Json

inductive Problem where
  | endInValue
  | endInList
  | endInObject
  | endInString
  | expectedColon
  | expectedListEnd
  | expectedObjectEnd
  | expectedWord
  | expectedValue
  | invalidEscape
  | invalidNumber
  | numberOutOfRange
  | controlCharacter
  | keyNotString
  | loneSurrogate
  | endOfEscape
  | trailingComma
  | trailingCharacters
  | tooDeep
deriving DecidableEq, Repr

def Problem.message : Problem → String
  | endInValue => "EOF while parsing a value"
  | endInList => "EOF while parsing a list"
  | endInObject => "EOF while parsing an object"
  | endInString => "EOF while parsing a string"
  | expectedColon => "expected `:`"
  | expectedListEnd => "expected `,` or `]`"
  | expectedObjectEnd => "expected `,` or `\x7d`"
  | expectedWord => "expected ident"
  | expectedValue => "expected value"
  | invalidEscape => "invalid escape"
  | invalidNumber => "invalid number"
  | numberOutOfRange => "number out of range"
  | controlCharacter => "control character (\\u0000-\\u001F) found while parsing a string"
  | keyNotString => "key must be a string"
  | loneSurrogate => "lone leading surrogate in hex escape"
  | endOfEscape => "unexpected end of hex escape"
  | trailingComma => "trailing comma"
  | trailingCharacters => "trailing characters"
  | tooDeep => "recursion limit exceeded"

/-- A problem and the text from it on. The first `seen` bytes of that text count as read when the
place is told. -/
structure Stop where
  problem : Problem
  rest : List Char
  seen : Nat
deriving DecidableEq, Repr

abbrev Reading (α : Type) := Except Stop (α × List Char)

def stopAt {α : Type} (problem : Problem) (rest : List Char) : Reading α :=
  .error ⟨problem, rest, 0⟩

def stopOn {α : Type} (problem : Problem) (rest : List Char) : Reading α :=
  .error ⟨problem, rest, 1⟩

def isBlank (c : Char) : Bool := c = ' ' || c = '\n' || c = '\t' || c = '\r'

def skipBlanks (cs : List Char) : List Char := cs.dropWhile isBlank

def word (value : Json) : List Char → List Char → Reading Json
  | [], rest => .ok (value, rest)
  | _ :: _, [] => stopAt .endInValue []
  | w :: ws, c :: cs => if c = w then word value ws cs else stopOn .expectedWord (c :: cs)

def digitValue (c : Char) : Nat := c.toNat - '0'.toNat

def skipDigits (cs : List Char) : List Char := cs.dropWhile Char.isDigit

def digitsLimit : Nat := Nat.pow 2 64 - 1

def exponentLimit : Nat := Nat.pow 2 31 - 1

/-- Reads digits behind the number `n` as long as it stays within a limit. Tells the number, how
many digits went into it, and the text after them. -/
def digits (limit n : Nat) : List Char → Nat × Nat × List Char
  | [] => (n, 0, [])
  | c :: cs =>
    if c.isDigit ∧ n * 10 + digitValue c ≤ limit then
      let (n, count, rest) := digits limit (n * 10 + digitValue c) cs
      (n, count + 1, rest)
    else (n, 0, c :: cs)

def decimalOf (negative : Bool) (n : Nat) (exponent : Int) (rest : List Char) : Reading Json :=
  match Decimal.ofDigits? negative n exponent with
  | some d => .ok (.decimal d, rest)
  | none => stopAt .numberOutOfRange rest

def exponentPart (negative : Bool) (n : Nat) (shift : Int) (cs : List Char) : Reading Json :=
  let (minus, cs) := match cs with
    | '+' :: cs => (false, cs)
    | '-' :: cs => (true, cs)
    | cs => (false, cs)
  match cs with
  | [] => stopAt .endInValue []
  | c :: cs =>
    if c.isDigit then
      match digits exponentLimit (digitValue c) cs with
      | (power, _, d :: rest) =>
        if d.isDigit then
          if n ≠ 0 ∧ !minus then stopOn .numberOutOfRange (d :: rest)
          else decimalOf negative 0 0 (skipDigits rest)
        else decimalOf negative n (shift + if minus then -(power : Int) else power) (d :: rest)
      | (power, _, []) => decimalOf negative n (shift + if minus then -(power : Int) else power) []
    else stopOn .invalidNumber (c :: cs)

def exponentTail (negative : Bool) (n : Nat) (shift : Int) : List Char → Reading Json
  | 'e' :: cs => exponentPart negative n shift cs
  | 'E' :: cs => exponentPart negative n shift cs
  | cs => decimalOf negative n shift cs

def fractionPart (negative : Bool) (n : Nat) (shift : Int) (cs : List Char) : Reading Json :=
  match digits digitsLimit n cs with
  | (n, count, c :: rest) =>
    if c.isDigit then exponentTail negative n (shift - count) (skipDigits (c :: rest))
    else if count = 0 then stopOn .invalidNumber (c :: rest)
    else exponentTail negative n (shift - count) (c :: rest)
  | (n, count, []) =>
    if count = 0 then stopAt .endInValue [] else decimalOf negative n (shift - count) []

def numberTail (negative : Bool) (n : Nat) (cs : List Char) : Reading Json :=
  let rest := skipDigits cs
  let shift : Int := cs.length - rest.length
  match rest with
  | '.' :: rest => fractionPart negative n shift rest
  | 'e' :: rest => exponentPart negative n shift rest
  | 'E' :: rest => exponentPart negative n shift rest
  | rest =>
    if 0 < shift then decimalOf negative n shift rest
    else if !negative then .ok (.int n, rest)
    else if 0 < n ∧ n ≤ Nat.pow 2 63 then .ok (.int (-n), rest)
    else decimalOf true n 0 rest

def number (negative : Bool) : List Char → Reading Json
  | [] => stopAt .endInValue []
  | c :: cs =>
    if c = '0' then
      match cs with
      | d :: rest =>
        if d.isDigit then stopOn .invalidNumber (d :: rest) else numberTail negative 0 (d :: rest)
      | [] => numberTail negative 0 []
    else if c.isDigit then
      let (n, _, rest) := digits digitsLimit (digitValue c) cs
      numberTail negative n rest
    else stopOn .invalidNumber (c :: cs)

def hexDigit? (c : Char) : Option Nat :=
  if c.isDigit then some (digitValue c)
  else if 'a' ≤ c ∧ c ≤ 'f' then some (c.toNat - 'a'.toNat + 10)
  else if 'A' ≤ c ∧ c ≤ 'F' then some (c.toNat - 'A'.toNat + 10)
  else none

/-- The four digits of a `\u` escape. Where they are wrong, the four bytes in their place count
as read. -/
def codeUnit (cs : List Char) : Reading Nat :=
  let wrong : Reading Nat :=
    if Text.bytes cs < 4 then stopAt .endInString [] else .error ⟨.invalidEscape, cs, 4⟩
  match cs with
  | a :: b :: c :: d :: rest =>
    match hexDigit? a, hexDigit? b, hexDigit? c, hexDigit? d with
    | some a, some b, some c, some d => .ok (((a * 16 + b) * 16 + c) * 16 + d, rest)
    | _, _, _, _ => wrong
  | _ => wrong

def lowSurrogate (high : Nat) : List Char → Reading Char
  | [] => stopAt .endInString []
  | c :: cs =>
    if c = '\\' then
      match cs with
      | [] => stopAt .endInString []
      | d :: cs =>
        if d = 'u' then
          match codeUnit cs with
          | .error stop => .error stop
          | .ok (low, rest) =>
            if 0xDC00 ≤ low ∧ low ≤ 0xDFFF then
              .ok (Char.ofNat (0x10000 + (high - 0xD800) * 0x400 + (low - 0xDC00)), rest)
            else stopAt .loneSurrogate rest
        else stopOn .endOfEscape (d :: cs)
    else stopOn .endOfEscape (c :: cs)

def unicodeEscape (cs : List Char) : Reading Char :=
  match codeUnit cs with
  | .error stop => .error stop
  | .ok (high, rest) =>
    if 0xDC00 ≤ high ∧ high ≤ 0xDFFF then stopAt .loneSurrogate rest
    else if 0xD800 ≤ high ∧ high ≤ 0xDBFF then lowSurrogate high rest
    else .ok (Char.ofNat high, rest)

def escape : List Char → Reading Char
  | [] => stopAt .endInString []
  | c :: rest =>
    match c with
    | '"' | '\\' | '/' => .ok (c, rest)
    | 'b' => .ok (Char.ofNat 8, rest)
    | 'f' => .ok (Char.ofNat 12, rest)
    | 'n' => .ok ('\n', rest)
    | 'r' => .ok ('\r', rest)
    | 't' => .ok ('\t', rest)
    | 'u' => unicodeEscape rest
    | _ => stopOn .invalidEscape (c :: rest)

def stringChars : Nat → List Char → List Char → Reading String
  | 0, _, _ => stopAt .endInString []
  | fuel + 1, done, cs =>
    match cs with
    | [] => stopAt .endInString []
    | c :: rest =>
      if c = '"' then .ok (String.ofList done.reverse, rest)
      else if c = '\\' then
        match escape rest with
        | .ok (e, rest) => stringChars fuel (e :: done) rest
        | .error stop => .error stop
      else if c.toNat < 0x20 then stopOn .controlCharacter (c :: rest)
      else stringChars fuel (c :: done) rest

def stringTail (cs : List Char) : Reading String := stringChars (cs.length + 1) [] cs

def items (item : List Char → Reading Json) :
    Nat → Bool → List Json → List Char → Reading (List Json)
  | 0, _, _, _ => stopAt .endInList []
  | fuel + 1, first, done, cs =>
    let next (cs : List Char) : Reading (List Json) :=
      match item cs with
      | .ok (value, rest) => items item fuel false (value :: done) rest
      | .error stop => .error stop
    match skipBlanks cs with
    | [] => stopOn .endInList []
    | c :: rest =>
      if c = ']' then .ok (done.reverse, rest)
      else if first then next (c :: rest)
      else if c = ',' then
        match skipBlanks rest with
        | [] => stopOn .endInValue []
        | d :: rest =>
          if d = ']' then stopOn .trailingComma (d :: rest) else next (d :: rest)
      else stopOn .expectedListEnd (c :: rest)

def fields (item : List Char → Reading Json) :
    Nat → Bool → List (String × Json) → List Char → Reading (List (String × Json))
  | 0, _, _, _ => stopAt .endInObject []
  | fuel + 1, first, done, cs =>
    let next (cs : List Char) : Reading (List (String × Json)) :=
      match stringTail cs with
      | .error stop => .error stop
      | .ok (name, rest) =>
        match skipBlanks rest with
        | [] => stopOn .endInObject []
        | c :: rest =>
          if c = ':' then
            match item rest with
            | .ok (value, rest) => fields item fuel false ((name, value) :: done) rest
            | .error stop => .error stop
          else stopOn .expectedColon (c :: rest)
    let key (cs : List Char) : Reading (List (String × Json)) :=
      match cs with
      | [] => stopOn .endInValue []
      | c :: rest =>
        if c = '"' then next rest
        else if c = '\x7d' then stopOn .trailingComma (c :: rest)
        else stopOn .keyNotString (c :: rest)
    match skipBlanks cs with
    | [] => stopOn .endInObject []
    | c :: rest =>
      if c = '\x7d' then .ok (done.reverse, rest)
      else if first then key (c :: rest)
      else if c = ',' then key (skipBlanks rest)
      else stopOn .expectedObjectEnd (c :: rest)

def depthLimit : Nat := 127

def value (depth : Nat) (cs : List Char) : Reading Json :=
  match skipBlanks cs with
  | [] => stopOn .endInValue []
  | c :: rest =>
    if c = 'n' then word .null ['u', 'l', 'l'] rest
    else if c = 't' then word (.bool true) ['r', 'u', 'e'] rest
    else if c = 'f' then word (.bool false) ['a', 'l', 's', 'e'] rest
    else if c = '-' then number true rest
    else if c.isDigit then number false (c :: rest)
    else if c = '"' then (stringTail rest).map fun (s, rest) => (.str s, rest)
    else if c = '[' then
      match depth with
      | 0 => stopOn .tooDeep (c :: rest)
      | depth + 1 =>
        (items (value depth) (rest.length + 1) true [] rest).map fun (xs, rest) => (.arr xs, rest)
    else if c = '\x7b' then
      match depth with
      | 0 => stopOn .tooDeep (c :: rest)
      | depth + 1 =>
        (fields (value depth) (rest.length + 1) true [] rest).map fun (xs, rest) => (.obj xs, rest)
    else stopOn .expectedValue (c :: rest)

structure ReadError where
  problem : Problem
  line : Nat
  column : Nat
deriving DecidableEq, Repr

def Stop.locate (cs : List Char) (s : Stop) : ReadError :=
  let size := Text.bytes cs
  let passed := min size (size - Text.bytes s.rest + s.seen)
  let read := Text.within cs passed
  let lines := read.reverse.dropWhile (· ≠ '\n')
  ⟨s.problem, lines.count '\n' + 1, passed - Text.bytes lines⟩

def readPrefix? (cs : List Char) : Except ReadError (Json × List Char) :=
  (value depthLimit cs).mapError (Stop.locate cs)

def checkEnd (cs rest : List Char) : Except ReadError Unit :=
  match skipBlanks rest with
  | [] => .ok ()
  | more => .error (Stop.locate cs ⟨.trailingCharacters, more, 1⟩)

def readWritten? (s : String) : Except ReadError Json := do
  let (value, rest) ← readPrefix? s.toList
  checkEnd s.toList rest
  return value

def read? (s : String) : Except ReadError Json := (readWritten? s).map sorted

end SyntaxPanel.Json
