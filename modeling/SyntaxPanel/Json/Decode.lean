import SyntaxPanel.Json

namespace SyntaxPanel

inductive DecodeError where
  | wrongKind (found wanted : String)
  | outOfBounds (found wanted : String)
  | missingField (name : String)
  | repeatedField (name : String)
  | wrongLength (length : Nat) (wanted : String)
  | unknownName (name : String) (known : List String)
  | noVariant (typeName : String)
  | refused (reason : String)
deriving DecidableEq, Repr

namespace DecodeError

def choices : List String → String
  | [] => "there are no variants"
  | [a] => "expected `" ++ a ++ "`"
  | [a, b] => "expected `" ++ a ++ "` or `" ++ b ++ "`"
  | names => "expected one of " ++ ", ".intercalate (names.map fun a => "`" ++ a ++ "`")

def message : DecodeError → String
  | wrongKind found wanted => "invalid type: " ++ found ++ ", expected " ++ wanted
  | outOfBounds found wanted => "invalid value: " ++ found ++ ", expected " ++ wanted
  | missingField name => "missing field `" ++ name ++ "`"
  | repeatedField name => "duplicate field `" ++ name ++ "`"
  | wrongLength length wanted => "invalid length " ++ toString length ++ ", expected " ++ wanted
  | unknownName name known => "unknown variant `" ++ name ++ "`, " ++ choices known
  | noVariant typeName => "data did not match any variant of untagged enum " ++ typeName
  | refused reason => reason

end DecodeError

abbrev Decoder (α : Type) := Json → Except DecodeError α

namespace Json

def found : Json → String
  | .null => "null"
  | .bool b => "boolean `" ++ (if b then "true" else "false") ++ "`"
  | .int n => "integer `" ++ toString n ++ "`"
  | .decimal d => "floating point `" ++ d.text ++ "`"
  | .str s => "string " ++ Text.quote s
  | .arr _ => "sequence"
  | .obj _ => "map"

def wrongKind {α : Type} (j : Json) (wanted : String) : Except DecodeError α :=
  .error (.wrongKind j.found wanted)

def decodeAny : Decoder Json := fun j => .ok j.sorted

def decodeString : Decoder String
  | .str s => .ok s
  | j => j.wrongKind "a string"

def decodeBool : Decoder Bool
  | .bool b => .ok b
  | j => j.wrongKind "a boolean"

def decodeNull : Decoder Unit
  | .null => .ok ()
  | j => j.wrongKind "unit"

def decodeInt (typeName : String) (least greatest : Int) : Decoder Int
  | .int n =>
    if least ≤ n ∧ n ≤ greatest then .ok n
    else .error (.outOfBounds (Json.int n).found typeName)
  | j => j.wrongKind typeName

def decodeNat32 : Decoder Nat := fun j =>
  (decodeInt "u32" 0 4294967295 j).map Int.toNat

def decodeInt32 : Decoder Int := decodeInt "i32" (-2147483648) 2147483647

def decodeAll {α : Type} (d : Decoder α) : List Json → Except DecodeError (List α)
  | [] => .ok []
  | j :: rest =>
    match d j with
    | .error e => .error e
    | .ok a => (decodeAll d rest).map (a :: ·)

def decodeList {α : Type} (d : Decoder α) : Decoder (List α)
  | .arr items => decodeAll d items
  | j => j.wrongKind "a sequence"

def decodeOption {α : Type} (d : Decoder α) : Decoder (Option α)
  | .null => .ok none
  | j => (d j).map some

/-- The choice between a few names, written as a string or as an object with the name as its
only field and nothing in it. -/
def decodeName (known : List String) : Decoder String
  | .str s => if s ∈ known then .ok s else .error (.unknownName s known)
  | .obj [(s, inner)] =>
    if s ∈ known then (decodeNull inner).map fun _ => s else .error (.unknownName s known)
  | .obj _ => .error (.outOfBounds "map" "map with a single key")
  | j => j.wrongKind "string or map"

structure Fields where
  record : String
  names : List String
  /-- The written fields by name, or in the order of the names. -/
  written : List (String × Json) ⊕ List Json

def openRecord (record : String) (names : List String) : Decoder Fields
  | .obj fields => .ok ⟨record, names, .inl fields⟩
  | .arr items => .ok ⟨record, names, .inr items⟩
  | j => j.wrongKind ("struct " ++ record)

namespace Fields

def lookup (f : Fields) (name : String) : Except DecodeError (Option Json) :=
  match f.written with
  | .inl fields =>
    match fields.filter (·.1 = name) with
    | [] => .ok none
    | [(_, j)] => .ok (some j)
    | _ => .error (.repeatedField name)
  | .inr items => .ok items[f.names.idxOf name]?

def tooShort {α : Type} (f : Fields) (length : Nat) : Except DecodeError α :=
  let elements := if f.names.length = 1 then " element" else " elements"
  let wanted := "struct " ++ f.record ++ " with " ++ toString f.names.length ++ elements
  .error (.wrongLength length wanted)

def required {α : Type} (f : Fields) (name : String) (d : Decoder α) : Except DecodeError α := do
  match ← f.lookup name, f.written with
  | some j, _ => d j
  | none, .inl _ => .error (.missingField name)
  | none, .inr items => f.tooShort items.length

def optional {α : Type} (f : Fields) (name : String) (d : Decoder α) :
    Except DecodeError (Option α) := do
  match ← f.lookup name, f.written with
  | some j, _ => decodeOption d j
  | none, .inl _ => .ok none
  | none, .inr items => f.tooShort items.length

def withDefault {α : Type} (f : Fields) (name : String) (d : Decoder α) (default : α) :
    Except DecodeError α := do
  match ← f.lookup name with
  | some j => d j
  | none => .ok default

def close (f : Fields) : Except DecodeError Unit :=
  match f.written with
  | .inl _ => .ok ()
  | .inr items =>
    if items.length ≤ f.names.length then .ok ()
    else .error (.wrongLength items.length "fewer elements in array")

end Fields

end Json

end SyntaxPanel
