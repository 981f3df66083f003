import SyntaxPanel.Json.Decode

namespace SyntaxPanel

abbrev Check := Decoder Unit

namespace Check

def of {α : Type} (d : Decoder α) : Check := fun j => (d j).map fun _ => ()

def any : Check := fun _ => .ok ()

def bool : Check := of Json.decodeBool

def string : Check := of Json.decodeString

def nat32 : Check := of Json.decodeNat32

def int32 : Check := of Json.decodeInt32

def name (known : List String) : Check := of (Json.decodeName known)

def list (c : Check) : Check := of (Json.decodeList c)

def union (typeName : String) (checks : List Check) : Check := fun j =>
  if checks.any fun c => (c j).isOk then .ok () else .error (.noVariant typeName)

inductive Presence where
  | required
  /-- It may be null, or left out of an object. -/
  | optional
  /-- It may be null, or left out of an object or a list. -/
  | defaulted
deriving DecidableEq, Repr

structure Field where
  name : String
  presence : Presence
  check : Check

def required (name : String) (c : Check) : Field := ⟨name, .required, c⟩

def optional (name : String) (c : Check) : Field := ⟨name, .optional, c⟩

def defaulted (name : String) (c : Check) : Field := ⟨name, .defaulted, c⟩

def Field.accept (f : Field) (j : Json) : Except DecodeError Unit :=
  if f.presence ≠ .required ∧ j = .null then .ok () else f.check j

/-- Checks the fields of an object in the order in which they are written, and then looks for
those that are missing. -/
def object (fields : List Field) (written : List (String × Json)) : Except DecodeError Unit := do
  written.forM fun (name, j) =>
    match fields.find? (·.name = name) with
    | some f => f.accept j
    | none => .ok ()
  fields.forM fun f =>
    if f.presence = .required ∧ ((Json.obj written).field? f.name).isNone then
      .error (.missingField f.name)
    else .ok ()

def items (wanted : String) : Nat → List Field → List Json → Except DecodeError Unit
  | _, [], [] => .ok ()
  | passed, [], more => .error (.wrongLength (passed + more.length) "fewer elements in array")
  | passed, f :: fields, [] =>
    if f.presence = .defaulted then items wanted (passed + 1) fields []
    else .error (.wrongLength passed wanted)
  | passed, f :: fields, j :: rest => do
    f.accept j
    items wanted (passed + 1) fields rest

def record (name : String) (fields : List Field) : Check
  | .obj written => object fields written
  | .arr values =>
    let elements := if fields.length = 1 then " element" else " elements"
    items ("struct " ++ name ++ " with " ++ toString fields.length ++ elements) 0 fields values
  | j => j.wrongKind ("struct " ++ name)

end Check

end SyntaxPanel
