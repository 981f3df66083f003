import SyntaxPanel.Json.Decimal
import SyntaxPanel.Text.Quoted

/-! Values of the messages that the panel exchanges with its host.
The fields of an object are in the order of their names, and no name occurs twice. Only a value that
has just been read may still have them as they were written, until it is `sorted`. -/
namespace SyntaxPanel

inductive Json where
  | null
  | bool (b : Bool)
  | int (n : Int)
  | decimal (d : Decimal)
  | str (s : String)
  | arr (items : List Json)
  | obj (fields : List (String × Json))
deriving Repr, Inhabited

namespace Json

mutual

def decEq : (a b : Json) → Decidable (a = b)
  | null, null => isTrue rfl
  | bool b, bool b' => if h : b = b' then isTrue (by rw [h]) else isFalse fun eq => h (bool.inj eq)
  | int n, int n' => if h : n = n' then isTrue (by rw [h]) else isFalse fun eq => h (int.inj eq)
  | decimal d, decimal d' =>
    if h : d = d' then isTrue (by rw [h]) else isFalse fun eq => h (decimal.inj eq)
  | str s, str s' => if h : s = s' then isTrue (by rw [h]) else isFalse fun eq => h (str.inj eq)
  | arr items, arr items' =>
    match decEqItems items items' with
    | isTrue h => isTrue (by rw [h])
    | isFalse h => isFalse fun eq => h (arr.inj eq)
  | obj fields, obj fields' =>
    match decEqFields fields fields' with
    | isTrue h => isTrue (by rw [h])
    | isFalse h => isFalse fun eq => h (obj.inj eq)
  | null, bool _ | null, int _ | null, decimal _ | null, str _ | null, arr _ | null, obj _
  | bool _, null | bool _, int _ | bool _, decimal _ | bool _, str _ | bool _, arr _ | bool _, obj _
  | int _, null | int _, bool _ | int _, decimal _ | int _, str _ | int _, arr _ | int _, obj _
  | decimal _, null | decimal _, bool _ | decimal _, int _ | decimal _, str _ | decimal _, arr _
  | decimal _, obj _
  | str _, null | str _, bool _ | str _, int _ | str _, decimal _ | str _, arr _ | str _, obj _
  | arr _, null | arr _, bool _ | arr _, int _ | arr _, decimal _ | arr _, str _ | arr _, obj _
  | obj _, null | obj _, bool _ | obj _, int _ | obj _, decimal _ | obj _, str _ | obj _, arr _ =>
    isFalse nofun

def decEqItems : (as bs : List Json) → Decidable (as = bs)
  | [], [] => isTrue rfl
  | [], _ :: _ => isFalse nofun
  | _ :: _, [] => isFalse nofun
  | a :: as, b :: bs =>
    match decEq a b, decEqItems as bs with
    | isTrue first, isTrue rest => isTrue (by rw [first, rest])
    | isFalse differ, _ => isFalse fun eq => differ (List.cons.inj eq).1
    | _, isFalse differ => isFalse fun eq => differ (List.cons.inj eq).2

def decEqFields : (as bs : List (String × Json)) → Decidable (as = bs)
  | [], [] => isTrue rfl
  | [], _ :: _ => isFalse nofun
  | _ :: _, [] => isFalse nofun
  | (name, a) :: as, (name', b) :: bs =>
    match decEq a b, decEqFields as bs with
    | isTrue first, isTrue rest =>
      if h : name = name' then isTrue (by rw [h, first, rest])
      else isFalse fun eq => h (Prod.mk.inj (List.cons.inj eq).1).1
    | isFalse differ, _ => isFalse fun eq => differ (Prod.mk.inj (List.cons.inj eq).1).2
    | _, isFalse differ => isFalse fun eq => differ (List.cons.inj eq).2

end

instance : DecidableEq Json := decEq

def setField (name : String) (value : Json) : List (String × Json) → List (String × Json)
  | [] => [(name, value)]
  | (other, w) :: rest =>
    if name < other then (name, value) :: (other, w) :: rest
    else if name = other then (name, value) :: rest
    else (other, w) :: setField name value rest

/-- The object with these fields; of two with the same name the later one counts. -/
def ofFields (fields : List (String × Json)) : Json :=
  .obj (fields.foldl (fun acc (name, value) => setField name value acc) [])

mutual

def sorted : Json → Json
  | .arr items => .arr (sortedItems items)
  | .obj fields => ofFields (sortedFields fields)
  | j => j

def sortedItems : List Json → List Json
  | [] => []
  | item :: rest => item.sorted :: sortedItems rest

def sortedFields : List (String × Json) → List (String × Json)
  | [] => []
  | (name, value) :: rest => (name, value.sorted) :: sortedFields rest

end

def field? (name : String) : Json → Option Json
  | .obj fields => fields.lookup name
  | _ => none

def ofNat (n : Nat) : Json := .int n

end Json

end SyntaxPanel

namespace SyntaxPanel.Json

def escapedChar (c : Char) : List Char :=
  if c = '"' || c = '\\' then ['\\', c]
  else if c = '\n' then ['\\', 'n']
  else if c = '\r' then ['\\', 'r']
  else if c = '\t' then ['\\', 't']
  else if c.toNat = 8 then ['\\', 'b']
  else if c.toNat = 12 then ['\\', 'f']
  else if c.toNat < 0x10 then ['\\', 'u', '0', '0', '0'] ++ Text.hex c.toNat
  else if c.toNat < 0x20 then ['\\', 'u', '0', '0'] ++ Text.hex c.toNat
  else [c]

def string (s : String) : String :=
  String.ofList ('"' :: (s.toList.flatMap escapedChar ++ ['"']))

mutual

def compact : Json → String
  | .null => "null"
  | .bool b => if b then "true" else "false"
  | .int n => toString n
  | .decimal d => d.text
  | .str s => string s
  | .arr items => "[" ++ ",".intercalate (compactItems items) ++ "]"
  | .obj fields => "\x7b" ++ ",".intercalate (compactFields fields) ++ "\x7d"

def compactItems : List Json → List String
  | [] => []
  | item :: rest => item.compact :: compactItems rest

def compactFields : List (String × Json) → List String
  | [] => []
  | (name, value) :: rest => (string name ++ ":" ++ value.compact) :: compactFields rest

end

mutual

def listing : Json → String
  | .null => "Null"
  | .bool b => if b then "Bool(true)" else "Bool(false)"
  | .int n => "Number(" ++ toString n ++ ")"
  | .decimal d => "Number(" ++ d.text ++ ")"
  | .str s => "String(" ++ Text.quote s ++ ")"
  | .arr items => "Array [" ++ ", ".intercalate (listItems items) ++ "]"
  | .obj fields => "Object \x7b" ++ ", ".intercalate (listFields fields) ++ "\x7d"

def listItems : List Json → List String
  | [] => []
  | item :: rest => item.listing :: listItems rest

def listFields : List (String × Json) → List String
  | [] => []
  | (name, value) :: rest => (Text.quote name ++ ": " ++ value.listing) :: listFields rest

end

end SyntaxPanel.Json
