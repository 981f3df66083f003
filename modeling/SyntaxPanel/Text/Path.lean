namespace SyntaxPanel.Text

def segments (separator : Char) : List Char → List (List Char)
  | [] => [[]]
  | c :: cs =>
    if c = separator then [] :: segments separator cs
    else match segments separator cs with
      | [] => [[c]]
      | part :: rest => (c :: part) :: rest

def components (path : List Char) : List (List Char) :=
  (segments '/' path).filter fun part => part != [] && part != ['.']

def fileName? (path : List Char) : Option (List Char) :=
  match (components path).getLast? with
  | some name => if name = ['.', '.'] then none else some name
  | none => none

def splitAtLastDot? : List Char → Option (List Char × List Char)
  | [] => none
  | c :: cs =>
    match splitAtLastDot? cs with
    | some (stem, extension) => some (c :: stem, extension)
    | none => if c = '.' then some ([], cs) else none

/-- The extension of a path. A name that only starts with a dot has none. -/
def extension? (path : List Char) : Option (List Char) :=
  match (fileName? path).bind splitAtLastDot? with
  | some (_ :: _, extension) => some extension
  | _ => none

end SyntaxPanel.Text
