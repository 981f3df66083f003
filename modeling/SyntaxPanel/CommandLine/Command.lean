import SyntaxPanel.Binary
import SyntaxPanel.Text.Control

/-! The commands of the program, and how a wrong use of them is told.
What a mistyped word was meant to be is guessed by Jaro's measure, in floating point: words that are
equally alike can come out in either order. -/
namespace SyntaxPanel.CommandLine

def takeLetter (c : Char) (least greatest : Nat) :
    Nat → List (Char × Bool) → Option (List (Char × Bool))
  | _, [] => none
  | i, (d, used) :: rest =>
    if least ≤ i ∧ i ≤ greatest ∧ c = d ∧ used = false then some ((d, true) :: rest)
    else (takeLetter c least greatest (i + 1) rest).map ((d, used) :: ·)

def matchLetters (reach : Nat) :
    Nat → List Char → List (Char × Bool) → List Char × List (Char × Bool)
  | _, [], other => ([], other)
  | i, c :: rest, other =>
    match takeLetter c (i - reach) (i + reach) 0 other with
    | some other =>
      let (found, other) := matchLetters reach (i + 1) rest other
      (c :: found, other)
    | none => matchLetters reach (i + 1) rest other

/-- The likeness of two words, between zero and one: the mean of the shares of letters with a
partner in each word, and of those among them that are in order. -/
def likeness (a b : List Char) : Binary :=
  let reach := max a.length b.length / 2 - 1
  let (found, marked) := matchLetters reach 0 a (b.map (·, false))
  let partners := (marked.filter Prod.snd).map Prod.fst
  let swapped := ((found.zip partners).filter fun (c, d) => c != d).length / 2
  let m := found.length
  if a = [] ∧ b = [] then .round 1 1
  else if m = 0 then .round 0 1
  else
    let shares := (Binary.round m a.length).add (.round m b.length)
    (shares.add (.round (m - swapped) m)).divide 3

def isAlike (likeness : Binary) : Bool := (Binary.round 7 10).less likeness

/-- Puts a candidate behind all that are no more alike. -/
def insertCandidate (r : Binary) (name : String) :
    List (Binary × String) → List (Binary × String)
  | [] => [(r, name)]
  | (s, other) :: rest =>
    if r.less s then (r, name) :: (s, other) :: rest
    else (s, other) :: insertCandidate r name rest

def similar (word : String) (names : List String) : List String :=
  let candidates := names.foldl (fun found name =>
    let r := likeness word.toList name.toList
    if isAlike r then insertCandidate r name found else found) []
  candidates.map Prod.snd

inductive Command where
  | top
  | server
  | dump
  | help
deriving DecidableEq, Repr

inductive Flag where
  | compiler
  | reparse
  | help
  | version
deriving DecidableEq, Repr

namespace Flag

def name : Flag → String
  | compiler => "compiler"
  | reparse => "reparse"
  | help => "help"
  | version => "version"

def placeholder? : Flag → Option String
  | compiler => some "COMPILER"
  | reparse => some "REPARSE"
  | help => none
  | version => none

def shown (f : Flag) : String :=
  "--" ++ f.name ++
    match f.placeholder? with
    | some value => " <" ++ value ++ ">"
    | none => ""

end Flag

namespace Command

def name : Command → String
  | top => "astview"
  | server => "server"
  | dump => "dump"
  | help => "help"

def subcommands : List Command := [server, dump, help]

def ofName? (s : String) : Option Command := subcommands.find? fun c => c.name == s

def flags : Command → List Flag
  | top => [.help, .version]
  | server => [.compiler, .reparse, .help]
  | dump => [.compiler, .help]
  | help => []

def flag? (c : Command) (name : String) : Option Flag := c.flags.find? fun f => f.name == name

def takesPath (c : Command) : Bool := c = dump

def invocation : Command → String
  | top => "astview"
  | c => "astview " ++ c.name

def usage (c : Command) : String :=
  c.invocation ++
    match c with
    | top => " <COMMAND>"
    | server => " [OPTIONS]"
    | dump => " [OPTIONS] <PATH>"
    | help => " [COMMAND]..."

/-- How the command is used by somebody who has given some flags already. -/
def usageWith (c : Command) (given : List Flag) (path : Bool) : String :=
  if given = [] ∧ !path then c.usage
  else
    c.invocation ++ String.join (given.map fun f => " " ++ f.shown) ++
      match c with
      | top => " <COMMAND>"
      | dump => " <PATH>"
      | _ => ""

def choice (c : Command) : String :=
  let path := if c.takesPath then ["PATH"] else []
  let options := (c.flags.filter fun f => f.placeholder?.isSome).map Flag.shown
  "<" ++ "|".intercalate (path ++ options) ++ ">"

/-- How a flag without a value is used. Once the command has been given something, all that it
takes is shown beside the flag. -/
def usageOf (c : Command) (f : Flag) (started : Bool) : String :=
  if started then c.invocation ++ " " ++ f.shown ++ " " ++ c.choice else c.usageWith [f] false

def version : String := "astview 0.1.0\n"

def helpText : Command → String
  | top =>
    "Syntax tree view for TypeScript and JavaScript\n\nUsage: astview <COMMAND>\n\nCommands:\n" ++
    "  server  Run the language server over stdio\n  dump    Print the syntax tree of a file\n" ++
    "  help    Print this message or the help of the given subcommand(s)\n\nOptions:\n" ++
    "  -h, --help     Print help\n  -V, --version  Print version\n"
  | server =>
    "Run the language server over stdio\n\nUsage: astview server [OPTIONS]\n\nOptions:\n" ++
    "      --compiler <COMPILER>  [default: typescript]\n" ++
    "      --reparse <REPARSE>    [default: incremental]\n" ++
    "  -h, --help                 Print help\n"
  | dump =>
    "Print the syntax tree of a file\n\nUsage: astview dump [OPTIONS] <PATH>\n\n" ++
    "Arguments:\n  <PATH>  \n\nOptions:\n" ++
    "      --compiler <COMPILER>  [default: typescript]\n" ++
    "  -h, --help                 Print help\n"
  | help =>
    "Print this message or the help of the given subcommand(s)\n\n" ++
    "Usage: astview help [COMMAND]...\n\n" ++
    "Arguments:\n  [COMMAND]...  Print help for the subcommand(s)\n"

end Command

inductive Tip where
  | flag (name : String)
  | flagOf (owner name : String)
  | command (name : String)
  | value (argument : String)
deriving DecidableEq, Repr

inductive UsageError where
  | missingPath
  | unexpected (argument : String) (tip : Option Tip)
  | unknownCommand (name : String) (similar : List String)
  | invalidValue (f : Flag) (value reason : String)
  | missingValue (f : Flag)
  | repeated (f : Flag)
  | unwantedValue (f : Flag) (value : String)
deriving DecidableEq, Repr

/-- A text in quotes that a terminal shows in a style of its own. The style is turned off behind
it, which also ends a control sequence that the text has left open. -/
def emphasized (s : String) : String := "'\x1b[1m" ++ s ++ "\x1b[0m'"

def Tip.text : Tip → String
  | flag name => "a similar argument exists: " ++ emphasized ("--" ++ name)
  | flagOf owner name => emphasized (owner ++ " --" ++ name) ++ " exists"
  | command name =>
    "subcommand " ++ emphasized name ++ " exists; to use it, remove the " ++ emphasized "--" ++
      " before it"
  | value argument =>
    "to pass " ++ emphasized argument ++ " as a value, use " ++ emphasized ("-- " ++ argument)

namespace UsageError

def problem : UsageError → String
  | missingPath => "the following required arguments were not provided:\n  <PATH>"
  | unexpected argument _ => "unexpected argument " ++ emphasized argument ++ " found"
  | unknownCommand name _ => "unrecognized subcommand " ++ emphasized name
  | invalidValue f value reason =>
    "invalid value " ++ emphasized value ++ " for " ++ emphasized f.shown ++ ": " ++ reason
  | missingValue f => "a value is required for " ++ emphasized f.shown ++ " but none was supplied"
  | repeated f => "the argument " ++ emphasized f.shown ++ " cannot be used multiple times"
  | unwantedValue f value =>
    "unexpected value " ++ emphasized value ++ " for " ++ emphasized f.shown ++
      " found; no more were expected"

def tip? : UsageError → Option String
  | unexpected _ tip => tip.map Tip.text
  | unknownCommand _ [] => none
  | unknownCommand _ [name] => some ("a similar subcommand exists: " ++ emphasized name)
  | unknownCommand _ names =>
    some ("some similar subcommands exist: " ++ ", ".intercalate (names.map emphasized))
  | _ => none

def tellsUsage : UsageError → Bool
  | invalidValue .. => false
  | missingValue _ => false
  | _ => true

def styledMessage (e : UsageError) (c : Command) (usage : String) : String :=
  "error: " ++ e.problem ++ "\n\n" ++
    (match e.tip? with
      | some tip => "  tip: " ++ tip ++ "\n\n"
      | none => "") ++
    (if e.tellsUsage then "Usage: " ++ usage ++ "\n" else "") ++
    (if .help ∉ c.flags then ""
      else (if e.tellsUsage then "\n" else "") ++ "For more information, try " ++
        emphasized "--help" ++ ".\n")

def message (e : UsageError) (c : Command) (usage : String) : String :=
  Text.withoutControls (e.styledMessage c usage)

end UsageError

end SyntaxPanel.CommandLine
