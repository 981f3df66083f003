import SyntaxPanel.CommandLine.Command
import SyntaxPanel.Panel.Config

/-! Reading the command line.
The value of an option may come as the next argument, so that an option or a path is only
settled when something else follows it or the line ends. An argument that has no place at all
is told before anything that is not settled yet. -/
namespace SyntaxPanel.CommandLine

inductive Invocation where
  | serve (config : Config)
  | dump (path compiler : String)
  | print (text : String)
  | nothing
  | refuse (message : String)
deriving DecidableEq, Repr

inductive Pending where
  | flag (f : Flag) (value : Option String)
  | path (p : String)
deriving DecidableEq, Repr

structure Given where
  flags : List Flag := []
  compiler : String := ({} : Config).compiler
  reparse : ReparsePolicy := ({} : Config).reparse
  path : Option String := none
  pending : Option Pending := none
  trailing : Bool := false
deriving DecidableEq, Repr

namespace Given

def hasPath (g : Given) : Bool :=
  g.path.isSome ||
    match g.pending with
    | some (.path _) => true
    | _ => false

def isStarted (g : Given) : Bool := g.flags ≠ [] || g.path.isSome

/-- Settles an option. A wrong value counts as given all the same, a repeated option does not. -/
def settleFlag (g : Given) (f : Flag) (value : Option String) : Given × Option UsageError :=
  match value with
  | none => (g, some (.missingValue f))
  | some value =>
    if f ∈ g.flags then ({ g with flags := g.flags.erase f }, some (.repeated f))
    else
      let g := { g with flags := g.flags ++ [f] }
      match f with
      | .reparse =>
        match ReparsePolicy.parse value with
        | .ok reparse => ({ g with reparse }, none)
        | .error reason => (g, some (.invalidValue f value reason))
      | _ => ({ g with compiler := value }, none)

def settle (g : Given) : Given × Option UsageError :=
  let rest := { g with pending := none }
  match g.pending with
  | none => (rest, none)
  | some (.path p) => ({ rest with path := some p }, none)
  | some (.flag f value) => rest.settleFlag f value

end Given

inductive Step where
  | next (g : Given)
  | stop (i : Invocation)

def refuse (c : Command) (e : UsageError) (usage : String) : Invocation :=
  .refuse (e.message c usage)

def Given.settled (c : Command) (g : Given) (k : Given → Step) : Step :=
  match g.settle with
  | (g, none) => k g
  | (_, some e) => .stop (refuse c e c.usage)

def splitValue (cs : List Char) : String × Option String :=
  match cs.dropWhile (· ≠ '=') with
  | [] => (String.ofList cs, none)
  | _ :: value => (String.ofList (cs.takeWhile (· ≠ '=')), some (String.ofList value))

def escapeTip (c : Command) (argument : String) : Option Tip :=
  if c.takesPath then some (.value argument) else none

def unknownFlag (c : Command) (g : Given) (name : String) (rest : List String) : Invocation :=
  let g := g.settle.1
  let argument := "--" ++ name
  match (similar name (c.flags.map Flag.name)).getLast? with
  | some candidate =>
    let given := match c.flag? candidate with
      | some f => if f ∈ g.flags then g.flags else g.flags ++ [f]
      | none => g.flags
    refuse c (.unexpected argument (some (.flag candidate))) (c.usageWith given g.path.isSome)
  | none =>
    let elsewhere := if c = .top then Command.subcommands else []
    let found := elsewhere.filterMap fun sub =>
      match (similar name (sub.flags.map Flag.name)).getLast? with
      | some flag => if sub.name ∈ rest then some (rest.idxOf sub.name, sub.name, flag) else none
      | none => none
    let nearest := found.foldl (fun best candidate =>
      match best with
      | some b => if candidate.1 < b.1 then some candidate else some b
      | none => some candidate) (none : Option (Nat × String × String))
    let tip := match nearest with
      | some (_, sub, flag) => some (.flagOf sub flag)
      | none => escapeTip c argument
    refuse c (.unexpected argument tip) (c.usageWith g.flags g.path.isSome)

def longArgument (c : Command) (g : Given) (cs : List Char) (rest : List String) : Step :=
  let (name, value) := splitValue cs
  match c.flag? name, value with
  | none, _ => .stop (unknownFlag c g name rest)
  | some .help, none => g.settled c fun _ => .stop (.print c.helpText)
  | some .version, none => g.settled c fun _ => .stop (.print Command.version)
  | some .help, some value =>
    .stop (refuse c (.unwantedValue .help value) (c.usageOf .help g.isStarted))
  | some .version, some value =>
    .stop (refuse c (.unwantedValue .version value) (c.usageOf .version g.isStarted))
  | some f, some value =>
    g.settled c fun g =>
      { g with pending := some (.flag f (some value)) }.settled c .next
  | some f, none => g.settled c fun g => .next { g with pending := some (.flag f none) }

/-- An argument with one dash in front. Only its first letter matters. -/
def shortArgument (c : Command) (g : Given) (letter : Char) : Step :=
  if letter = 'h' then g.settled c fun _ => .stop (.print c.helpText)
  else if letter = 'V' ∧ c = .top then g.settled c fun _ => .stop (.print Command.version)
  else
    let argument := "-" ++ letter.toString
    .stop (refuse c (.unexpected argument (escapeTip c argument)) c.usage)

def plainArgument (c : Command) (g : Given) (argument : String) : Step :=
  if c.takesPath ∧ !g.hasPath then
    g.settled c fun g => .next { g with pending := some (.path argument) }
  else .stop (refuse c (.unexpected argument none) c.usage)

def argumentStep (c : Command) (g : Given) (argument : String) (rest : List String) : Step :=
  if g.trailing then plainArgument c g argument
  else
    match argument.toList with
    | ['-', '-'] => .next { g with trailing := true }
    | '-' :: '-' :: name => longArgument c g name rest
    | '-' :: letter :: _ => shortArgument c g letter
    | _ =>
      match g.pending with
      | some (.flag f none) => .next { g with pending := some (.flag f (some argument)) }
      | _ => plainArgument c g argument

def finish (c : Command) (g : Given) : Invocation :=
  match c, g.path with
  | .dump, some path => .dump path g.compiler
  | .dump, none => refuse c .missingPath (c.usageWith g.flags true)
  | _, _ => .serve { compiler := g.compiler, reparse := g.reparse }

def commandFrom (c : Command) (g : Given) : List String → Invocation
  | [] =>
    match g.settle with
    | (g, none) => finish c g
    | (_, some e) => refuse c e c.usage
  | argument :: rest =>
    match argumentStep c g argument rest with
    | .next g => commandFrom c g rest
    | .stop i => i

def unknownCommand (name : String) : Invocation :=
  refuse .top (.unknownCommand name (similar name (Command.subcommands.map Command.name)))
    Command.top.usage

def helpFrom (c : Command) : List String → Invocation
  | [] => .print c.helpText
  | name :: rest =>
    match c, Command.ofName? name with
    | .top, some sub => helpFrom sub rest
    | _, _ => refuse c (.unknownCommand name []) c.usage

def parse (arguments : List String) : Invocation :=
  match arguments with
  | [] => .nothing
  | argument :: rest =>
    match Command.ofName? argument, argument.toList with
    | some .help, _ => helpFrom .top rest
    | some c, _ => commandFrom c {} rest
    | none, ['-', '-'] =>
      match rest with
      | [] => .nothing
      | name :: _ =>
        if (Command.ofName? name).isSome then
          refuse .top (.unexpected name (some (.command name))) Command.top.usage
        else unknownCommand name
    | none, '-' :: '-' :: name =>
      match longArgument .top {} name rest with
      | .stop i => i
      | .next _ => .nothing
    | none, '-' :: letter :: _ =>
      match shortArgument .top {} letter with
      | .stop i => i
      | .next _ => .nothing
    | none, _ => unknownCommand argument

end SyntaxPanel.CommandLine
