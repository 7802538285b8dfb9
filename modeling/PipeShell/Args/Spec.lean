import PipeShell.Text.Count
import PipeShell.Text.Lines

/-!
# `PipeShell.Args.Spec`: what arguments a command takes

A command takes options, which are switches or come with a value, and at
most one kind of positional argument. `Spec.usage` is the help text that
a user can ask for.
-/

set_option autoImplicit false

namespace PipeShell.Args

/-- What comes with an option. -/
inductive OptionKind where
  | switch
  | text
  | count
deriving Repr, DecidableEq

/-- Why a text cannot be the value of an option. -/
def OptionKind.fault? (kind : OptionKind) (value : String) : Option String :=
  match kind with
  | .switch => none
  | .text => none
  | .count =>
      match Text.Count.read value with
      | .ok _ => none
      | .error f => some f.message

/-- An option: its long name, perhaps a letter, and its description. -/
structure OptionSpec where
  long : String
  short : Option Char
  kind : OptionKind
  help : String
deriving Repr, DecidableEq

namespace OptionSpec

/-- The long name as it is written. -/
def longForm (o : OptionSpec) : String := "--" ++ o.long

/-- The letter as it is written. -/
def shortForm? (o : OptionSpec) : Option String := o.short.map fun c => "-" ++ String.singleton c

/-- Whether an argument is this option. -/
def isCalled (o : OptionSpec) (arg : String) : Bool :=
  arg == o.longForm || o.shortForm? == some arg

end OptionSpec

/-- How many positional arguments there may be. After the first greedy
one all arguments are positional. -/
inductive Arity where
  | optional
  | repeated
  | greedy
deriving Repr, DecidableEq

/-- The positional arguments of a command. -/
structure PositionalSpec where
  name : String
  arity : Arity
  help : String
deriving Repr, DecidableEq

/-- The arguments of a command. -/
structure Spec where
  name : String
  about : String
  options : List OptionSpec
  positional : Option PositionalSpec
deriving Repr, DecidableEq

/-! ### The help text -/

/-- The column where descriptions start. -/
def helpColumn : Nat := 20

/-- The longest line of a description. -/
def helpWidth : Nat := 80

/-- Words laid out in lines, after what already stands in the first
one. -/
def fill (line : String) : List String → List String
  | [] => [line]
  | w :: ws =>
      if helpWidth < line.length + w.length + 1 then
        line :: fill ("".pushn ' ' helpColumn ++ w) ws
      else fill (line ++ " " ++ w) ws

/-- A label with its description. A label that is too long for its
column gets a line of its own. -/
def describe (label help : String) : List String :=
  let start := "  " ++ label
  let margin := "".pushn ' ' (helpColumn - start.length)
  match (Text.splitOn ' ' help.toList).map String.ofList with
  | [] => [start]
  | w :: ws =>
      if start.length < helpColumn then fill (start ++ margin ++ w) ws
      else start :: fill ("".pushn ' ' helpColumn ++ w) ws

/-- An option in the first line of the help text. -/
def OptionSpec.brief (o : OptionSpec) : String :=
  let name := o.shortForm?.getD o.longForm
  match o.kind with
  | .switch => " [" ++ name ++ "]"
  | _ => " [" ++ name ++ " <" ++ o.long ++ ">]"

/-- Positional arguments in the first line of the help text. -/
def PositionalSpec.brief (p : PositionalSpec) : String :=
  match p.arity with
  | .optional => " [--] [<" ++ p.name ++ ">]"
  | .repeated => " [--] [<" ++ p.name ++ "...>]"
  | .greedy => " [" ++ p.name ++ "...]"

/-- An option in the list of options. -/
def OptionSpec.describe (o : OptionSpec) : List String :=
  match o.shortForm? with
  | some s => Args.describe (s ++ ", " ++ o.longForm) o.help
  | none => Args.describe o.longForm o.help

/-- Positional arguments as a section of their own; greedy ones have
none. -/
def PositionalSpec.paragraph (p : PositionalSpec) : List String :=
  match p.arity with
  | .greedy => []
  | _ => "Positional Arguments:" :: Args.describe p.name p.help ++ [""]

/-- The help text of a command. -/
def Spec.usage (s : Spec) : String :=
  let positional := s.positional.toList
  let first := "Usage: " ++ s.name ++ String.join (s.options.map OptionSpec.brief)
    ++ String.join (positional.map PositionalSpec.brief)
  let body := [first, "", s.about, ""] ++ positional.flatMap PositionalSpec.paragraph
    ++ ["Options:"] ++ s.options.flatMap OptionSpec.describe
    ++ describe "--help, help" "display usage information"
  String.join (body.map (· ++ "\n"))

end PipeShell.Args
